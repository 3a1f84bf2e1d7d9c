import JsBridge.Proofs.QuickJsArguments

/-!
# QuickJS: `JavaScriptMethod::invoke` releases what it obtains

Every reference the function obtains (each converted argument, each element read from the
varargs array, the varargs array, the call's result) is released exactly once on every exit,
no slot of `jsArgs` that was never assigned is freed, and `JS_Call` receives exactly the
arguments `jsArguments` specifies.
-/

namespace JsBridge

namespace Qjs

variable {T : Type}

theorem readVarArgs_run {sig : Signature T} {xs : List JValue} (hfit : sig.ArgsFit (some xs))
    (s : QjsState) :
    ∃ vj k, readVarArgs sig (some xs) xs.length s = .ok (vj, k) s ∧
      (sig.isVarArgs = true →
        ∃ es, xs.getLast? = some vj ∧ vj.arrayElements = some es ∧ k = es.length) := by
  unfold readVarArgs
  cases hv : sig.isVarArgs
  · exact ⟨_, _, rfl, by simp⟩
  · obtain ⟨x, es, hl, he⟩ := varArgs_elements hfit hv
    have hne : xs ≠ [] := by rintro rfl; simp at hl
    have hlt : xs.length - 1 < xs.length := by
      have := List.length_pos.mpr hne; omega
    have hx : xs[xs.length - 1] = x := by
      rw [List.getLast?_eq_getLast _ hne, List.getLast_eq_getElem] at hl
      exact Option.some.inj hl
    refine ⟨x, es.length, ?_, fun _ => ⟨es, hl, he, rfl⟩⟩
    simp only [if_true]
    rw [bind_run_ok (getElement_some hlt s), hx]
    simp [getArrayLength, he]

/-- `numJsArguments` counts the fixed arguments and the `varArgCount` elements. -/
theorem numJsArguments_eq {sig : Signature T} {xs : List JValue} {k : Nat}
    (hn : xs.length = sig.argumentTypes.length) :
    (if sig.isVarArgs then xs.length + k - 1 else xs.length) =
      (fixedArguments sig xs).length + if sig.isVarArgs then k else 0 := by
  rw [fixedArguments_length hn]
  cases hv : sig.isVarArgs
  · simp [sig.minArgs_of_not hv, hn]
  · have := sig.minArgs_add_one hv; simp only [if_true]; omega

/-- The arguments `jsArguments` gives, when the varargs array has `k` elements, fill the fixed
slots and `k` more. -/
theorem jsArguments_length_eq {c : Codec T JSValue} {sig : Signature T} {xs : List JValue}
    {zs : List JSValue} {vj : JValue} {k : Nat}
    (hvar : sig.isVarArgs = true →
      ∃ es, xs.getLast? = some vj ∧ vj.arrayElements = some es ∧ k = es.length)
    (hX : jsArguments c sig xs = .ok zs) :
    zs.length = (fixedArguments sig xs).length + if sig.isVarArgs then k else 0 := by
  rw [jsArguments_length hX]
  cases hv : sig.isVarArgs
  · simp
  · obtain ⟨es, hl, he, hk⟩ := hvar hv
    simp [hl, he, hk]

/-- After the loop: `JS_Call` reads the assigned slots, and the autoreleased result and the
slots are released on every exit. -/
theorem afterLoop_exits {P : Type} (c : Codec T JSValue) (dt : DeferredTypes P T)
    (callee : QjsCallee) (m : JavaScriptMethod P T) (jsMethod jsThis : JSValue)
    (awaitJsPromise : Bool) (zs L : List JSValue) (s : QjsState) (h : s.owned.Perm (zs ++ L)) :
    Exits (fun _ s' => s'.owned.Perm L ∧ s'.calls = zs :: s.calls)
      (fun s' => s'.owned.Perm L ∧ s'.calls = zs :: s.calls) False
      ((do
        let args ← readSlots (Slots.filled zs zs.length).values
        let ret ← call callee jsMethod jsThis args
        autorelease ret (afterCall c dt m awaitJsPromise (Slots.filled zs zs.length) ret)) s) := by
  rw [Slots.filled_full, bind_run_ok (readSlots_map zs s),
    bind_run_ok (show call callee jsMethod jsThis zs s = _ from rfl)]
  refine (afterCall_exits c dt m awaitJsPromise zs L _ _ ?_).mono (fun _ _ h => h)
    (fun _ h => h) id
  exact (h.cons _).trans List.perm_middle.symm

end Qjs

variable {P T : Type}

/-- The run of `JavaScriptMethod::invoke` (QuickJS) on a fitting argument array: no undefined
behaviour, the function's references at exit are those at entry, and one `JS_Call` with the
arguments `jsArguments` specifies was made exactly when their conversion succeeded. -/
theorem invokeQuickJs_exits (c : Codec T JSValue) (dt : DeferredTypes P T) (callee : QjsCallee)
    (m : JavaScriptMethod P T) (jsMethod jsThis : JSValue) (javaArgs : Option (List JValue))
    (awaitJsPromise : Bool) (hfit : m.ArgsFit javaArgs) (s : QjsState) :
    Exits (fun _ s' => s'.owned.Perm s.owned ∧
        s'.calls = callsAfter (jsArguments c m.toSignature (javaArgs.getD [])) s.calls)
      (fun s' => s'.owned.Perm s.owned ∧
        s'.calls = callsAfter (jsArguments c m.toSignature (javaArgs.getD [])) s.calls) False
      (m.invokeQuickJs c dt callee jsMethod jsThis javaArgs awaitJsPromise s) := by
  cases javaArgs with
  | none =>
    have hts : m.argumentTypes = [] := hfit
    have hv : m.isVarArgs = false := by
      cases h : m.isVarArgs
      · rfl
      · exact absurd hts (m.varArgs_ne h)
    have hX : jsArguments c m.toSignature [] = .ok [] := by
      simp [jsArguments, fixedArguments, varArgElements, hv, hts]; rfl
    have := Qjs.afterLoop_exits c dt callee m jsMethod jsThis awaitJsPromise [] s.owned s
      (List.Perm.refl _)
    simp only [JavaScriptMethod.invokeQuickJs, Qjs.readVarArgs, hv, Option.map_none',
      Option.getD_none, hX, callsAfter]
    exact this
  | some xs =>
    obtain ⟨vj, k, hread, hvar⟩ := Qjs.readVarArgs_run hfit s
    have hn := hfit.1
    have hN := Qjs.numJsArguments_eq (k := k) hn
    have hloop := Qjs.convertArguments_run c m.toSignature xs vj k hn hvar hN
      (if m.isVarArgs then xs.length + k - 1 else xs.length) [] s.owned s (by simp) (by simp) (by simp)
    simp only [List.length_nil, List.nil_append, restArguments_zero] at hloop
    simp only [JavaScriptMethod.invokeQuickJs, Option.map_some', Option.getD_some]
    rw [bind_run_ok hread, Qjs.Slots.init_eq_filled]
    cases hX : jsArguments c m.toSignature xs with
    | error e =>
      rw [hX] at hloop
      obtain ⟨s', h', hown, hcalls⟩ := hloop
      rw [bind_run_error h']
      exact ⟨hown, by simp [callsAfter, hcalls]⟩
    | ok zs =>
      rw [hX] at hloop
      obtain ⟨s₁, h₁, hown₁, hcalls₁⟩ := hloop
      rw [bind_run_ok h₁, hN, ← Qjs.jsArguments_length_eq hvar hX]
      refine (Qjs.afterLoop_exits c dt callee m jsMethod jsThis awaitJsPromise zs s.owned s₁
        hown₁).mono ?_ ?_ id
      · exact fun _ _ h => ⟨h.1, by simp [h.2, hcalls₁, callsAfter]⟩
      · exact fun _ h => ⟨h.1, by simp [h.2, hcalls₁, callsAfter]⟩

/-- `JavaScriptMethod::invoke` (QuickJS) frees what it obtains exactly once: on a fitting argument
array no exit frees a reference it does not hold or a slot never assigned, and at every normal
or exceptional exit the references held are those held at entry. -/
theorem invokeQuickJs_frees_once (c : Codec T JSValue) (dt : DeferredTypes P T)
    (callee : QjsCallee) (m : JavaScriptMethod P T) (jsMethod jsThis : JSValue)
    (javaArgs : Option (List JValue)) (awaitJsPromise : Bool) (hfit : m.ArgsFit javaArgs)
    (s : QjsState) :
    NoFault (m.invokeQuickJs c dt callee jsMethod jsThis javaArgs awaitJsPromise s) ∧
      AllExits (fun s' => s'.owned.Perm s.owned)
        (m.invokeQuickJs c dt callee jsMethod jsThis javaArgs awaitJsPromise s) :=
  have h := invokeQuickJs_exits c dt callee m jsMethod jsThis javaArgs awaitJsPromise hfit s
  ⟨noFault_of_exits h, allExits_of_exits (h.mono (fun _ _ h => h.1) (fun _ h => h.1) False.elim)⟩

/-- A varargs method `f(vararg xs)` called with `[[null, null]]` on an empty ledger. -/
theorem invokeQuickJs_frees_once_varargs :
    let m : JavaScriptMethod Unit Unit := ⟨⟨"f", true, true, [()], nofun⟩, (), ()⟩
    let javaArgs := some [JValue.array [.null, .null]]
    let s : QjsState := ⟨fun _ => [], fun _ _ => none, 0, [], [], []⟩
    m.ArgsFit javaArgs ∧
      NoFault (m.invokeQuickJs ⟨fun _ _ => .ok .null, fun _ _ => .ok .null⟩
        ⟨fun _ => false, fun _ => ()⟩ (fun _ _ _ => .ok .undefined) .undefined .undefined
        javaArgs false s) ∧
      AllExits (fun s' => s'.owned.Perm s.owned)
        (m.invokeQuickJs ⟨fun _ _ => .ok .null, fun _ _ => .ok .null⟩
          ⟨fun _ => false, fun _ => ()⟩ (fun _ _ _ => .ok .undefined) .undefined .undefined
          javaArgs false s) :=
  have hfit : Signature.ArgsFit ⟨"f", true, true, [()], nofun⟩ (some [JValue.array [.null, .null]]) :=
    ⟨rfl, fun _ => rfl⟩
  ⟨hfit, invokeQuickJs_frees_once _ _ _ ⟨⟨"f", true, true, [()], nofun⟩, (), ()⟩ _ _ _ _ hfit _⟩

end JsBridge

import JsBridge.Duktape.JavaScriptMethod

/-!
# Duktape: the arguments `JavaScriptMethod::invoke` hands to JS

The argument loop pushes the fixed arguments one by one and then the varargs elements, ending
with `jsArguments` on the value stack in order and its length as the final `numArguments`; a
conversion failure pops the frame and the arguments pushed so far. `duk_pcall` (or
`duk_pcall_prop`) then takes exactly those values as the call's arguments, and nothing after
the call touches the log of calls.
-/

namespace JsBridge

namespace Duk

variable {T : Type} (c : Codec T DukValue) (sig : Signature T) (xs : List JValue) (frame : Nat)

/-- The loop's `catch`: the frame and the `ys` pushed over it are popped and the exception
rethrown. -/
theorem popFrame_run {α : Type} {ys base : List DukValue} {e : Exn} {s : DukState}
    (hs : s.stack = ys.reverse ++ base) (hf : frame ≤ base.length) :
    (do popN (frame + ys.length); raise e : DukM α) s =
      .error (.thrown e) { s with stack := base.drop frame } := by
  have hd : s.stack.drop (frame + ys.length) = base.drop frame := by
    rw [hs, Nat.add_comm, ← List.length_reverse ys, List.drop_append]
  rw [bind_run_ok (popN_run (by simp [hs]; omega)), hd]
  rfl

/-- One iteration of the loop, once the argument and its type are read. -/
theorem pushArguments_succ {fuel i : Nat} {s : DukState} (hi : i < xs.length)
    (ht : i < sig.argumentTypes.length) :
    pushArguments c sig xs frame xs.length (fuel + 1) i s =
      (catchStd
          (if sig.isVarArgs && i == xs.length - 1 then do
            let k ← pushArray c sig.argumentTypes[i] xs[i]
            pure (some (i + k))
          else do
            pushJava c sig.argumentTypes[i] xs[i]
            pure none)
          (fun e => do popN (frame + i); raise e) >>= fun r =>
        match r with
        | some n => pure n
        | none => pushArguments c sig xs frame xs.length fuel (i + 1)) s := by
  simp only [pushArguments]
  exact (bind_run_ok (at?_of_lt hi s)).trans (bind_run_ok (at?_of_lt ht s))

section Step

variable {fuel : Nat} {ys base : List DukValue} {s : DukState}
  (hi : ys.length < xs.length) (ht : ys.length < sig.argumentTypes.length)
  (hs : s.stack = ys.reverse ++ base) (hf : frame ≤ base.length)

include hi ht hs hf

/-- An iteration on a fixed argument: its conversion pushed, or the conversion's exception
rethrown with the frame popped. -/
theorem pushArguments_fixed_step (hc : (sig.isVarArgs && ys.length == xs.length - 1) = false) :
    pushArguments c sig xs frame xs.length (fuel + 1) ys.length s =
      match c.fromJava sig.argumentTypes[ys.length] xs[ys.length] with
      | .ok v => pushArguments c sig xs frame xs.length fuel (ys ++ [v]).length
          { s with stack := (ys ++ [v]).reverse ++ base }
      | .error e => .error (.thrown e) { s with stack := base.drop frame } := by
  rw [pushArguments_succ c sig xs frame hi ht]
  simp only [hc, Bool.false_eq_true, if_false]
  cases hv : c.fromJava sig.argumentTypes[ys.length] xs[ys.length] with
  | ok v =>
    rw [bind_run_ok (catchStd_run_ok (a := none) (t := { s with stack := v :: s.stack })
      (by rw [bind_run_ok (pushJava_ok hv)]; rfl))]
    simp [hs]
  | error e =>
    rw [bind_run_error ((catchStd_run_thrown (bind_run_error (pushJava_error hv))).trans
      (popFrame_run frame hs hf))]

/-- The iteration at the varargs array, the loop's last: its elements pushed and the final
`numArguments` returned, or the conversion's exception rethrown with the frame popped. -/
theorem pushArguments_varargs_step {es : List JValue}
    (hc : (sig.isVarArgs && ys.length == xs.length - 1) = true)
    (he : xs[ys.length].arrayElements = some es) :
    pushArguments c sig xs frame xs.length (fuel + 1) ys.length s =
      match c.fromJavaArray sig.argumentTypes[ys.length] es with
      | .ok vs => .ok (ys ++ vs).length { s with stack := (ys ++ vs).reverse ++ base }
      | .error e => .error (.thrown e) { s with stack := base.drop frame } := by
  rw [pushArguments_succ c sig xs frame hi ht]
  simp only [hc, if_true]
  cases hv : c.fromJavaArray sig.argumentTypes[ys.length] es with
  | ok vs =>
    rw [bind_run_ok (catchStd_run_ok (a := some (ys.length + vs.length))
      (t := { s with stack := vs.reverse ++ s.stack })
      (by rw [bind_run_ok (pushArray_ok he hv)]; rfl))]
    simp [hs]
  | error e =>
    rw [bind_run_error ((catchStd_run_thrown (bind_run_error (pushArray_error he hv))).trans
      (popFrame_run frame hs hf))]

end Step

/-- The loop from fixed argument `i`, the values `ys` pushed over a `base` whose top `frame`
values are the target: it pushes what `restArguments` gives and returns the final
`numArguments`, or it throws the first conversion failure with the frame popped. -/
theorem pushArguments_run (hn : xs.length = sig.argumentTypes.length)
    (hvar : sig.isVarArgs = true →
      ∃ x es, xs.getLast? = some x ∧ x.arrayElements = some es)
    (base : List DukValue) (hf : frame ≤ base.length) :
    ∀ fuel (ys : List DukValue) (s : DukState), fuel + ys.length = xs.length →
      ys.length ≤ (fixedArguments sig xs).length → s.stack = ys.reverse ++ base →
      pushArguments c sig xs frame xs.length fuel ys.length s =
        match restArguments c sig xs ys.length with
        | .ok zs => .ok (ys ++ zs).length { s with stack := (ys ++ zs).reverse ++ base }
        | .error e => .error (.thrown e) { s with stack := base.drop frame } := by
  have hF := fixedArguments_length hn
  have hmin := sig.minArgs_add_one
  have hmin' := sig.minArgs_of_not
  intro fuel
  induction fuel with
  | zero =>
    intro ys s hfi hi hs
    have hv : sig.isVarArgs = false := by
      cases hv : sig.isVarArgs
      · rfl
      · have := hmin hv; omega
    have hend : varArgElements c sig xs = .ok [] := by simp only [varArgElements, hv]; rfl
    rw [restArguments_end (by have := hmin' hv; omega), hend]
    simp only [List.append_nil, pushArguments, ← hs, show xs.length = ys.length by omega]
    rfl
  | succ fuel ih =>
    intro ys s hfi hi hs
    have hxs : ys.length < xs.length := by omega
    have hts : ys.length < sig.argumentTypes.length := hn ▸ hxs
    rcases Nat.lt_or_ge ys.length (fixedArguments sig xs).length with hlt | hge
    · -- a fixed argument
      have hc : (sig.isVarArgs && ys.length == xs.length - 1) = false := by
        cases hv : sig.isVarArgs
        · rfl
        · have := hmin hv; simp only [Bool.true_and, beq_eq_false_iff_ne]; omega
      rw [pushArguments_fixed_step c sig xs frame hxs hts hs hf hc, restArguments_step hlt,
        fixedArguments_getElem hlt hts hxs]
      cases hv : c.fromJava sig.argumentTypes[ys.length] xs[ys.length] with
      | error e => rfl
      | ok v =>
        dsimp only
        rw [ih (ys ++ [v]) _ (by simp; omega) (by simp; omega) rfl]
        simp only [List.length_append, List.length_singleton]
        cases restArguments c sig xs (ys.length + 1) with
        | error e => rfl
        | ok zs => simp [bind, Except.bind, pure, Except.pure]; omega
    · -- the varargs array
      have hv : sig.isVarArgs = true := by
        by_contra hv; have := hmin' (by simpa using hv); omega
      have hlast : ys.length = xs.length - 1 := by have := hmin hv; omega
      obtain ⟨x, es, hl, he⟩ := hvar hv
      have hx : xs[ys.length] = x := by
        rw [List.getLast?_eq_getElem?, ← hlast, List.getElem?_eq_getElem hxs] at hl
        exact Option.some.inj hl
      have htype : sig.varArgType hv = sig.argumentTypes[ys.length] := by
        simp only [Signature.varArgType, List.getLast_eq_getElem]
        congr 1; omega
      rw [pushArguments_varargs_step c sig xs frame hxs hts hs hf (by simp [hv, hlast])
        (hx ▸ he), restArguments_end hge]
      simp only [varArgElements, hv, dite_true, hl, he, Option.some_bind, Option.getD_some, htype]

/-- The target frame the set-up pushes: the target, and for a method the method name over it. -/
def targetFrame (m : Signature T) (p : DukValue) : List DukValue :=
  (if m.isLambda then [] else [.string m.methodName]) ++ [p]

/-- The set-up checks the target's kind and pushes the target frame; it throws no C++
exception. -/
theorem pushTarget_exits (m : Signature T) (p : DukValue) (E : DukState → Prop) (s : DukState) :
    Exits (fun idx s' => idx = s.stack.length ∧ (m.isLambda = false → ∃ q f, p = .object q f) ∧
        s' = { s with stack := targetFrame m p ++ s.stack }) E False (pushTarget m p s) := by
  have hget : getAt s.stack.length { s with stack := p :: s.stack } =
      .ok p { s with stack := p :: s.stack } := by simp [getAt]
  simp only [pushTarget]
  rw [bind_run_ok (push_run p), bind_run_ok (show normalizeTop { s with stack := p :: s.stack } =
    .ok s.stack.length { s with stack := p :: s.stack } by simp [normalizeTop])]
  cases hl : m.isLambda
  · simp only [Bool.false_eq_true, if_false]
    refine Exits.bind (requireObject_exits hget) fun _ s' ⟨hs', hobj⟩ => ?_
    subst hs'
    exact ⟨rfl, fun _ => hobj, by simp [targetFrame, hl]⟩
  · simp only [if_true]
    refine Exits.bind (requireFunction_exits hget) fun _ s' ⟨hs', _⟩ => ?_
    subst hs'
    exact ⟨rfl, by simp, by simp [targetFrame, hl]⟩

/-- The call takes the `zs` pushed over the target frame as its arguments and logs them; it
throws no C++ exception. -/
theorem callTarget_exits (callee : DukCallee) (m : Signature T) (p : DukValue)
    (hp : m.isLambda = false → ∃ q f, p = .object q f) (zs base : List DukValue)
    (E : DukState → Prop) (s : DukState) (hs : s.stack = zs.reverse ++ targetFrame m p ++ base) :
    Exits (fun _ s' => s'.calls = zs :: s.calls) E False
      (callTarget callee m base.length zs.length s) := by
  have hdrop : s.stack.drop zs.length = targetFrame m p ++ base := by
    rw [hs, List.append_assoc, ← List.length_reverse zs, List.drop_left]
  have htake : (s.stack.take zs.length).reverse = zs := by
    rw [hs, List.append_assoc, ← List.length_reverse zs, List.take_left, List.reverse_reverse]
  have hpush : ∀ (r : Except String DukValue) (s' : DukState) cs, s'.calls = cs →
      Exits (fun _ s'' => s''.calls = cs) E False (pushResult r s') := by
    intro r s' cs h; cases r <;> exact h
  unfold callTarget
  cases hl : m.isLambda
  · obtain ⟨q, f, rfl⟩ := hp hl
    have hobj : s.stack[s.stack.length - 1 - base.length]? = some (.object q f) := by
      have hlen : s.stack.length - 1 - base.length = zs.reverse.length + 1 := by
        simp [hs, targetFrame, hl]; omega
      rw [hlen, hs, List.append_assoc, List.getElem?_append_right (by omega)]
      simp [targetFrame, hl]
    simp only [Bool.false_eq_true, if_false]
    refine Exits.bind (Q := fun _ (s' : DukState) => s'.calls = zs :: s.calls) ?_ fun _ s' h =>
      Exits.bind (remove_logged (l := zs :: s.calls) base.length s' h) fun _ s'' h' => h'
    simp only [pcallProp, hdrop, targetFrame, hl, hobj, htake, Bool.false_eq_true, if_false,
      List.singleton_append, List.cons_append]
    split <;> exact hpush _ _ _ rfl
  · simp only [if_true, pcall, hdrop, targetFrame, hl, htake]
    exact hpush _ _ _ rfl

/-- Handling the result leaves the log of calls as it is, on every exit. -/
theorem popResult_logged {P : Type} (c : Codec T DukValue) (dt : DeferredTypes P T)
    (m : JavaScriptMethod P T) (awaitJsPromise ret : Bool) (l : List (List DukValue)) :
    Triple (Logged l) (popResult c dt m awaitJsPromise ret) (fun _ => Logged l) (Logged l)
      False := by
  unfold popResult
  split
  · have hpop : ∀ isDeferred : Bool, Triple (Logged l)
        (if (isDeferred && !dt.isDeferred m.returnValueType) = true then
          popJava c (dt.getDeferredType m.returnValueParameter)
        else popJava c m.returnValueType) (fun _ => Logged l) (Logged l) False := fun _ => by
      split <;> exact popJava_logged c _
    dsimp only
    split
    · exact Triple.bind isThenableTop_logged hpop
    · exact Triple.bind (Triple.pure fun _ hs => hs) hpop
  · exact Triple.bind currentJsException_logged fun e => Triple.raise fun _ hs => hs

end Duk

variable {P T : Type}

/-- The calls of `JavaScriptMethod::invoke` (Duktape) on a fitting argument array: no undefined
behaviour, and one JS call with the arguments `jsArguments` specifies was made exactly when
their conversion succeeded. -/
theorem invokeDuktape_calls (c : Codec T DukValue) (dt : DeferredTypes P T) (callee : DukCallee)
    (m : JavaScriptMethod P T) (jsHeapPtr : DukValue) (javaArgs : Option (List JValue))
    (awaitJsPromise : Bool) (hfit : m.ArgsFit javaArgs) (s : DukState) :
    Exits (fun _ s' => s'.calls = callsAfter (jsArguments c m.toSignature (javaArgs.getD [])) s.calls)
      (fun s' => s'.calls = callsAfter (jsArguments c m.toSignature (javaArgs.getD [])) s.calls)
      False (m.invokeDuktape c dt callee jsHeapPtr javaArgs awaitJsPromise s) := by
  set xs := javaArgs.getD []
  have hnum : (javaArgs.map List.length).getD 0 = xs.length := by cases javaArgs <;> rfl
  have hfit' : m.ArgsFit (some xs) := by
    cases javaArgs with
    | some _ => exact hfit
    | none =>
      refine ⟨by simp [xs, show m.argumentTypes = [] from hfit], fun hv => ?_⟩
      exact absurd (show m.argumentTypes = [] from hfit) (m.varArgs_ne hv)
  have hframe : (if m.isLambda then 1 else 2) = (Duk.targetFrame m.toSignature jsHeapPtr).length := by
    cases h : m.isLambda <;> simp [Duk.targetFrame, h]
  unfold JavaScriptMethod.invokeDuktape
  refine Exits.bind (Duk.pushTarget_exits _ jsHeapPtr _ s) fun idx s₁ ⟨hidx, hp, hs₁⟩ => ?_
  subst hidx hs₁
  have hloop := Duk.pushArguments_run c m.toSignature xs (if m.isLambda then 1 else 2) hfit'.1
    (fun hv => varArgs_elements hfit' hv) (Duk.targetFrame m.toSignature jsHeapPtr ++ s.stack)
    (by rw [hframe]; simp) xs.length []
    { s with stack := Duk.targetFrame m.toSignature jsHeapPtr ++ s.stack } (by simp) (by simp)
    (by simp)
  simp only [List.length_nil, List.nil_append, restArguments_zero] at hloop
  rw [hnum]
  cases hX : jsArguments c m.toSignature xs with
  | error e =>
    rw [hX] at hloop
    rw [bind_run_error hloop]
    rfl
  | ok zs =>
    rw [hX] at hloop
    rw [bind_run_ok hloop]
    refine Exits.bind (Duk.callTarget_exits callee _ _ hp zs s.stack _ _ (by simp)) fun ret s₂ h =>
      ?_
    exact Duk.popResult_logged c dt m awaitJsPromise ret _ s₂ h

end JsBridge

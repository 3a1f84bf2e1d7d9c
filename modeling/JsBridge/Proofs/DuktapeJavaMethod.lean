import JsBridge.Duktape.JavaMethod

/-!
# Duktape: the vector `JavaMethod::invoke` hands to Java

With `argv` the arguments in call order (the value stack reversed), the function hands
`m_methodBody` the vector `javaArguments` of spec §4.3 whenever JS passed at least `minArgs`
arguments to a varargs method, and always for a method that is not varargs. For a varargs method
called with fewer, `argCount - minArgs` wraps around in `size_t`: `popArray` is asked for nearly
`UInt64.size` (`2^64`) values instead of none, and the method is never called with the empty
varargs array.

With its own `m_methodBody` the function keeps the Duktape/C calling convention: it returns with
the converted result alone on its value stack, and throws with the stack empty.
-/

namespace JsBridge

variable {T α : Type}

namespace Duk

/-- `argCount - minArgs` in `size_t` is the difference when it is not negative. -/
theorem varArgCount_toNat {argCount minArgs : Nat} (h : minArgs ≤ argCount)
    (hsize : argCount < UInt64.size) :
    (varArgCount argCount minArgs).toNat = argCount - minArgs := by
  simp only [varArgCount, UInt64.toNat, UInt64.sub_def, UInt64.ofNat, BitVec.toNat_sub,
    BitVec.toNat_ofNat, UInt64.size] at hsize ⊢
  omega

/-- `argCount - minArgs` in `size_t` wraps around when it would be negative. -/
theorem varArgCount_toNat_of_lt {argCount minArgs : Nat} (h : argCount < minArgs)
    (hsize : minArgs < UInt64.size) :
    (varArgCount argCount minArgs).toNat = UInt64.size - (minArgs - argCount) := by
  simp only [varArgCount, UInt64.toNat, UInt64.sub_def, UInt64.ofNat, BitVec.toNat_sub,
    BitVec.toNat_ofNat, UInt64.size] at hsize ⊢
  omega

theorem popArray_run {c : Codec T DukValue} {t : T} {count : UInt64} {s : DukState}
    (h : count.toNat ≤ s.stack.length) :
    popArray c t count s = liftExn (c.toJavaArray t (s.stack.take count.toNat).reverse)
      { s with stack := s.stack.drop count.toNat } := by
  simp [popArray, h]

/-- One iteration, on parameter `i` over a stack holding the first `i + 1` arguments JS passed
(fewer if it passed fewer): slot `i` gets `fixedArgument`, the argument popped when JS passed it,
or the conversion's exception leaves. -/
theorem popArguments_step (c : Codec T DukValue) (ts : List T) (argv : List DukValue) {i : Nat}
    (suf : List JValue) {s : DukState} (hi : i < ts.length)
    (hs : s.stack = (argv.take (i + 1)).reverse) :
    match fixedArgument c argv i ts[i] with
    | .ok v => popArguments c ts argv.length (i + 1) (List.replicate (i + 1) .null ++ suf) s =
        popArguments c ts argv.length i (List.replicate i .null ++ v :: suf)
          { s with stack := (argv.take i).reverse }
    | .error e => popArguments c ts argv.length (i + 1) (List.replicate (i + 1) .null ++ suf) s =
        .error (.thrown e) { s with stack := (argv.take i).reverse } := by
  have hset : (List.replicate (i + 1) JValue.null ++ suf).set i =
      fun v => List.replicate i .null ++ v :: suf := by
    funext v
    rw [List.replicate_succ', List.append_assoc, List.set_append_right _ _ (by simp)]
    simp
  simp only [popArguments]
  rw [bind_run_ok (at?_of_lt hi s), hset]
  by_cases hargc : argv.length ≤ i
  · -- parameter `i` was not passed: `null`, nothing popped
    have hnull : fixedArgument c argv i ts[i] = .ok .null := by
      simp [fixedArgument, List.getElem?_eq_none hargc]
    have hs' : s.stack = (argv.take i).reverse := by
      rw [hs, List.take_of_length_le (by omega), List.take_of_length_le hargc]
    simp only [hargc, if_true, hnull]
    rw [bind_run_ok (pure_run _ _), ← hs']
  · -- parameter `i` was passed: it is on top
    have hlt : i < argv.length := by omega
    have htop : s.stack = argv[i] :: (argv.take i).reverse := by
      rw [hs, ← List.take_concat_get' argv i hlt, List.reverse_concat]
    have hpop : popJava c ts[i] s = liftExn (c.toJava ts[i] argv[i])
        { s with stack := (argv.take i).reverse } := by
      have htop' : top s = .ok argv[i] s := by simp [top, htop]
      simp only [popJava]
      rw [bind_run_ok htop', bind_run_ok (popN_run (by simp [htop]))]
      simp [htop]
    have hconv : fixedArgument c argv i ts[i] = c.toJava ts[i] argv[i] := by
      simp [fixedArgument, List.getElem?_eq_getElem hlt]
    simp only [hargc, if_false, hconv]
    cases hv : c.toJava ts[i] argv[i] with
    | error e => exact bind_run_error (hpop.trans (by rw [hv]; rfl))
    | ok v => exact bind_run_ok (hpop.trans (by rw [hv]; rfl))

/-- The fixed-argument loop from parameter `i` down, over a stack holding the first `i`
arguments (those JS passed): it fills slots `0..i)` with `fixedJavaArguments` and empties the
stack, or it throws a conversion's exception. -/
theorem popArguments_run (c : Codec T DukValue) (ts : List T) (argv : List DukValue) :
    ∀ i (suf : List JValue) (s : DukState), i ≤ ts.length → s.stack = (argv.take i).reverse →
      match fixedJavaArguments c argv (ts.take i) with
      | .ok pre => popArguments c ts argv.length i (List.replicate i .null ++ suf) s =
          .ok (pre ++ suf) { s with stack := [] }
      | .error _ => ∃ e s', popArguments c ts argv.length i (List.replicate i .null ++ suf) s =
          .error (.thrown e) s' := by
  intro i
  induction i with
  | zero =>
    intro suf s _ hs
    simp only [List.take_zero, List.reverse_nil] at hs
    show popArguments c ts argv.length 0 ([] ++ suf) s = .ok ([] ++ suf) { s with stack := [] }
    rw [← hs]
    rfl
  | succ i ih =>
    intro suf s hi hs
    have hts : i < ts.length := by omega
    have hF : fixedJavaArguments c argv (ts.take (i + 1)) = (do
        let pre ← fixedJavaArguments c argv (ts.take i)
        let v ← fixedArgument c argv i ts[i]
        pure (pre ++ [v])) := by
      rw [← List.take_concat_get' ts i hts, fixedJavaArguments_concat, List.length_take,
        Nat.min_eq_left hts.le]
    have step := popArguments_step c ts argv suf hts hs
    rw [hF]
    cases hv : fixedArgument c argv i ts[i] with
    | error e =>
      rw [hv] at step
      cases fixedJavaArguments c argv (ts.take i) <;> exact ⟨e, _, step⟩
    | ok v =>
      rw [hv] at step
      rw [step]
      have := ih (v :: suf) { s with stack := (argv.take i).reverse } (by omega) rfl
      cases hpre : fixedJavaArguments c argv (ts.take i) with
      | error e => simpa [hpre] using this
      | ok pre => simpa [hpre, bind, Except.bind, pure, Except.pure] using this

end Duk

/-- Past the too-many check, `JavaMethod::invoke` (Duktape) calls `m_methodBody` on
`javaArguments` of the arguments with the value stack emptied, or throws the exception of one of
the conversions, whenever the varargs count cannot wrap. -/
theorem JavaMethod.invokeDuktape_run (c : Codec T DukValue) (m : JavaMethod T)
    (methodBody : List JValue → DukM α) (s : DukState)
    (hcheck : (!m.isVarArgs && m.minArgs < s.stack.length) = false)
    (hcount : m.isVarArgs = true → m.minArgs ≤ s.stack.length)
    (hsize : s.stack.length < UInt64.size) :
    match javaArguments c m.toSignature s.stack.reverse with
    | .ok args => m.invokeDuktape c methodBody s = methodBody args { s with stack := [] }
    | .error _ => ∃ e s', m.invokeDuktape c methodBody s = .error (.thrown e) s' := by
  have hlen : s.stack.reverse.length = s.stack.length := List.length_reverse _
  have hmin := m.minArgs_add_one
  have hmin' := m.minArgs_of_not
  have hloop := Duk.popArguments_run c m.argumentTypes s.stack.reverse m.minArgs
  rw [hlen] at hloop
  unfold JavaMethod.invokeDuktape
  rw [bind_run_ok (show Duk.getTop s = .ok s.stack.length s from rfl)]
  simp only [hcheck, Bool.false_eq_true, if_false, pure_bind, javaArguments]
  by_cases hv : m.isVarArgs = true
  · -- varargs: the trailing arguments popped first, as one array
    have hle : m.minArgs ≤ s.stack.length := hcount hv
    have hset : (List.replicate m.argumentTypes.length JValue.null).set
        ((List.replicate m.argumentTypes.length JValue.null).length - 1) =
        fun a => List.replicate m.minArgs .null ++ [a] := by
      funext a
      rw [← hmin hv, List.length_replicate, List.replicate_succ',
        List.set_append_right _ _ (by simp)]
      simp
    have hpop : Duk.popArray c (m.varArgType hv) (Duk.varArgCount s.stack.length m.minArgs) s =
        liftExn (c.toJavaArray (m.varArgType hv) (s.stack.reverse.drop m.minArgs))
          { s with stack := (s.stack.reverse.take m.minArgs).reverse } := by
      rw [Duk.popArray_run (by rw [Duk.varArgCount_toNat hle hsize]; omega),
        Duk.varArgCount_toNat hle hsize, List.reverse_take, List.take_reverse,
        List.reverse_reverse, Nat.sub_sub_self hle]
    simp only [hv, dite_true, hset]
    cases hA : c.toJavaArray (m.varArgType hv) (s.stack.reverse.drop m.minArgs) with
    | error e =>
      have h := bind_run_error (f := fun a => Duk.popArguments c m.argumentTypes s.stack.length
        m.minArgs (List.replicate m.minArgs .null ++ [a]) >>= methodBody)
        (hpop.trans (by rw [hA]; rfl))
      cases fixedJavaArguments c s.stack.reverse (m.argumentTypes.take m.minArgs) <;>
        exact ⟨e, _, h⟩
    | ok a =>
      have := hloop [a] { s with stack := (s.stack.reverse.take m.minArgs).reverse }
        (by have := hmin hv; omega) rfl
      rw [bind_run_ok (hpop.trans (by rw [hA]; rfl))]
      cases hF : fixedJavaArguments c s.stack.reverse (m.argumentTypes.take m.minArgs) with
      | error e => obtain ⟨e', s', h⟩ := hF ▸ this; exact ⟨e', s', bind_run_error h⟩
      | ok pre => rw [hF] at this; exact bind_run_ok this
  · -- not varargs: the fixed arguments only
    have hv : m.isVarArgs = false := by simpa using hv
    have hle : s.stack.length ≤ m.minArgs := by simpa [hv] using hcheck
    have hn : m.argumentTypes.length = m.minArgs := (hmin' hv).symm
    have := hloop [] s (by omega)
      (by rw [List.take_of_length_le (by omega), List.reverse_reverse])
    simp only [hv, Bool.false_eq_true, dite_false, hn, List.append_nil] at this ⊢
    cases hF : fixedJavaArguments c s.stack.reverse (m.argumentTypes.take m.minArgs) with
    | error e => obtain ⟨e', s', h⟩ := hF ▸ this; exact ⟨e', s', bind_run_error h⟩
    | ok pre => rw [hF] at this; exact bind_run_ok this

/-- A varargs method called from JS with fewer than `minArgs` arguments: `argCount - minArgs`
wraps around in `size_t`, `popArray` is asked for `UInt64.size - (minArgs - argCount)` values,
more than the stack holds, and the method is never called, where spec §4.3 ends the vector with
the empty array. -/
theorem invokeDuktape_varArgCount_wraps (c : Codec T DukValue) (m : JavaMethod T)
    (methodBody : List JValue → DukM α) (hv : m.isVarArgs = true)
    (hsize : m.argumentTypes.length < UInt64.size) (s : DukState)
    (hlt : s.stack.length < m.minArgs) :
    (Duk.varArgCount s.stack.length m.minArgs).toNat =
      UInt64.size - (m.minArgs - s.stack.length) ∧
      m.invokeDuktape c methodBody s = .error (.engine "popArray: value stack underflow") s ∧
      ∀ args, javaArguments c m.toSignature s.stack.reverse = .ok args →
        args.getLast? = some (.array []) := by
  have hmin := m.minArgs_add_one hv
  have hwrap := Duk.varArgCount_toNat_of_lt hlt (by omega)
  refine ⟨hwrap, ?_, fun args h => ?_⟩
  · have hpop : Duk.popArray c (m.varArgType hv) (Duk.varArgCount s.stack.length m.minArgs) s =
        .error (.engine "popArray: value stack underflow") s := by
      simp only [Duk.popArray, hwrap]
      rw [if_neg (by omega)]
    unfold JavaMethod.invokeDuktape
    rw [bind_run_ok (show Duk.getTop s = .ok s.stack.length s from rfl)]
    simp only [hv, Bool.not_true, Bool.false_and, Bool.false_eq_true, if_false, pure_bind,
      dite_true]
    exact bind_run_error hpop
  · have hdrop : s.stack.reverse.drop m.minArgs = [] := List.drop_eq_nil_of_le (by simp; omega)
    simp only [javaArguments, hv, dite_true, hdrop, Codec.toJavaArray, List.mapM_nil] at h
    cases hF : fixedJavaArguments c s.stack.reverse (m.argumentTypes.take m.minArgs) with
    | error e => simp [hF] at h
    | ok pre =>
      simp only [hF, except_ok_bind] at h
      cases h
      simp

/-- `fun f(a, vararg xs)` called from JS with no argument. -/
theorem invokeDuktape_varArgCount_wraps_f :
    let m : JavaMethod Unit := ⟨⟨"f", false, true, [(), ()], nofun⟩, ()⟩
    let c : Codec Unit DukValue := ⟨fun _ _ => .ok .null, fun _ _ => .ok .undefined⟩
    let s : DukState := ⟨[], fun _ _ => none, []⟩
    m.isVarArgs = true ∧ m.argumentTypes.length < UInt64.size ∧ s.stack.length < m.minArgs ∧
      (Duk.varArgCount s.stack.length m.minArgs).toNat =
        UInt64.size - (m.minArgs - s.stack.length) ∧
      m.invokeDuktape c (fun _ => pure ()) s = .error (.engine "popArray: value stack underflow") s ∧
      ∀ args, javaArguments c m.toSignature s.stack.reverse = .ok args →
        args.getLast? = some (.array []) :=
  ⟨rfl, by decide, by decide,
    invokeDuktape_varArgCount_wraps ⟨fun _ _ => .ok .null, fun _ _ => .ok .undefined⟩
      ⟨⟨"f", false, true, [(), ()], nofun⟩, ()⟩ (fun _ => pure ()) rfl (by decide)
      ⟨[], fun _ _ => none, []⟩ (by decide)⟩

end JsBridge

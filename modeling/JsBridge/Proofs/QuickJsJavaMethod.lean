import JsBridge.QuickJs.JavaMethod

/-!
# QuickJS: the vector `JavaMethod::invoke` hands to Java, and what it holds on the way

For every argument count the function hands `m_methodBody` the vector `javaArguments` of
spec §4.3, after releasing the varargs array and with it the references the array took over.
When the conversion of the varargs array throws, though, `JS_FreeValue(ctx, varArgArray)` is
skipped: the exception leaves with the array, and every argument it holds, still referenced.

With its own `m_methodBody`, a call whose arguments convert returns a new reference to the
converted result, which JS takes over, and holds nothing else new; an exception from the Java
call or from the result's conversion leaves it holding what it held at entry.
-/

namespace JsBridge

variable {T α : Type}

/-- Assigning the slot after a prefix of assigned ones. -/
theorem set_append_replicate {β : Type} (pre : List β) (x v : β) {n : Nat} (h : pre.length < n) :
    (pre ++ List.replicate (n - pre.length) x).set pre.length v =
      (pre ++ [v]) ++ List.replicate (n - (pre.length + 1)) x := by
  obtain ⟨k, hk⟩ : ∃ k, n - pre.length = k + 1 := ⟨n - pre.length - 1, by omega⟩
  rw [hk, List.set_append_right _ _ le_rfl, Nat.sub_self, List.replicate_succ,
    show n - (pre.length + 1) = k by omega]
  simp

namespace Qjs

/-- The length of the fixed slots is the number of parameters. -/
theorem fixedJavaArguments_length {c : Codec T JSValue} {argv : List JSValue} {ts : List T}
    {pre : List JValue} (h : fixedJavaArguments c argv ts = .ok pre) : pre.length = ts.length :=
  (length_of_mapM_ok h).trans List.enum_length

/-- The fixed-argument loop from parameter `i`, the first `i` slots holding the conversions:
it fills the first `N` slots with `fixedJavaArguments` or throws the first conversion's
exception, and it changes nothing else (the arguments are borrowed). -/
theorem toJavaArguments_run (c : Codec T JSValue) (ts : List T) (argv : List JSValue)
    (n : Nat) (s : QjsState) {N : Nat} (hN : N ≤ ts.length) (hn : N ≤ n) :
    ∀ fuel i (pre : List JValue), fuel + i = N → fixedJavaArguments c argv (ts.take i) = .ok pre →
      toJavaArguments c ts argv fuel i (pre ++ List.replicate (n - i) .null) s =
        match fixedJavaArguments c argv (ts.take N) with
        | .ok vs => .ok (vs ++ List.replicate (n - N) .null) s
        | .error e => .error (.thrown e) s := by
  intro fuel
  induction fuel with
  | zero =>
    intro i pre hi hpre
    simp only [Nat.zero_add] at hi
    subst hi
    rw [hpre]
    rfl
  | succ fuel ih =>
    intro i pre hi hpre
    have hts : i < ts.length := by omega
    have hlen : pre.length = i := by
      rw [fixedJavaArguments_length hpre, List.length_take, Nat.min_eq_left hts.le]
    have hF : fixedJavaArguments c argv (ts.take (i + 1)) = (do
        let v ← fixedArgument c argv i ts[i]
        pure (pre ++ [v])) := by
      rw [← List.take_concat_get' ts i hts, fixedJavaArguments_concat, hpre, List.length_take,
        Nat.min_eq_left hts.le]
      rfl
    have hset : ∀ v, (pre ++ List.replicate (n - i) JValue.null).set i v =
        (pre ++ [v]) ++ List.replicate (n - (i + 1)) .null := fun v => by
      subst hlen; exact set_append_replicate pre _ v (by omega)
    have hnext : ∀ v, fixedArgument c argv i ts[i] = .ok v →
        toJavaArguments c ts argv fuel (i + 1) ((pre ++ [v]) ++ List.replicate (n - (i + 1)) .null)
          s = _ := fun v hv =>
      ih (i + 1) (pre ++ [v]) (by omega) (by rw [hF, hv]; rfl)
    simp only [toJavaArguments]
    rw [bind_run_ok (at?_of_lt hts s)]
    by_cases hargc : argv.length ≤ i
    · -- parameter `i` was not passed: `null`
      have hnull : fixedArgument c argv i ts[i] = .ok .null := by
        simp [fixedArgument, List.getElem?_eq_none hargc]
      simp only [hargc, if_true]
      rw [bind_run_ok (pure_run _ s), hset, hnext _ hnull]
    · -- parameter `i` was passed: `argv[i]` converted
      have hlt : i < argv.length := by omega
      have hconv : fixedArgument c argv i ts[i] = c.toJava ts[i] argv[i] := by
        simp [fixedArgument, List.getElem?_eq_getElem hlt]
      simp only [hargc, if_false]
      rw [bind_run_ok (at?_of_lt hlt s)]
      cases hv : c.toJava ts[i] argv[i] with
      | ok v =>
        rw [bind_run_ok (show toJava c ts[i] argv[i] s = .ok v s by simp [toJava, hv]), hset,
          hnext _ (hconv.trans hv)]
      | error e =>
        have herr : fixedJavaArguments c argv (ts.take N) = .error e := by
          rw [← List.take_append_drop (i + 1) (ts.take N), List.take_take,
            Nat.min_eq_left (by omega)]
          exact fixedJavaArguments_append_error _ (by rw [hF, hconv, hv]; rfl)
        rw [bind_run_error (show toJava c ts[i] argv[i] s = .error (.thrown e) s by
          simp [toJava, hv]), herr]

/-- The copy loop from `j`, the array holding the first `j` trailing arguments: each further one
gets a new reference that the array takes over, so the function's own references are unchanged
and the array ends holding all of them. -/
theorem copyVarArgs_run (a : Nat) (b : Bool) (argv : List JSValue) (minArgs : Nat) :
    ∀ fuel j (s : QjsState), j + fuel = (argv.drop minArgs).length →
      s.arrays a = (argv.drop minArgs).take j →
      copyVarArgs (.obj a b) argv minArgs fuel j s = .ok ()
        { s with arrays := Function.update s.arrays a (argv.drop minArgs),
                 stored := (((argv.drop minArgs).drop j).map fun v => (a, v)).reverse ++ s.stored } := by
  intro fuel
  induction fuel with
  | zero =>
    intro j s hj ha
    have hdrop : (argv.drop minArgs).drop j = [] := List.drop_eq_nil_of_le (by omega)
    have htake : (argv.drop minArgs).take j = argv.drop minArgs :=
      List.take_of_length_le (by omega)
    rw [hdrop, ← htake, ← ha, Function.update_eq_self]
    rfl
  | succ fuel ih =>
    intro j s hj ha
    have hj' : j < (argv.drop minArgs).length := by omega
    have hlt : minArgs + j < argv.length := by simp at hj'; omega
    have hlen : (s.arrays a).length = j := by rw [ha, List.length_take]; omega
    obtain ⟨v, hv⟩ : ∃ v, v = (argv.drop minArgs)[j] := ⟨_, rfl⟩
    have hget : argv[minArgs + j] = v := by simp [hv, List.getElem_drop]
    have hset : setPropertyUint32 (.obj a b) j v (s.acquire v) = .ok ()
        { s with arrays := Function.update s.arrays a ((argv.drop minArgs).take (j + 1)),
                 stored := (a, v) :: s.stored } := by
      have hnone : (s.arrays a)[j]? = none := List.getElem?_eq_none (by omega)
      simp only [setPropertyUint32]
      simp only [QjsState.acquire, List.mem_cons_self, if_true, hlen, lt_irrefl, if_false,
        Nat.sub_self, List.replicate_zero, List.append_nil, hnone, List.erase_cons_head]
      rw [ha, ← List.take_concat_get' _ _ hj', hv]
    have := ih (j + 1)
      { s with arrays := Function.update s.arrays a ((argv.drop minArgs).take (j + 1)),
               stored := (a, v) :: s.stored } (by omega) (by simp)
    simp only [copyVarArgs]
    rw [bind_run_ok (at?_of_lt hlt s), hget,
      bind_run_ok (show dupValue v s = .ok v (s.acquire v) from rfl), bind_run_ok hset, this]
    simp [Function.update_idem, List.drop_eq_getElem_cons hj', hv]

/-- The varargs block up to the conversion: a new array, which the function holds, ends up
holding a new reference to each trailing argument, and is then converted. -/
theorem varArgsToJava_eq (c : Codec T JSValue) (t : T) (argv : List JSValue) (minArgs : Nat)
    (s : QjsState) :
    varArgsToJava c t argv minArgs s =
      (liftExn (c.toJavaArray t (argv.drop minArgs)) >>= fun a => do
        freeValue (.obj s.nextId false)
        pure a)
      { s with arrays := Function.update s.arrays s.nextId (argv.drop minArgs),
               nextId := s.nextId + 1, owned := .obj s.nextId false :: s.owned,
               stored := ((argv.drop minArgs).map fun v => (s.nextId, v)).reverse ++ s.stored } := by
  have hcount : ((argv.length : Int) - minArgs).toNat = (argv.drop minArgs).length := by
    simp only [List.length_drop]; omega
  have hcopy := copyVarArgs_run s.nextId false argv minArgs (argv.drop minArgs).length 0
    { s with arrays := Function.update s.arrays s.nextId [], nextId := s.nextId + 1,
             owned := .obj s.nextId false :: s.owned } (by omega) (by simp)
  simp only [varArgsToJava]
  rw [bind_run_ok (show newArray s = _ from rfl), hcount, bind_run_ok hcopy]
  simp only [List.drop_zero, Function.update_idem, bind, EStateM.bind, toJavaArray,
    Function.update_same]

/-- The varargs block when the conversion succeeds: the array is freed and with it the
references it took over, so the function holds what it held before. -/
theorem varArgsToJava_ok {c : Codec T JSValue} {t : T} {argv : List JSValue} {minArgs : Nat}
    {s : QjsState} {a : JValue} (hfresh : s.Fresh)
    (ha : c.toJavaArray t (argv.drop minArgs) = .ok a) :
    varArgsToJava c t argv minArgs s = .ok a
      { s with arrays := Function.update s.arrays s.nextId (argv.drop minArgs),
               nextId := s.nextId + 1 } := by
  have hnot : JSValue.obj s.nextId false ∉ s.owned := fun h => lt_irrefl _ (hfresh.2 _ _ h)
  rw [varArgsToJava_eq, ha, bind_run_ok (liftExn_ok _ _),
    bind_run_ok (freeValue_last (L := argv.drop minArgs)
      (s := { s with arrays := Function.update s.arrays s.nextId (argv.drop minArgs),
                     nextId := s.nextId + 1 }) hnot fun p hp => (hfresh.1 p hp).ne)]
  rfl

/-- The varargs block when the conversion throws: the exception leaves before
`JS_FreeValue(ctx, varArgArray)`, the array and what it took over still referenced. -/
theorem varArgsToJava_error {c : Codec T JSValue} {t : T} {argv : List JSValue} {minArgs : Nat}
    {s : QjsState} {e : Exn} (he : c.toJavaArray t (argv.drop minArgs) = .error e) :
    varArgsToJava c t argv minArgs s = .error (.thrown e)
      { s with arrays := Function.update s.arrays s.nextId (argv.drop minArgs),
               nextId := s.nextId + 1, owned := .obj s.nextId false :: s.owned,
               stored := ((argv.drop minArgs).map fun v => (s.nextId, v)).reverse ++ s.stored } := by
  rw [varArgsToJava_eq, he]
  rfl

end Qjs

/-- Past the too-many check, `JavaMethod::invoke` (QuickJS) calls `m_methodBody` on
`javaArguments` of the arguments holding exactly the references held at entry, or throws the
exception of the first conversion that fails. -/
theorem JavaMethod.invokeQuickJs_run (c : Codec T JSValue) (m : JavaMethod T)
    (methodBody : List JValue → QjsM α) (argv : List JSValue) (s : QjsState) (hfresh : s.Fresh)
    (hcheck : (!m.isVarArgs && m.minArgs < argv.length) = false) :
    match javaArguments c m.toSignature argv with
    | .ok args => ∃ s', m.invokeQuickJs c methodBody argv s = methodBody args s' ∧
        s'.owned = s.owned ∧ s'.stored = s.stored ∧ s'.calls = s.calls
    | .error e => ∃ s', m.invokeQuickJs c methodBody argv s = .error (.thrown e) s' := by
  have hle := m.minArgs_le
  have hloop := Qjs.toJavaArguments_run c m.argumentTypes argv m.argumentTypes.length s hle hle
    m.minArgs 0 [] (Nat.add_zero _) rfl
  simp only [List.nil_append, Nat.sub_zero] at hloop
  unfold JavaMethod.invokeQuickJs
  simp only [hcheck, Bool.false_eq_true, if_false, pure_bind, javaArguments]
  cases hF : fixedJavaArguments c argv (m.argumentTypes.take m.minArgs) with
  | error e =>
    rw [hF] at hloop
    exact ⟨s, bind_run_error hloop⟩
  | ok pre =>
    rw [hF] at hloop
    rw [bind_run_ok hloop]
    by_cases hv : m.isVarArgs = true
    · have hn : m.argumentTypes.length - m.minArgs = 1 := by
        have := m.minArgs_add_one hv; omega
      simp only [hv, dite_true, hn, List.replicate_one, except_ok_bind]
      cases hA : c.toJavaArray (m.varArgType hv) (argv.drop m.minArgs) with
      | error e => exact ⟨_, bind_run_error (Qjs.varArgsToJava_error hA)⟩
      | ok a =>
        refine ⟨{ s with arrays := Function.update s.arrays s.nextId (argv.drop m.minArgs),
                         nextId := s.nextId + 1 }, ?_, rfl, rfl, rfl⟩
        rw [bind_run_ok (Qjs.varArgsToJava_ok hfresh hA)]
        simp
    · have hn : m.argumentTypes.length - m.minArgs = 0 := by
        have := m.minArgs_of_not (by simpa using hv); omega
      simp only [hv, Bool.false_eq_true, dite_false, hn, List.replicate_zero, List.append_nil,
        except_ok_bind, except_pure]
      exact ⟨s, rfl, rfl, rfl, rfl⟩

/-- `JavaMethod::invoke` (QuickJS) refines spec §4.3 for every argument count: the too-many
check, then `m_methodBody` on `javaArguments` of the arguments, called holding exactly the
references held at entry, or the exception of the first conversion that fails. -/
theorem JavaMethod.invokeQuickJs_refines (c : Codec T JSValue) (m : JavaMethod T)
    (methodBody : List JValue → QjsM α) (argv : List JSValue) (s : QjsState) (hfresh : s.Fresh) :
    if !m.isVarArgs && m.minArgs < argv.length then
      m.invokeQuickJs c methodBody argv s = .error (.thrown (m.tooManyParameters argv.length)) s
    else match javaArguments c m.toSignature argv with
      | .ok args => ∃ s', m.invokeQuickJs c methodBody argv s = methodBody args s' ∧
          s'.owned = s.owned ∧ s'.stored = s.stored ∧ s'.calls = s.calls
      | .error e => ∃ s', m.invokeQuickJs c methodBody argv s = .error (.thrown e) s' := by
  split
  · next hcheck =>
    unfold JavaMethod.invokeQuickJs
    simp only [hcheck, if_true]
    rfl
  · next hcheck => exact m.invokeQuickJs_run c methodBody argv s hfresh (by simpa using hcheck)

/-- `fun f(a, vararg xs)` called from JS with three arguments. -/
theorem invokeQuickJs_refines_f :
    let m : JavaMethod Unit := ⟨⟨"f", false, true, [(), ()], nofun⟩, ()⟩
    let c : Codec Unit JSValue := ⟨fun _ _ => .ok .null, fun _ _ => .ok .undefined⟩
    let argv : List JSValue := [.int 1, .int 2, .int 3]
    let s : QjsState := ⟨fun _ => [], fun _ _ => none, 0, [], [], []⟩
    s.Fresh ∧
      if !m.isVarArgs && m.minArgs < argv.length then
        m.invokeQuickJs c (fun _ => pure ()) argv s =
          .error (.thrown (m.tooManyParameters argv.length)) s
      else match javaArguments c m.toSignature argv with
        | .ok _ => ∃ s', m.invokeQuickJs c (fun _ => pure ()) argv s =
            (pure () : QjsM Unit) s' ∧ s'.owned = s.owned ∧ s'.stored = s.stored ∧ s'.calls = s.calls
        | .error e => ∃ s', m.invokeQuickJs c (fun _ => pure ()) argv s = .error (.thrown e) s' :=
  have hfresh : QjsState.Fresh ⟨fun _ => [], fun _ _ => none, 0, [], [], []⟩ := by
    simp [QjsState.Fresh]
  ⟨hfresh, JavaMethod.invokeQuickJs_refines ⟨fun _ _ => .ok .null, fun _ _ => .ok .undefined⟩
    ⟨⟨"f", false, true, [(), ()], nofun⟩, ()⟩ (fun _ => pure ()) [.int 1, .int 2, .int 3] _ hfresh⟩

/-- `JavaMethod::invoke` (QuickJS) with its own `m_methodBody`, called from JS with arguments
that convert: the Java method is called with `javaArguments` (a lambda receives them as its
`Object[]`, a Java exception it leaves pending comes back as a `JniException`). The function
throws exactly when that call or the result's conversion throws, with that exception; otherwise
it hands JS a new reference to the converted result. Past the argument conversions it holds
exactly the references it held at entry: the varargs array and the references it took over have
been released. -/
theorem JavaMethod.invokeQuickJs_returns_owned (c : Codec T JSValue) (m : JavaMethod T)
    (jvm : JavaCalls) (argv : List JSValue) (s : QjsState) (hfresh : s.Fresh)
    (hcheck : (!m.isVarArgs && m.minArgs < argv.length) = false) {args : List JValue}
    (hargs : javaArguments c m.toSignature argv = .ok args) :
    ∃ s', s'.owned = s.owned ∧ s'.stored = s.stored ∧ s'.calls = s.calls ∧
      m.invokeQuickJs c (m.methodBodyQuickJs c jvm) argv s =
        match (if m.isLambda then (jvm.callNativeLambda args).mapError Exn.other
            else jvm.callMethod args) >>= c.fromJava m.returnValueType with
        | .ok v => .ok v (s'.acquire v)
        | .error e => .error (.thrown e) s' := by
  have hrun := m.invokeQuickJs_run c (m.methodBodyQuickJs c jvm) argv s hfresh hcheck
  rw [hargs] at hrun
  obtain ⟨s₁, h₁, hown, hstored, hcalls⟩ := hrun
  refine ⟨s₁, hown, hstored, hcalls, ?_⟩
  rw [h₁, JavaMethod.methodBodyQuickJs, ← JavaMethod.callJava_eq]
  cases m.callJava jvm args with
  | error e => exact bind_run_error (liftExn_error e _)
  | ok ret =>
    rw [bind_run_ok (liftExn_ok _ _), except_ok_bind]
    cases hv : c.fromJava m.returnValueType ret with
    | error e => exact Qjs.fromJava_error hv
    | ok v => exact Qjs.fromJava_ok hv

/-- A lambda `f(a)` called from JS with one argument, its result converted to `7`. -/
theorem invokeQuickJs_returns_owned_f :
    let m : JavaMethod Unit := ⟨⟨"f", true, false, [()], nofun⟩, ()⟩
    let c : Codec Unit JSValue := ⟨fun _ _ => .ok .null, fun _ _ => .ok (.int 7)⟩
    let jvm : JavaCalls := ⟨fun _ => .ok (.ref 0), fun _ => .ok .null⟩
    let argv : List JSValue := [.int 1]
    let s : QjsState := ⟨fun _ => [], fun _ _ => none, 0, [], [], []⟩
    s.Fresh ∧ (!m.isVarArgs && m.minArgs < argv.length) = false ∧
      javaArguments c m.toSignature argv = .ok [.null] ∧
      ∃ s' : QjsState, s'.owned = [] ∧ m.invokeQuickJs c (m.methodBodyQuickJs c jvm) argv s =
        .ok (.int 7) (s'.acquire (.int 7)) := by
  have hfresh : QjsState.Fresh ⟨fun _ => [], fun _ _ => none, 0, [], [], []⟩ := by
    simp [QjsState.Fresh]
  obtain ⟨s', hown, -, -, hrun⟩ := JavaMethod.invokeQuickJs_returns_owned
    ⟨fun _ _ => .ok .null, fun _ _ => .ok (.int 7)⟩ ⟨⟨"f", true, false, [()], nofun⟩, ()⟩
    ⟨fun _ => .ok (.ref 0), fun _ => .ok .null⟩ [.int 1] _ hfresh rfl rfl
  exact ⟨hfresh, rfl, rfl, s', hown, hrun.trans rfl⟩

/-- When the conversion of the varargs array throws, `JavaMethod::invoke` (QuickJS) propagates
the exception still holding the array it created, which still holds a reference to each trailing
argument: `JS_FreeValue(ctx, varArgArray)` is skipped and neither is ever released. -/
theorem JavaMethod.invokeQuickJs_leaks_varArgArray (c : Codec T JSValue) (m : JavaMethod T)
    (methodBody : List JValue → QjsM α) (argv : List JSValue) (s : QjsState)
    (hv : m.isVarArgs = true) {pre : List JValue} {e : Exn}
    (hfixed : fixedJavaArguments c argv (m.argumentTypes.take m.minArgs) = .ok pre)
    (he : c.toJavaArray (m.varArgType hv) (argv.drop m.minArgs) = .error e) :
    ∃ s', m.invokeQuickJs c methodBody argv s = .error (.thrown e) s' ∧
      s'.owned = .obj s.nextId false :: s.owned ∧
      s'.stored = ((argv.drop m.minArgs).map fun v => (s.nextId, v)).reverse ++ s.stored := by
  have hloop := Qjs.toJavaArguments_run c m.argumentTypes argv m.argumentTypes.length s
    m.minArgs_le m.minArgs_le m.minArgs 0 [] (Nat.add_zero _) rfl
  simp only [List.nil_append, Nat.sub_zero, hfixed] at hloop
  unfold JavaMethod.invokeQuickJs
  simp only [hv, Bool.not_true, Bool.false_and, Bool.false_eq_true, if_false, pure_bind,
    dite_true]
  rw [bind_run_ok hloop, bind_run_error (Qjs.varArgsToJava_error he)]
  exact ⟨_, rfl, rfl, rfl⟩

/-- `fun f(vararg xs)` called from JS with one argument its element type does not convert. -/
theorem invokeQuickJs_leaks_varArgArray_f :
    let m : JavaMethod Unit := ⟨⟨"f", false, true, [()], nofun⟩, ()⟩
    let c : Codec Unit JSValue :=
      ⟨fun _ _ => .error (.runtimeError "not an Int"), fun _ _ => .ok .undefined⟩
    let argv : List JSValue := [.bool true]
    let s : QjsState := ⟨fun _ => [], fun _ _ => none, 0, [], [], []⟩
    fixedJavaArguments c argv (m.argumentTypes.take m.minArgs) = .ok [] ∧
      ∃ s', m.invokeQuickJs c (fun _ => pure ()) argv s =
          .error (.thrown (.runtimeError "not an Int")) s' ∧
        s'.owned = .obj s.nextId false :: s.owned ∧
        s'.stored = ((argv.drop m.minArgs).map fun v => (s.nextId, v)).reverse ++ s.stored :=
  ⟨rfl, JavaMethod.invokeQuickJs_leaks_varArgArray
    ⟨fun _ _ => .error (.runtimeError "not an Int"), fun _ _ => .ok .undefined⟩
    ⟨⟨"f", false, true, [()], nofun⟩, ()⟩ (fun _ => pure ()) [.bool true]
    ⟨fun _ => [], fun _ _ => none, 0, [], [], []⟩ rfl rfl rfl⟩

end JsBridge

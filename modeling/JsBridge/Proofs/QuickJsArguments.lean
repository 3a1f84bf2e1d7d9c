import JsBridge.QuickJs.JavaScriptMethod

/-!
# QuickJS: the argument loop of `JavaScriptMethod::invoke`

`jsArgs` is filled in order: after `i` iterations its first `i` slots hold the converted
arguments and no other slot has been assigned (`Slots.filled`). The loop ends having assigned
every slot exactly once with the values `jsArguments` specifies, or, on a conversion failure,
having released every value it had obtained.
-/

namespace JsBridge

namespace Qjs

/-- `jsArgs` of length `n` whose first slots were assigned `ys`, in order, and no other. -/
def Slots.filled (ys : List JSValue) (n : Nat) : Slots :=
  ⟨ys.map some ++ List.replicate (n - ys.length) none, List.range ys.length⟩

theorem Slots.init_eq_filled (n : Nat) : Slots.init n = Slots.filled [] n := by
  simp [Slots.init, Slots.filled]

theorem writeSlot_filled {ys : List JSValue} {n : Nat} (h : ys.length < n) (v : JSValue)
    (s : QjsState) :
    writeSlot (Slots.filled ys n) ys.length v s = .ok (Slots.filled (ys ++ [v]) n) s := by
  obtain ⟨k, hk⟩ : ∃ k, n - ys.length = k + 1 := ⟨n - ys.length - 1, by omega⟩
  have hk' : n - (ys.length + 1) = k := by omega
  simp [writeSlot, Slots.filled, hk, hk', List.replicate_succ, List.range_succ,
    List.set_append_right]

theorem Slots.filled_take (ys : List JSValue) (n : Nat) :
    (Slots.filled ys n).values.take ys.length = ys.map some :=
  List.take_left' (by simp)

theorem Slots.filled_full (ys : List JSValue) : (Slots.filled ys ys.length).values = ys.map some := by
  simp [Slots.filled]

/-- Freeing assigned slots releases their values, the first ones first. -/
theorem freeSlots_run : ∀ (ys L : List JSValue) (s : QjsState), s.owned.Perm (ys ++ L) →
    ∃ s', freeSlots (ys.map some) s = .ok () s' ∧ s'.owned.Perm L ∧ s'.calls = s.calls
  | [], _, s, h => ⟨s, rfl, h, rfl⟩
  | y :: ys, L, s, h => by
    obtain ⟨s₁, h₁, hown, hcalls, -⟩ := freeValue_perm (K := ys) (L := L) h
    obtain ⟨s₂, h₂, hown₂, hcalls₂⟩ := freeSlots_run ys L s₁ hown
    exact ⟨s₂, by simp only [List.map_cons, freeSlots, bind_run_ok h₁, h₂], hown₂,
      hcalls₂.trans hcalls⟩

theorem readSlots_map (ys : List JSValue) (s : QjsState) : readSlots (ys.map some) s = .ok ys s := by
  induction ys with
  | nil => rfl
  | cons y ys ih => simp only [List.map_cons, readSlots, bind_run_ok ih]; rfl

/-- The nested loop copies the varargs array's elements from `j` on into the next slots, each
one a new reference. -/
theorem expandVarArgs_run (a : Nat) (vs : List JSValue) (n : Nat) :
    ∀ fuel j (ys L : List JSValue) (s : QjsState), s.arrays a = vs → fuel + j = vs.length →
      ys.length + fuel ≤ n → s.owned.Perm (ys ++ L) →
      ∃ s', expandVarArgs (.obj a false) fuel j ys.length (Slots.filled ys n) s =
          .ok (Slots.filled (ys ++ vs.drop j) n) s' ∧
        s'.owned.Perm ((ys ++ vs.drop j) ++ L) ∧ s'.calls = s.calls ∧ s'.arrays = s.arrays
  | 0, j, ys, L, s, _, hj, _, h => by
    have hd : vs.drop j = [] := List.drop_eq_nil_of_le (by omega)
    exact ⟨s, by simp [expandVarArgs, hd], by simpa [hd] using h, rfl, rfl⟩
  | fuel + 1, j, ys, L, s, ha, hj, hn, h => by
    have hjl : j < vs.length := by omega
    have hrun : getPropertyUint32 (.obj a false) j s = .ok vs[j] (s.acquire vs[j]) := by
      simp [ha, hjl]
    have hd : ys ++ vs.drop j = (ys ++ [vs[j]]) ++ vs.drop (j + 1) := by
      rw [List.drop_eq_getElem_cons hjl]; simp
    obtain ⟨s', h', hown, hcalls, harr⟩ := expandVarArgs_run a vs n fuel (j + 1) (ys ++ [vs[j]]) L
      (s.acquire vs[j]) ha (by omega) (by simp; omega) (acquire_perm h)
    refine ⟨s', ?_, hd ▸ hown, hcalls, harr⟩
    rw [hd]
    simp only [expandVarArgs]
    rw [bind_run_ok hrun, bind_run_ok (writeSlot_filled (by omega) _ _)]
    simpa using h'

theorem getElement_some {xs : List JValue} {i : Nat} (h : i < xs.length) (s : QjsState) :
    getElement (some xs) i s = .ok xs[i] s :=
  at?_of_lt h s

/-- The loop's `catch`: the values assigned so far are released and the exception rethrown. -/
theorem handler_run {α : Type} {ys L : List JSValue} {N : Nat} {e : Exn} {s : QjsState}
    (h : s.owned.Perm (ys ++ L)) :
    ∃ s', (do freeSlotsUpTo (Slots.filled ys N) ys.length; raise e : QjsM α) s =
      .error (.thrown e) s' ∧ s'.owned.Perm L ∧ s'.calls = s.calls := by
  obtain ⟨s', hfree, hown, hcalls⟩ := freeSlots_run ys L s h
  have hlen : ys.length ≤ (Slots.filled ys N).values.length := by simp [Slots.filled]
  refine ⟨s', ?_, hown, hcalls⟩
  simp only [freeSlotsUpTo, hlen, if_true, Slots.filled_take]
  rw [bind_run_ok hfree]
  rfl

variable {T : Type} (c : Codec T JSValue) (sig : Signature T) (xs : List JValue) (vj : JValue)
  (k : Nat)

/-- One iteration of the loop, once the argument and its type are read. -/
theorem convertArguments_succ {fuel i : Nat} {a : Slots} {s : QjsState} (hi : i < xs.length)
    (ht : i < sig.argumentTypes.length) :
    convertArguments c sig (some xs) xs.length vj k (fuel + 1) i a s =
      (catchStd (convertArgument c sig xs.length vj k sig.argumentTypes[i] xs[i] i a)
          (fun e => do freeSlotsUpTo a i; raise e) >>= fun r =>
        match r with
        | .inl a => pure a
        | .inr a => convertArguments c sig (some xs) xs.length vj k fuel (i + 1) a) s := by
  simp only [convertArguments]
  exact (bind_run_ok (getElement_some hi s)).trans (bind_run_ok (at?_of_lt ht s))

theorem convertArgument_fixed {t : T} {x : JValue} {i : Nat} {a : Slots}
    (hc : (sig.isVarArgs && xs.length - 1 ≤ i) = false) :
    convertArgument c sig xs.length vj k t x i a =
      (do let v ← fromJava c t x; let a ← writeSlot a i v; pure (.inr a)) := by
  simp only [convertArgument, hc, Bool.false_eq_true, if_false]

theorem convertArgument_varargs {t : T} {x : JValue} {i : Nat} {a : Slots}
    (hc : (sig.isVarArgs && xs.length - 1 ≤ i) = true) :
    convertArgument c sig xs.length vj k t x i a =
      (do
        let arr ← fromJavaArray c t vj
        let a ← expandVarArgs arr k 0 i a
        freeValue arr
        pure (.inl a)) := by
  simp only [convertArgument, hc, if_true]

/-- An iteration on a fixed argument: its conversion assigned to slot `i`, or the conversion's
exception rethrown with the earlier slots released. -/
theorem convertArguments_fixed_step (fuel : Nat) {N : Nat} {ys L : List JSValue} {s : QjsState}
    (hi : ys.length < xs.length) (ht : ys.length < sig.argumentTypes.length)
    (hN : ys.length < N) (hc : (sig.isVarArgs && xs.length - 1 ≤ ys.length) = false)
    (h : s.owned.Perm (ys ++ L)) :
    match c.fromJava sig.argumentTypes[ys.length] xs[ys.length] with
    | .ok v => convertArguments c sig (some xs) xs.length vj k (fuel + 1) ys.length
        (Slots.filled ys N) s = convertArguments c sig (some xs) xs.length vj k fuel
          (ys ++ [v]).length (Slots.filled (ys ++ [v]) N) (s.acquire v)
    | .error e => ∃ s', convertArguments c sig (some xs) xs.length vj k (fuel + 1) ys.length
        (Slots.filled ys N) s = .error (.thrown e) s' ∧ s'.owned.Perm L ∧ s'.calls = s.calls := by
  rw [convertArguments_succ c sig xs vj k hi ht, convertArgument_fixed c sig xs vj k hc]
  cases hv : c.fromJava sig.argumentTypes[ys.length] xs[ys.length] with
  | ok v =>
    dsimp only
    rw [bind_run_ok (catchStd_run_ok (a := .inr (Slots.filled (ys ++ [v]) N)) (t := s.acquire v)
      (by rw [bind_run_ok (fromJava_ok hv), bind_run_ok (writeSlot_filled hN _ _)]; rfl))]
    simp
  | error e =>
    obtain ⟨s', hrun, hown, hcalls⟩ := handler_run (α := Slots ⊕ Slots) (N := N) (e := e) h
    refine ⟨s', ?_, hown, hcalls⟩
    rw [bind_run_error ((catchStd_run_thrown (bind_run_error (fromJava_error hv))).trans hrun)]

/-- The iteration at the varargs array, the loop's last: the array converted, its elements
copied into the remaining slots and the array freed; or the conversion's exception rethrown with
the earlier slots released. -/
theorem convertArguments_varargs_step (fuel : Nat) {N : Nat} {ys L : List JSValue} {s : QjsState}
    {es : List JValue} (hi : ys.length < xs.length) (ht : ys.length < sig.argumentTypes.length)
    (hc : (sig.isVarArgs && xs.length - 1 ≤ ys.length) = true) (he : vj.arrayElements = some es)
    (hk : k = es.length) (hN : ys.length + k ≤ N) (h : s.owned.Perm (ys ++ L)) :
    match c.fromJavaArray sig.argumentTypes[ys.length] es with
    | .ok vs => ∃ s', convertArguments c sig (some xs) xs.length vj k (fuel + 1) ys.length
        (Slots.filled ys N) s = .ok (Slots.filled (ys ++ vs) N) s' ∧
        s'.owned.Perm ((ys ++ vs) ++ L) ∧ s'.calls = s.calls
    | .error e => ∃ s', convertArguments c sig (some xs) xs.length vj k (fuel + 1) ys.length
        (Slots.filled ys N) s = .error (.thrown e) s' ∧ s'.owned.Perm L ∧ s'.calls = s.calls := by
  rw [convertArguments_succ c sig xs vj k hi ht, convertArgument_varargs c sig xs vj k hc]
  cases hv : c.fromJavaArray sig.argumentTypes[ys.length] es with
  | ok vs =>
    have hlen : vs.length = k := (length_of_mapM_ok hv).trans hk.symm
    let arr := JSValue.obj s.nextId false
    let s₁ : QjsState := { s.acquire arr with
      arrays := Function.update s.arrays s.nextId vs, nextId := s.nextId + 1 }
    obtain ⟨s₂, h₂, hown₂, hcalls₂, -⟩ := expandVarArgs_run s.nextId vs N k 0 ys (arr :: L) s₁
      (by simp [s₁]) (by omega) (by omega) ((h.cons arr).trans List.perm_middle.symm)
    obtain ⟨s₃, h₃, hown₃, hcalls₃, -⟩ :=
      freeValue_perm (v := arr) (K := ys ++ vs) (L := L) (by simpa using hown₂.trans List.perm_middle)
    refine ⟨s₃, ?_, hown₃, hcalls₃.trans hcalls₂⟩
    dsimp only
    rw [bind_run_ok (catchStd_run_ok (a := .inl (Slots.filled (ys ++ vs) N)) (t := s₃)
      (by rw [bind_run_ok (fromJavaArray_ok he hv), bind_run_ok (by simpa using h₂),
        bind_run_ok h₃]; rfl))]
    rfl
  | error e =>
    obtain ⟨s', hrun, hown, hcalls⟩ := handler_run (α := Slots ⊕ Slots) (N := N) (e := e) h
    refine ⟨s', ?_, hown, hcalls⟩
    rw [bind_run_error ((catchStd_run_thrown (bind_run_error (fromJavaArray_error he hv))).trans hrun)]

/-- The loop from fixed argument `i`, the first `i` slots assigned `ys`: it assigns the rest of
`jsArgs` with `restArguments`, holding one new reference per slot, or it throws the first
conversion failure having released `ys`. -/
theorem convertArguments_run (hn : xs.length = sig.argumentTypes.length)
    (hvar : sig.isVarArgs = true →
      ∃ es, xs.getLast? = some vj ∧ vj.arrayElements = some es ∧ k = es.length)
    {N : Nat} (hN : N = (fixedArguments sig xs).length + if sig.isVarArgs then k else 0) :
    ∀ fuel (ys L : List JSValue) (s : QjsState), fuel + ys.length = N →
      ys.length ≤ (fixedArguments sig xs).length → s.owned.Perm (ys ++ L) →
      match restArguments c sig xs ys.length with
      | .ok zs => ∃ s', convertArguments c sig (some xs) xs.length vj k fuel ys.length
            (Slots.filled ys N) s = .ok (Slots.filled (ys ++ zs) N) s' ∧
          s'.owned.Perm ((ys ++ zs) ++ L) ∧ s'.calls = s.calls
      | .error e => ∃ s', convertArguments c sig (some xs) xs.length vj k fuel ys.length
            (Slots.filled ys N) s = .error (.thrown e) s' ∧ s'.owned.Perm L ∧
          s'.calls = s.calls := by
  have hF := fixedArguments_length hn
  intro fuel
  induction fuel with
  | zero =>
    intro ys L s hfi hi h
    have hend : varArgElements c sig xs = .ok [] := by
      unfold varArgElements
      split
      · next hv =>
        obtain ⟨es, hl, he, hk⟩ := hvar hv
        have : es = [] := List.length_eq_zero.mp (by simp only [hv, if_true] at hN; omega)
        simp only [hl, he, this, Codec.fromJavaArray, Option.some_bind, Option.getD_some]
        rfl
      · rfl
    rw [restArguments_end (by omega), hend]
    exact ⟨s, by simp [convertArguments], by simpa using h, rfl⟩
  | succ fuel ih =>
    intro ys L s hfi hi h
    have hmin := sig.minArgs_add_one
    rcases Nat.lt_or_ge ys.length (fixedArguments sig xs).length with hlt | hge
    · -- a fixed argument
      have hxs : ys.length < xs.length := by have := sig.minArgs_le; omega
      have hts : ys.length < sig.argumentTypes.length := hn ▸ hxs
      have hc : (sig.isVarArgs && xs.length - 1 ≤ ys.length) = false := by
        cases hv : sig.isVarArgs
        · rfl
        · have := hmin hv; simp only [Bool.true_and, decide_eq_false_iff_not]; omega
      have step := convertArguments_fixed_step c sig xs vj k fuel (N := N) hxs hts
        (by omega) hc h
      rw [restArguments_step hlt, fixedArguments_getElem hlt hts hxs]
      cases hv : c.fromJava sig.argumentTypes[ys.length] xs[ys.length] with
      | error e => simpa [hv] using step
      | ok v =>
        simp only [hv] at step
        have := ih (ys ++ [v]) L (s.acquire v) (by simp; omega) (by simp; omega) (acquire_perm h)
        simp only [List.length_append, List.length_singleton] at this
        rw [step]
        cases hr : restArguments c sig xs (ys.length + 1) with
        | error e => simpa [hr] using this
        | ok zs => simpa [hr] using this
    · -- the varargs array
      have hv : sig.isVarArgs = true := by
        by_contra hv; simp only [hv, Bool.false_eq_true, if_false] at hN; omega
      obtain ⟨es, hl, he, hk⟩ := hvar hv
      have hlen := hmin hv
      have hxs : ys.length < xs.length := by omega
      have hts : ys.length < sig.argumentTypes.length := hn ▸ hxs
      have hlast : sig.varArgType hv = sig.argumentTypes[ys.length] := by
        simp only [Signature.varArgType, List.getLast_eq_getElem]
        congr 1; omega
      have hes : (xs.getLast?.bind JValue.arrayElements).getD [] = es := by simp [hl, he]
      have step := convertArguments_varargs_step c sig xs vj k fuel (N := N) (L := L) hxs hts
        (by simp only [hv, Bool.true_and, decide_eq_true_eq]; omega) he hk
        (by simp only [hv, if_true] at hN; omega) h
      rw [restArguments_end hge]
      simp only [varArgElements, hv, dif_pos, hes, hlast]
      cases hr : c.fromJavaArray sig.argumentTypes[ys.length] es with
      | error e => simpa [hr] using step
      | ok zs => simpa [hr] using step

/-- After the call every slot is freed and the function is left holding only the result, which
the autorelease frees on the way out, normally or by an exception. -/
theorem afterCall_exits {P : Type} (dt : DeferredTypes P T) (m : JavaScriptMethod P T)
    (awaitJsPromise : Bool) (zs L : List JSValue) (ret : JSValue) (s : QjsState)
    (h : s.owned.Perm (zs ++ ret :: L)) :
    Exits (fun _ s' => s'.owned.Perm L ∧ s'.calls = s.calls)
      (fun s' => s'.owned.Perm L ∧ s'.calls = s.calls) False
      (autorelease ret (afterCall c dt m awaitJsPromise (Slots.filled zs zs.length) ret) s) := by
  obtain ⟨s₁, h₁, hown₁, hcalls₁⟩ := freeSlots_run zs (ret :: L) s h
  have hexit : (∃ r, afterCall c dt m awaitJsPromise (Slots.filled zs zs.length) ret s = .ok r s₁) ∨
      ∃ e, afterCall c dt m awaitJsPromise (Slots.filled zs zs.length) ret s =
        .error (.thrown e) s₁ := by
    simp only [afterCall, Slots.filled_full]
    rw [bind_run_ok h₁]
    by_cases hx : ret.isException
    · exact .inr ⟨_, by simp [hx]; rfl⟩
    · simp only [hx, Bool.false_eq_true, if_false]
      obtain ⟨b, hb⟩ : ∃ b, isThenable awaitJsPromise ret s₁ = .ok b s₁ := by
        unfold isThenable
        split
        · cases ret <;> exact ⟨_, rfl⟩
        · exact ⟨_, rfl⟩
      rw [bind_run_ok (pure_run _ _), bind_run_ok hb]
      split <;> exact liftExn_cases _ _
  refine autorelease_ledger ?_
  rcases hexit with ⟨r, hr⟩ | ⟨e, hr⟩ <;> rw [hr] <;> exact ⟨hown₁, hcalls₁⟩

end Qjs

end JsBridge

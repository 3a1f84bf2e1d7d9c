import JsBridge.JavaScriptObject
import Mathlib.Data.List.Nodup

/-!
# The method table: every method of the interface found by its ID

`emplace` keeps the IDs of a table distinct and makes its ID one of them. Over the whole
constructor loop, `methodTable` therefore ends with distinct IDs, every method of the interface
found by its ID, and each wrapper in the table built for a method with that ID.
-/

namespace JsBridge

variable {P T β : Type}

section Emplace

variable {methods : List (Nat × β)} {methodId i : Nat} {jsMethod b : β}

theorem mem_ids_emplace :
    i ∈ (emplace methods methodId jsMethod).map Prod.fst ↔
      i ∈ methods.map Prod.fst ∨ i = methodId := by
  unfold emplace
  split
  · next hany =>
    obtain ⟨p, hp, hid⟩ := List.any_eq_true.mp hany
    have : methodId ∈ methods.map Prod.fst := List.mem_map.mpr ⟨p, hp, by simpa using hid⟩
    constructor
    · exact .inl
    · rintro (h | rfl) <;> assumption
  · simp

theorem emplace_nodup (h : (methods.map Prod.fst).Nodup) :
    ((emplace methods methodId jsMethod).map Prod.fst).Nodup := by
  unfold emplace
  split
  · exact h
  · next hany =>
    have hnot : methodId ∉ methods.map Prod.fst := fun hm => hany (by
      obtain ⟨p, hp, rfl⟩ := List.mem_map.mp hm
      exact List.any_eq_true.mpr ⟨p, hp, by simp⟩)
    rw [List.map_append, List.nodup_append]
    exact ⟨h, List.nodup_singleton _, fun a ha hb => hnot (by simp at hb; exact hb ▸ ha)⟩

theorem mem_emplace {p : Nat × β} (h : p ∈ emplace methods methodId jsMethod) :
    p ∈ methods ∨ p = (methodId, jsMethod) := by
  unfold emplace at h
  split at h
  · exact .inl h
  · simpa using h

/-- `find` succeeds exactly on the IDs of the table. -/
theorem findMethod_isSome : (findMethod methods i).isSome ↔ i ∈ methods.map Prod.fst := by
  simp [findMethod, List.find?_isSome]

theorem mem_of_findMethod (h : findMethod methods i = some b) : (i, b) ∈ methods := by
  simp only [findMethod, Option.map_eq_some'] at h
  obtain ⟨p, hp, rfl⟩ := h
  have hi : p.1 = i := by simpa using List.find?_some hp
  exact hi ▸ List.mem_of_find?_eq_some hp

end Emplace

section Table

variable {tp : TypeProvider P T} {method : JavaMethodRef P} {rest methods : List (JavaMethodRef P)}
  {table table' : List (Nat × JavaScriptMethod P T)}

/-- One registered method: its interface, its ID and its wrapper, then the rest of the loop. -/
theorem methodTable_cons_ok (h : methodTable tp (method :: rest) table = .ok table') :
    ∃ mi methodId jsMethod, method.methodInterface = .ok mi ∧ method.methodId = .ok methodId ∧
      JavaScriptMethod.new tp mi mi.name false = .ok jsMethod ∧
      methodTable tp rest (emplace table methodId jsMethod) = .ok table' := by
  simp only [methodTable, bind, Except.bind] at h
  split at h
  · cases h
  · rename_i mi hmi
    split at h
    · cases h
    · rename_i methodId hid
      split at h
      · cases h
      · exact ⟨mi, methodId, _, hmi, hid, ‹_›, h⟩

theorem methodTable_nodup :
    ∀ {methods table}, methodTable tp methods table = .ok table' →
      (table.map Prod.fst).Nodup → (table'.map Prod.fst).Nodup
  | [], _, h, hnd => by cases h; exact hnd
  | _ :: _, _, h, hnd => by
    obtain ⟨_, _, _, -, -, -, hrest⟩ := methodTable_cons_ok h
    exact methodTable_nodup hrest (emplace_nodup hnd)

theorem methodTable_ids_mono :
    ∀ {methods table}, methodTable tp methods table = .ok table' →
      ∀ i ∈ table.map Prod.fst, i ∈ table'.map Prod.fst
  | [], _, h, i, hi => by cases h; exact hi
  | _ :: _, _, h, i, hi => by
    obtain ⟨_, _, _, -, -, -, hrest⟩ := methodTable_cons_ok h
    exact methodTable_ids_mono hrest i (mem_ids_emplace.mpr (.inl hi))

/-- Every method of the interface ends up in the table under its ID. -/
theorem methodTable_ids :
    ∀ {methods table}, methodTable tp methods table = .ok table' →
      ∀ r ∈ methods, ∃ methodId, r.methodId = .ok methodId ∧ methodId ∈ table'.map Prod.fst
  | [], _, _, _, hr => absurd hr (List.not_mem_nil _)
  | _ :: _, _, h, r, hr => by
    obtain ⟨_, methodId, _, -, hid, -, hrest⟩ := methodTable_cons_ok h
    rcases List.mem_cons.mp hr with rfl | hr
    · exact ⟨methodId, hid, methodTable_ids_mono hrest _ (mem_ids_emplace.mpr (.inr rfl))⟩
    · exact methodTable_ids hrest r hr

/-- Each wrapper the loop adds is built for a method of the interface with that ID. -/
theorem methodTable_built :
    ∀ {methods table}, methodTable tp methods table = .ok table' → ∀ p ∈ table', p ∈ table ∨
      ∃ r ∈ methods, ∃ mi, r.methodInterface = .ok mi ∧ r.methodId = .ok p.1 ∧
        JavaScriptMethod.new tp mi mi.name false = .ok p.2
  | [], _, h, p, hp => by cases h; exact .inl hp
  | method :: _, _, h, p, hp => by
    obtain ⟨mi, methodId, jsMethod, hmi, hid, hnew, hrest⟩ := methodTable_cons_ok h
    rcases methodTable_built hrest p hp with hp | ⟨r, hr, hbuilt⟩
    · rcases mem_emplace hp with hp | rfl
      · exact .inl hp
      · exact .inr ⟨method, List.mem_cons_self _ _, mi, hmi, hid, hnew⟩
    · exact .inr ⟨r, List.mem_cons_of_mem _ hr, hbuilt⟩

/-- When every method registers, the table has distinct IDs and `find` gives, for each method
of the interface, a wrapper built for a method with that ID. -/
theorem methodTable_registers (h : methodTable tp methods [] = .ok table) :
    RegistersAll tp methods table := by
  refine ⟨methodTable_nodup h List.nodup_nil, fun r hr => ?_⟩
  obtain ⟨methodId, hid, hin⟩ := methodTable_ids h r hr
  obtain ⟨jsMethod, hfind⟩ := Option.isSome_iff_exists.mp (findMethod_isSome.mpr hin)
  refine ⟨methodId, jsMethod, hid, hfind, ?_⟩
  rcases methodTable_built h _ (mem_of_findMethod hfind) with hnil | hbuilt
  · exact absurd hnil (List.not_mem_nil _)
  · exact hbuilt

end Table

section Step

variable {σ : Type} {tp : TypeProvider P T} {method : JavaMethodRef P} {mi : MethodInterface P}
  {table table₁ : List (Nat × JavaScriptMethod P T)} {catches : Exn → Bool}
  {hd : Exn → BridgeM σ (List (Nat × JavaScriptMethod P T))} {s t : σ}

/-- The `try` block of both constructors' loops, when it returns: the method's wrapper emplaced
under its ID, the state untouched, the handler (which always throws) not having run. -/
theorem registerStep_ok (hhd : ∀ e u a v, hd e u ≠ .ok a v)
    (h : catchWhen catches (do
        let methodId ← liftExn method.methodId
        let jsMethod ← liftExn (JavaScriptMethod.new tp mi mi.name false)
        pure (emplace table methodId jsMethod)) hd s = .ok table₁ t) :
    ∃ methodId jsMethod, method.methodId = .ok methodId ∧
      JavaScriptMethod.new tp mi mi.name false = .ok jsMethod ∧
      table₁ = emplace table methodId jsMethod ∧ t = s := by
  rcases catchWhen_run_ok_inv h with h | ⟨e, u, -, hhandler⟩
  · obtain ⟨methodId, _, h₁, h⟩ := bind_run_ok_inv h
    obtain ⟨jsMethod, _, h₂, h⟩ := bind_run_ok_inv h
    cases h
    obtain ⟨hid, rfl⟩ := liftExn_run_ok_inv h₁
    obtain ⟨hnew, rfl⟩ := liftExn_run_ok_inv h₂
    exact ⟨methodId, jsMethod, hid, hnew, rfl, rfl⟩
  · exact absurd hhandler (hhd e u _ _)

/-- The same block for a method whose ID resolves and whose wrapper is built: the wrapper
emplaced, the state untouched. -/
theorem registerStep_run {methodId : Nat} {jsMethod : JavaScriptMethod P T}
    (hid : method.methodId = .ok methodId)
    (hnew : JavaScriptMethod.new tp mi mi.name false = .ok jsMethod) (s : σ) :
    catchWhen catches (do
        let methodId ← liftExn method.methodId
        let jsMethod ← liftExn (JavaScriptMethod.new tp mi mi.name false)
        pure (emplace table methodId jsMethod)) hd s = .ok (emplace table methodId jsMethod) s :=
  catchWhen_run_ok (by rw [hid, bind_run_ok (liftExn_ok _ _), hnew]; rfl)

end Step

end JsBridge

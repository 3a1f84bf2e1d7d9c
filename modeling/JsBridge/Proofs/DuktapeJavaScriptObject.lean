import JsBridge.Duktape.JavaScriptObject
import JsBridge.Proofs.DuktapeStack
import JsBridge.Proofs.DuktapeArguments
import JsBridge.Proofs.MethodTable

/-!
# Duktape: `JavaScriptObject`, from registration to call

The constructor opens with `CHECK_STACK(ctx)`. A normal return leaves the value stack at its
entry height, and so does every `std::invalid_argument` the constructor throws itself or
rethrows from its `catch`. Any other exception from inside the loop (from reading the method
through JNI, or from the `try` block, whose `catch` takes only `std::invalid_argument`) leaves
with the object still pushed, one value above the entry height.

A constructor that returns has built `methodTable`, so `JavaScriptObject::call` finds every
method of the interface; a call of a registered method leaves the value stack at its entry
height and makes the JS call `jsArguments` specifies. An exception thrown inside its `try` leaves
as `Duk.callException` says: a `std::runtime_error` is rethrown naming the method, any other
passes through. A call whose method ID does not resolve, or is not in the table, throws and
changes nothing, so over any run of calls, each returning or throwing to Java, the run goes as
that of the calls that reach a method; the stack comes back to its height and the JS calls made
are exactly those the calls specify, in order.
-/

namespace JsBridge

namespace Duk

variable {P T : Type} {U : Prop}

theorem isObjectAt_height {E : DukState → Prop} {k : Nat} (idx : Nat) :
    Triple (Height k) (isObjectAt idx) (fun _ => Height k) E U := by
  intro s hs
  simp only [isObjectAt]
  split
  · split <;> exact hs
  · exact hs

/-- A failed check pops the property and the object; a passed one pops the property. -/
theorem checkMethod_height (check : Bool) (name strMethodName : String) (h : Nat) :
    Triple (Height (h + 1)) (checkMethod check name strMethodName) (fun _ => Height (h + 1))
      (Height h) U := by
  have hfail : ∀ e : Exn, Triple (Height (h + 1 + 1)) (popN 2 >>= fun _ => (raise e : DukM Unit))
      (fun _ => Height (h + 1)) (Height h) U :=
    fun e => Triple.bind (popN_height 2) fun _ => Triple.raise fun _ hs => hs
  unfold checkMethod
  split
  · refine Triple.bind (getPropString_height _) fun found => ?_
    split
    · exact hfail _
    · refine Triple.bind isCallableTop_height fun callable => ?_
      split
      · exact hfail _
      · exact popN_height 1
  · exact Triple.pure fun _ hs => hs

/-- The loop keeps the object pushed; it leaves by an exception either with the object popped
or, for an exception its `catch` does not take, with the object still pushed. -/
theorem registerMethods_height (tp : TypeProvider P T) (name : String) (check : Bool) (h : Nat) :
    ∀ (methods : List (JavaMethodRef P)) (table : List (Nat × JavaScriptMethod P T)),
      Triple (Height (h + 1)) (registerMethods tp name check methods table)
        (fun _ => Height (h + 1)) (fun s => Height h s ∨ Height (h + 1) s) U
  | [], _ => Triple.pure fun _ hs => hs
  | method :: rest, table => by
    simp only [registerMethods]
    refine Triple.bind (Triple.liftExn (fun _ _ hs => hs) fun _ hs => .inr hs) fun mi => ?_
    refine Triple.bind ((checkMethod_height check name mi.name h).conseq (fun _ hs => hs)
      (fun _ _ hs => hs) (fun _ hs => .inl hs) id) fun _ => ?_
    · refine Triple.bind (Triple.catchInvalidArgument (H := Height (h + 1)) ?_ (fun e => ?_)
        fun _ hs => .inr hs) fun table => registerMethods_height tp name check h rest table
      · exact Triple.bind (Triple.liftExn (fun _ _ hs => hs) fun _ hs => hs) fun _ =>
          Triple.bind (Triple.liftExn (fun _ _ hs => hs) fun _ hs => hs) fun _ =>
            Triple.pure fun _ hs => hs
      · exact Triple.bind (popN_height 1) fun _ => Triple.raise fun _ hs => .inl hs

/-- A loop that returns has built `methodTable` from the table it started with. -/
theorem registerMethods_table (tp : TypeProvider P T) (name : String) (check : Bool) :
    ∀ (methods : List (JavaMethodRef P)) (table table' : List (Nat × JavaScriptMethod P T))
      (s s' : DukState), registerMethods tp name check methods table s = .ok table' s' →
        methodTable tp methods table = .ok table'
  | [], _, _, _, _, h => by cases h; rfl
  | method :: rest, table, table', s, s', h => by
    simp only [registerMethods] at h
    obtain ⟨mi, s₁, h₁, h⟩ := bind_run_ok_inv h
    obtain ⟨_, s₂, -, h⟩ := bind_run_ok_inv h
    obtain ⟨table₁, s₃, h₃, h⟩ := bind_run_ok_inv h
    obtain ⟨methodId, jsMethod, hid, hnew, rfl, -⟩ := registerStep_ok (fun _ _ _ _ hd => by
      obtain ⟨_, _, -, hraise⟩ := bind_run_ok_inv hd; cases hraise) h₃
    simp only [methodTable, (liftExn_run_ok_inv h₁).1, hid, hnew, except_ok_bind]
    exact registerMethods_table tp name check rest _ table' s₃ s' h

end Duk

variable {P T : Type}

/-- The constructor returns with the value stack at its entry height, and throws with it at the
entry height or one above. -/
theorem newDuktape_height (tp : TypeProvider P T) (name : String) (jsObjectIndex : Nat)
    (methods : List (JavaMethodRef P)) (check : Bool) (h : Nat) :
    Triple (Duk.Height h) (JavaScriptObject.newDuktape tp name jsObjectIndex methods check)
      (fun _ => Duk.Height h) (fun s => Duk.Height h s ∨ Duk.Height (h + 1) s) True := by
  unfold JavaScriptObject.newDuktape
  refine Triple.bind (Duk.isObjectAt_height jsObjectIndex) fun isObject => ?_
  split
  · exact Triple.raise fun _ hs => .inl hs
  · refine Triple.bind (Duk.getAt_height jsObjectIndex) fun p =>
      Triple.bind (Duk.push_height p) fun _ =>
        Triple.bind (Duk.registerMethods_height tp name check h methods []) fun _ =>
          Triple.bind (Duk.popN_height 1) fun _ => Triple.pure fun _ hs => hs

/-- A constructor that returns has built `methodTable` from the interface's methods. -/
theorem newDuktape_table (tp : TypeProvider P T) (name : String) (jsObjectIndex : Nat)
    (methods : List (JavaMethodRef P)) (check : Bool) {s s' : DukState} {jsHeapPtr : DukValue}
    {table : List (Nat × JavaScriptMethod P T)}
    (h : JavaScriptObject.newDuktape tp name jsObjectIndex methods check s =
      .ok (jsHeapPtr, table) s') :
    methodTable tp methods [] = .ok table := by
  simp only [JavaScriptObject.newDuktape] at h
  obtain ⟨isObject, s₁, -, h⟩ := bind_run_ok_inv h
  cases isObject
  · cases h
  · obtain ⟨_, s₂, -, h⟩ := bind_run_ok_inv h
    obtain ⟨_, s₃, -, h⟩ := bind_run_ok_inv h
    obtain ⟨table₁, s₄, h₄, h⟩ := bind_run_ok_inv h
    obtain ⟨_, s₅, -, h⟩ := bind_run_ok_inv h
    cases h
    exact Duk.registerMethods_table tp name check methods [] _ s₃ s₄ h₄

/-- The exception that leaves `JavaScriptObject::call` (Duktape) when `e` is thrown inside its
`try`: the `catch` of `std::runtime_error` rethrows a `std::runtime_error` naming the method, and
any other exception passes through as it is. -/
def Duk.callException (isRuntimeError : Exn → Bool) (name methodName : String) (e : Exn) : Exn :=
  if isRuntimeError e then
    .runtimeError ("Error while calling JS method " ++ name ++ "." ++ methodName ++ ": " ++ e.what)
  else e

/-- The `try` of `call` (Duktape) around a body that throws `e`: `callException` of it leaves,
from the state the body left. -/
theorem Duk.catchCall_thrown {α : Type} {x : DukM α} {s s' : DukState} {e : Exn}
    (isRuntimeError : Exn → Bool) (name methodName : String)
    (h : x s = .error (.thrown e) s') :
    catchWhen isRuntimeError x (fun e => raise (.runtimeError
        ("Error while calling JS method " ++ name ++ "." ++ methodName ++ ": " ++ e.what))) s =
      .error (.thrown (Duk.callException isRuntimeError name methodName e)) s' := by
  unfold Duk.callException
  cases he : isRuntimeError e
  · exact catchWhen_run_other h he
  · exact catchWhen_run_caught h he

section Call

variable (c : Codec T DukValue) (dt : DeferredTypes P T) (callee : DukCallee)
  (isRuntimeError : Exn → Bool) (name : String) (jsHeapPtr : DukValue)
  (methods : List (Nat × JavaScriptMethod P T))

/-- A method ID that does not resolve: JNI's exception leaves before the `try`, with nothing
changed. -/
theorem callDuktape_unresolved (e : Exn) (methodName : String) (args : Option (List JValue))
    (awaitJsPromise : Bool) (s : DukState) :
    JavaScriptObject.callDuktape c dt callee isRuntimeError name (some jsHeapPtr) methods
      (.error e) methodName args awaitJsPromise s = .error (.thrown e) s :=
  bind_run_error (liftExn_error e s)

/-- A method ID that is not in the table: the `std::invalid_argument` that `call` throws inside
its `try` leaves as `callException` makes it, with nothing changed. -/
theorem callDuktape_missing {methodId : Nat} (hfind : findMethod methods methodId = none)
    (methodName : String) (args : Option (List JValue)) (awaitJsPromise : Bool) (s : DukState) :
    JavaScriptObject.callDuktape c dt callee isRuntimeError name (some jsHeapPtr) methods
        (.ok methodId) methodName args awaitJsPromise s =
      .error (.thrown (Duk.callException isRuntimeError name methodName
        (.invalidArgument ("Could not find method " ++ name ++ "." ++ methodName)))) s := by
  simp only [JavaScriptObject.callDuktape]
  rw [bind_run_ok (liftExn_ok _ _)]
  simp only [hfind]
  exact Duk.catchCall_thrown isRuntimeError name methodName (raise_run _ _)

/-- One call of `JavaScriptObject::call` (Duktape) whose arguments fit the wrapper it finds: on
every exit the value stack is at its entry height, there is no undefined behaviour, and the log
of JS calls grows as `JavaCall.jsCallsAfter` says. -/
theorem callDuktape_exits (q : JavaCall) (hfit : q.Fits methods) (s : DukState) :
    Exits (fun _ s' => s'.stack.length = s.stack.length ∧
        s'.calls = q.jsCallsAfter c methods s.calls)
      (fun s' => s'.stack.length = s.stack.length ∧ s'.calls = q.jsCallsAfter c methods s.calls)
      False
      (JavaScriptObject.callDuktape c dt callee isRuntimeError name (some jsHeapPtr) methods
        q.methodId q.methodName q.args q.awaitJsPromise s) := by
  obtain ⟨_ | methodId, methodName, args, awaitJsPromise⟩ := q
  · exact ⟨rfl, rfl⟩
  simp only [JavaScriptObject.callDuktape, JavaCall.jsCallsAfter]
  rw [bind_run_ok (liftExn_ok _ _)]
  cases hfind : findMethod methods methodId with
  | none =>
    refine Exits.catchWhen (H := fun s' => s' = s) rfl ?_ ?_ <;>
      (intro _ _ _ h; subst h; exact ⟨rfl, rfl⟩)
  | some jsMethod =>
    have hinvoke :=
      (invokeDuktape_height c dt callee jsMethod jsHeapPtr args awaitJsPromise _ s rfl).and
        (invokeDuktape_calls c dt callee jsMethod jsHeapPtr args awaitJsPromise
          (hfit _ _ rfl hfind) s)
    exact (hinvoke.mono (fun _ _ h => h) (fun _ h => h) And.right).catchWhen
      (fun _ _ _ h => h) (fun _ _ _ h => h)

/-- One call of `JavaScriptObject::call` (Duktape) whose arguments fit the wrapper it finds: its
exits as `callDuktape_exits` says, and when it reaches no method, exactly what it throws: JNI's
exception for a method ID that does not resolve, `callException` of the `std::invalid_argument`
naming the method for one that is not in the table, both with nothing changed. -/
theorem callDuktape_step (q : JavaCall) (hfit : q.Fits methods) (s : DukState) :
    Exits (fun _ s' => s'.stack.length = s.stack.length ∧
        s'.calls = q.jsCallsAfter c methods s.calls)
      (fun s' => s'.stack.length = s.stack.length ∧ s'.calls = q.jsCallsAfter c methods s.calls)
      False
      (JavaScriptObject.callDuktape c dt callee isRuntimeError name (some jsHeapPtr) methods
        q.methodId q.methodName q.args q.awaitJsPromise s) ∧
    (∀ e, q.methodId = .error e →
      JavaScriptObject.callDuktape c dt callee isRuntimeError name (some jsHeapPtr) methods
        q.methodId q.methodName q.args q.awaitJsPromise s = .error (.thrown e) s) ∧
    (∀ methodId, q.methodId = .ok methodId → findMethod methods methodId = none →
      JavaScriptObject.callDuktape c dt callee isRuntimeError name (some jsHeapPtr) methods
          q.methodId q.methodName q.args q.awaitJsPromise s =
        .error (.thrown (Duk.callException isRuntimeError name q.methodName
          (.invalidArgument ("Could not find method " ++ name ++ "." ++ q.methodName)))) s) := by
  refine ⟨callDuktape_exits c dt callee isRuntimeError name jsHeapPtr methods q hfit s,
    fun e h => ?_, fun methodId h hfind => ?_⟩ <;>
    obtain ⟨_, methodName, args, awaitJsPromise⟩ := q <;> cases h
  · exact callDuktape_unresolved c dt callee isRuntimeError name jsHeapPtr methods e _ _ _ s
  · exact callDuktape_missing c dt callee isRuntimeError name jsHeapPtr methods hfind _ _ _ s

end Call

/-- `JavaScriptObject::call` (Duktape) of a method in the table, with arguments that fit it: on
every exit the value stack is at its entry height, there is no undefined behaviour, and one JS
call with the arguments `jsArguments` specifies was made exactly when their conversion
succeeded. -/
theorem callDuktape_calls (c : Codec T DukValue) (dt : DeferredTypes P T) (callee : DukCallee)
    (isRuntimeError : Exn → Bool) (name : String) (jsHeapPtr : DukValue)
    (methods : List (Nat × JavaScriptMethod P T)) (methodId : Nat) (methodName : String)
    (args : Option (List JValue)) (awaitJsPromise : Bool) {jsMethod : JavaScriptMethod P T}
    (hfind : findMethod methods methodId = some jsMethod) (hfit : jsMethod.ArgsFit args)
    (s : DukState) :
    Exits (fun _ s' => s'.stack.length = s.stack.length ∧
        s'.calls = callsAfter (jsArguments c jsMethod.toSignature (args.getD [])) s.calls)
      (fun s' => s'.stack.length = s.stack.length ∧
        s'.calls = callsAfter (jsArguments c jsMethod.toSignature (args.getD [])) s.calls) False
      (JavaScriptObject.callDuktape c dt callee isRuntimeError name (some jsHeapPtr) methods
        (.ok methodId) methodName args awaitJsPromise s) := by
  simpa only [JavaCall.jsCallsAfter, hfind] using (callDuktape_step c dt callee isRuntimeError name
    jsHeapPtr methods _ (JavaCall.fits_of_findMethod hfind hfit methodName awaitJsPromise) s).1

/-- A method `get()` of the table called on an object. -/
theorem callDuktape_calls_get :
    let jsMethod : JavaScriptMethod Unit Unit := ⟨⟨"get", false, false, [], nofun⟩, (), ()⟩
    let c : Codec Unit DukValue := ⟨fun _ _ => .ok .null, fun _ _ => .ok .null⟩
    findMethod [(7, jsMethod)] 7 = some jsMethod ∧ jsMethod.ArgsFit none ∧
      ∀ s : DukState, Exits (fun _ s' => s'.stack.length = s.stack.length ∧
          s'.calls = callsAfter (jsArguments c jsMethod.toSignature []) s.calls)
        (fun s' => s'.stack.length = s.stack.length ∧
          s'.calls = callsAfter (jsArguments c jsMethod.toSignature []) s.calls) False
        (JavaScriptObject.callDuktape c ⟨fun _ => false, fun _ => ()⟩ (fun _ _ _ => .ok .undefined)
          (fun _ => true) "api" (some (.object 0 false)) [(7, jsMethod)] (.ok 7) "get" none false
          s) :=
  ⟨rfl, rfl, callDuktape_calls ⟨fun _ _ => .ok .null, fun _ _ => .ok .null⟩
    ⟨fun _ => false, fun _ => ()⟩ (fun _ _ _ => .ok .undefined) (fun _ => true) "api"
    (.object 0 false) [(7, ⟨⟨"get", false, false, [], nofun⟩, (), ()⟩)] 7 "get" none false rfl
    rfl⟩

/-- The check passes, leaving the stack as it was, when the object on top has a callable property
of that name. -/
theorem Duk.checkMethod_pass (check : Bool) (name : String) {strMethodName : String} {s : DukState}
    {p : Nat} {f : Bool} {rest : List DukValue} (hs : s.stack = .object p f :: rest)
    (hcheck : check = true → ∃ q, s.props p strMethodName = some (.object q true)) :
    Duk.checkMethod check name strMethodName s = .ok () s := by
  unfold Duk.checkMethod
  cases check with
  | false => rfl
  | true =>
    obtain ⟨q, hq⟩ := hcheck rfl
    simp only [if_true]
    rw [bind_run_ok (show Duk.getPropString strMethodName s =
      .ok true { s with stack := .object q true :: s.stack } by simp [Duk.getPropString, hs, hq])]
    simp only [Bool.not_true, Bool.false_eq_true, if_false]
    rw [bind_run_ok (show Duk.isCallableTop { s with stack := .object q true :: s.stack } = .ok true _
      from rfl)]
    simp [Duk.popN]

/-- A loop over methods that all register, with the object on top having a callable property
for each when `check` is set: it builds `methodTable` and leaves the state as it was. -/
theorem Duk.registerMethods_accepts (tp : TypeProvider P T) (name : String) (check : Bool)
    {p : Nat} {f : Bool} {rest : List DukValue} (s : DukState)
    (hs : s.stack = .object p f :: rest) :
    ∀ (methods : List (JavaMethodRef P)) (table table' : List (Nat × JavaScriptMethod P T)),
      methodTable tp methods table = .ok table' →
      (check = true → ∀ r ∈ methods, ∀ mi, r.methodInterface = .ok mi →
        ∃ q, s.props p mi.name = some (.object q true)) →
      registerMethods tp name check methods table s = .ok table' s
  | [], _, _, h, _ => by cases h; rfl
  | method :: methods, table, table', h, hcheck => by
    obtain ⟨mi, hmi, h⟩ := except_bind_eq_ok h
    obtain ⟨methodId, hid, h⟩ := except_bind_eq_ok h
    obtain ⟨jsMethod, hnew, h⟩ := except_bind_eq_ok h
    simp only [registerMethods, catchInvalidArgument]
    rw [hmi, bind_run_ok (liftExn_ok _ _),
      bind_run_ok (Duk.checkMethod_pass check name hs
        fun hc => hcheck hc method (List.mem_cons_self _ _) mi hmi),
      bind_run_ok (registerStep_run hid hnew s)]
    exact Duk.registerMethods_accepts tp name check s hs methods _ table' h
      fun hc r hr => hcheck hc r (List.mem_cons_of_mem _ hr)

/-- A constructor over an object, with methods that all register and (when `check` is set)
callable properties for them, returns `methodTable` with the state as it was. -/
theorem newDuktape_accepts (tp : TypeProvider P T) (name : String) (jsObjectIndex : Nat)
    (methods : List (JavaMethodRef P)) (check : Bool) (s : DukState) {p : Nat} {f : Bool}
    (hidx : jsObjectIndex < s.stack.length)
    (hobj : s.stack[s.stack.length - 1 - jsObjectIndex]? = some (.object p f))
    {table : List (Nat × JavaScriptMethod P T)} (htable : methodTable tp methods [] = .ok table)
    (hcheck : check = true → ∀ r ∈ methods, ∀ mi, r.methodInterface = .ok mi →
      ∃ q, s.props p mi.name = some (.object q true)) :
    JavaScriptObject.newDuktape tp name jsObjectIndex methods check s =
      .ok (.object p f, table) s := by
  have hloop := Duk.registerMethods_accepts tp name check
    { s with stack := .object p f :: s.stack } rfl methods [] table htable hcheck
  have hisObject : Duk.isObjectAt jsObjectIndex s = .ok true s := by
    simp [Duk.isObjectAt, hidx, hobj]
  have hget : Duk.getAt jsObjectIndex s = .ok (.object p f) s := by simp [Duk.getAt, hidx, hobj]
  unfold JavaScriptObject.newDuktape
  rw [bind_run_ok hisObject, Bool.not_true, if_neg Bool.false_ne_true, bind_run_ok hget,
    bind_run_ok (Duk.push_run _), bind_run_ok hloop, bind_run_ok (Duk.popN_run (by simp))]
  rfl

/-- A method whose ID resolution throws something other than `std::invalid_argument` (a pending
Java exception rethrown as a C++ one, say): the exception escapes the `catch`, and the constructor
is left with the object still pushed over the entry stack, whatever `check` is. -/
theorem newDuktape_leaves_object_pushed (tp : TypeProvider P T) (name : String)
    (jsObjectIndex : Nat) (mi : MethodInterface P) (rest : List (JavaMethodRef P)) (check : Bool)
    (s : DukState) {p : Nat} {f : Bool} {e : Exn} (hidx : jsObjectIndex < s.stack.length)
    (hobj : s.stack[s.stack.length - 1 - jsObjectIndex]? = some (.object p f))
    (hcheck : check = true → ∃ q, s.props p mi.name = some (.object q true))
    (he : e.isInvalidArgument = false) :
    JavaScriptObject.newDuktape tp name jsObjectIndex (⟨.ok mi, .error e⟩ :: rest) check s =
      .error (.thrown e) { s with stack := .object p f :: s.stack } := by
  have hpass := Duk.checkMethod_pass check name (s := { s with stack := .object p f :: s.stack })
    rfl hcheck
  unfold JavaScriptObject.newDuktape
  rw [bind_run_ok (show Duk.isObjectAt jsObjectIndex s = .ok true s by
    simp [Duk.isObjectAt, hidx, hobj])]
  simp only [Bool.not_true, Bool.false_eq_true, if_false]
  rw [bind_run_ok (show Duk.getAt jsObjectIndex s = .ok (.object p f) s by
    simp [Duk.getAt, hobj, hidx]), bind_run_ok (Duk.push_run _)]
  have hreg : Duk.registerMethods tp name check (⟨.ok mi, .error e⟩ :: rest) []
      { s with stack := .object p f :: s.stack } =
        .error (.thrown e) { s with stack := .object p f :: s.stack } := by
    simp only [Duk.registerMethods]
    rw [bind_run_ok (liftExn_ok _ _), bind_run_ok hpass,
      bind_run_error (catchInvalidArgument_run_other (bind_run_error (liftExn_error e _)) he)]
  rw [bind_run_error hreg]

/-- An interface method `get` whose ID resolution throws a `std::runtime_error`, `check` off. -/
theorem newDuktape_leaves_object_pushed_get :
    let tp : TypeProvider Unit Unit := ⟨fun _ _ => .ok (), fun p => .ok p⟩
    let mi : MethodInterface Unit := ⟨"get", false, [], (), nofun⟩
    let s : DukState := ⟨[.object 0 false], fun _ _ => none, []⟩
    0 < s.stack.length ∧ s.stack[s.stack.length - 1 - 0]? = some (.object 0 false) ∧
      JavaScriptObject.newDuktape tp "api" 0 [⟨.ok mi, .error (.runtimeError "NoSuchMethodError")⟩]
          false s =
        .error (.thrown (.runtimeError "NoSuchMethodError")) { s with stack := .object 0 false :: s.stack } :=
  ⟨by decide, rfl, newDuktape_leaves_object_pushed ⟨fun _ _ => .ok (), fun p => .ok p⟩ "api" 0
    ⟨"get", false, [], (), nofun⟩ [] false ⟨[.object 0 false], fun _ _ => none, []⟩ (by decide) rfl
    nofun rfl⟩

end JsBridge

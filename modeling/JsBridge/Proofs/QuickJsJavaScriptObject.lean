import Mathlib.Data.Multiset.Basic
import JsBridge.QuickJs.JavaScriptObject
import JsBridge.Proofs.QuickJsJavaScriptMethod
import JsBridge.Proofs.MethodTable

/-!
# QuickJS: `JavaScriptObject`, from registration to call

The constructor and `call` release on every exit the method properties they read, held by
`JS_AUTORELEASE_VALUE`. The constructor reaches undefined behaviour exactly on an object with a
`then` property, whose warning passes `alog_warn` a `%s` with no argument; `call` reaches none
that the model represents (the zero-length `jsArgs` of a call with no JS arguments is left out,
see `Qjs.Slots.init`). A constructor that returns has built `methodTable`. Its `catch` takes
every `std::exception`, so once the interface's methods are read every exception the
constructor throws is an `std::invalid_argument`, where the Duktape constructor lets the others
through with the object still pushed. A call of a registered method makes the JS call
`jsArguments` specifies; one whose method ID does not resolve, or is not in the table, throws
and changes nothing.

Over any run of calls, each returning or throwing to Java, the run goes as that of the calls
that reach a method, the references held come back to those held at the start, and the JS calls
made are exactly those the calls specify, in order.

With `check` set, a constructor that returns has found a function property for every method of
the interface; `call`, whose own `JS_IsFunction` test is commented out in the source, relies on
this, and it holds for every later call while the object's properties are unchanged.
-/

namespace JsBridge

namespace Qjs

variable {P T α : Type}

section Ledger

variable {L : List JSValue} {l : List (List JSValue)}

theorem checkMethod_ledger (check : Bool) (name strMethodName : String) (jsObjectValue : JSValue) :
    Triple (Ledger L l) (checkMethod check name strMethodName jsObjectValue)
      (fun _ => Ledger L l) (Ledger L l) False := by
  unfold checkMethod
  split
  · refine Triple.bind (getPropertyStr_ledger _ _) fun v s hs => autorelease_ledger ?_
    split
    · exact hs
    · split <;> exact hs
  · exact Triple.pure fun _ hs => hs

theorem registerMethods_ledger (tp : TypeProvider P T) (name : String) (check : Bool)
    (jsObjectValue : JSValue) :
    ∀ (methods : List (JavaMethodRef P)) (table : List (Nat × JavaScriptMethod P T)),
      Triple (Ledger L l) (registerMethods tp name check jsObjectValue methods table)
        (fun _ => Ledger L l) (Ledger L l) False
  | [], _ => Triple.pure fun _ hs => hs
  | method :: rest, table => by
    simp only [registerMethods]
    refine Triple.bind (Triple.liftExn (fun _ _ hs => hs) fun _ hs => hs) fun mi =>
      Triple.bind (checkMethod_ledger check name mi.name jsObjectValue) fun _ => ?_
    refine Triple.bind (Triple.catchStd (H := Ledger L l) ?_ fun _ => Triple.raise fun _ hs => hs)
      fun table => registerMethods_ledger tp name check jsObjectValue rest table
    exact Triple.bind (Triple.liftExn (fun _ _ hs => hs) fun _ hs => hs) fun _ =>
      Triple.bind (Triple.liftExn (fun _ _ hs => hs) fun _ hs => hs) fun _ =>
        Triple.pure fun _ hs => hs

end Ledger

/-! ## The exceptions of the constructor -/

section Thrown

variable {e : Exn} {s t : QjsState}

theorem freeValue_not_thrown (v : JSValue) : freeValue v s ≠ .error (.thrown e) t := by
  unfold freeValue
  split <;> simp

/-- An exception leaving a `JS_AUTORELEASE_VALUE` scope is one thrown inside it. -/
theorem autorelease_thrown {x : QjsM α} {v : JSValue} (h : autorelease v x s = .error (.thrown e) t) :
    ∃ u, x s = .error (.thrown e) u := by
  unfold autorelease at h
  rcases hx : x s with ⟨a, u⟩ | ⟨_ | _ | _, u⟩ <;> rw [hx] at h
  · rcases bind_run_error_inv h with h | ⟨_, _, -, h⟩
    · exact absurd h (freeValue_not_thrown v)
    · cases h
  · rcases bind_run_error_inv h with h | ⟨_, _, -, h⟩
    · exact absurd h (freeValue_not_thrown v)
    · cases h
      exact ⟨u, rfl⟩
  all_goals cases h

theorem checkMethod_thrown {check : Bool} {name strMethodName : String} {jsObjectValue : JSValue}
    (h : checkMethod check name strMethodName jsObjectValue s = .error (.thrown e) t) :
    e.isInvalidArgument = true := by
  unfold checkMethod at h
  split at h
  · rcases bind_run_error_inv h with h | ⟨v, u, -, h⟩
    · cases h
    · obtain ⟨_, h⟩ := autorelease_thrown h
      split at h
      · cases h; rfl
      · split at h
        · cases h; rfl
        · cases h
  · cases h

/-- A `catch (const std::exception &)` whose handler throws an `std::invalid_argument` lets
only `std::invalid_argument`s out. -/
theorem catchStd_thrown {x : QjsM α} {w : Exn → String}
    (h : catchStd x (fun e => raise (.invalidArgument (w e))) s = .error (.thrown e) t) :
    e.isInvalidArgument = true := by
  simp only [catchStd, catchWhen, if_true] at h
  split at h
  · cases h; rfl
  · next hne => exact absurd h (hne _ _)

/-- Once every method of the interface is read, the loop throws only `std::invalid_argument`s. -/
theorem registerMethods_thrown (tp : TypeProvider P T) (name : String) (check : Bool)
    (jsObjectValue : JSValue) :
    ∀ (methods : List (JavaMethodRef P)) (table : List (Nat × JavaScriptMethod P T))
      (s : QjsState), (∀ r ∈ methods, ∃ mi, r.methodInterface = .ok mi) →
      registerMethods tp name check jsObjectValue methods table s = .error (.thrown e) t →
        e.isInvalidArgument = true
  | [], _, _, _, h => by cases h
  | method :: rest, table, s, hread, h => by
    obtain ⟨mi, hmi⟩ := hread method (List.mem_cons_self _ _)
    simp only [registerMethods, hmi] at h
    rw [bind_run_ok (liftExn_ok _ _)] at h
    rcases bind_run_error_inv h with h | ⟨_, _, -, h⟩
    · exact checkMethod_thrown h
    · rcases bind_run_error_inv h with h | ⟨table₁, s₁, -, h⟩
      · exact catchStd_thrown h
      · exact registerMethods_thrown tp name check jsObjectValue rest table₁ s₁
          (fun r hr => hread r (List.mem_cons_of_mem _ hr)) h

end Thrown

/-! ## What a checked registration guarantees -/

section Checked

variable {s t : QjsState}

theorem freeValue_props {v : JSValue} (h : freeValue v s = .ok () t) : t.props = s.props := by
  unfold freeValue at h
  split at h
  · cases h; rfl
  · cases h

/-- A `JS_AUTORELEASE_VALUE` scope that returns: its body returned, then the value was freed. -/
theorem autorelease_ok {x : QjsM α} {v : JSValue} {a : α} (h : autorelease v x s = .ok a t) :
    ∃ u, x s = .ok a u ∧ freeValue v u = .ok () t := by
  unfold autorelease at h
  rcases hx : x s with ⟨b, u⟩ | ⟨_ | _ | _, u⟩ <;> rw [hx] at h
  · obtain ⟨_, _, hfree, h⟩ := bind_run_ok_inv h
    cases h
    exact ⟨u, rfl, hfree⟩
  · obtain ⟨_, _, -, h⟩ := bind_run_ok_inv h
    cases h
  all_goals cases h

/-- The check passes only on a function property, and leaves the properties as they were. -/
theorem checkMethod_checked {name strMethodName : String} {jsObjectValue : JSValue}
    (h : checkMethod true name strMethodName jsObjectValue s = .ok () t) :
    t.props = s.props ∧ (propertyStr s.props jsObjectValue strMethodName).isFunction = true := by
  simp only [checkMethod, if_true] at h
  obtain ⟨_, _, hget, h⟩ := bind_run_ok_inv h
  cases hget
  obtain ⟨_, hx, hfree⟩ := autorelease_ok h
  split at hx
  · cases hx
  split at hx
  · cases hx
  next hfun =>
  cases hx
  exact ⟨(freeValue_props hfree).trans rfl, by simpa using hfun⟩

/-- A checked loop that returns: the object has a function property for every method of the
interface, and its properties are as they were. -/
theorem registerMethods_checked (tp : TypeProvider P T) (name : String) (jsObjectValue : JSValue) :
    ∀ (methods : List (JavaMethodRef P)) (table table' : List (Nat × JavaScriptMethod P T))
      (s s' : QjsState), registerMethods tp name true jsObjectValue methods table s = .ok table' s' →
        s'.props = s.props ∧ ∀ r ∈ methods, ∃ mi, r.methodInterface = .ok mi ∧
          (propertyStr s.props jsObjectValue mi.name).isFunction = true
  | [], _, _, _, _, h => by cases h; exact ⟨rfl, fun _ hr => absurd hr (List.not_mem_nil _)⟩
  | method :: rest, table, table', s, s', h => by
    simp only [registerMethods] at h
    obtain ⟨mi, s₁, h₁, h⟩ := bind_run_ok_inv h
    obtain ⟨_, s₂, h₂, h⟩ := bind_run_ok_inv h
    obtain ⟨table₁, s₃, h₃, hloop⟩ := bind_run_ok_inv h
    obtain ⟨hmi, rfl⟩ := liftExn_run_ok_inv h₁
    obtain ⟨hprops₂, hfun⟩ := checkMethod_checked h₂
    obtain ⟨-, -, -, -, -, rfl⟩ := registerStep_ok (fun _ _ _ _ hd => by cases hd) h₃
    obtain ⟨hprops, hrest⟩ :=
      registerMethods_checked tp name jsObjectValue rest table₁ table' s₃ s' hloop
    refine ⟨hprops.trans hprops₂, fun r hr => ?_⟩
    rcases List.mem_cons.mp hr with rfl | hr
    · exact ⟨mi, hmi, hfun⟩
    · rw [← hprops₂]; exact hrest r hr

end Checked

/-- A loop that returns has built `methodTable` from the table it started with. -/
theorem registerMethods_table (tp : TypeProvider P T) (name : String) (check : Bool)
    (jsObjectValue : JSValue) :
    ∀ (methods : List (JavaMethodRef P)) (table table' : List (Nat × JavaScriptMethod P T))
      (s s' : QjsState), registerMethods tp name check jsObjectValue methods table s = .ok table' s' →
        methodTable tp methods table = .ok table'
  | [], _, _, _, _, h => by cases h; rfl
  | method :: rest, table, table', s, s', h => by
    simp only [registerMethods] at h
    obtain ⟨mi, s₁, h₁, h⟩ := bind_run_ok_inv h
    obtain ⟨_, s₂, -, h⟩ := bind_run_ok_inv h
    obtain ⟨table₁, s₃, h₃, h⟩ := bind_run_ok_inv h
    obtain ⟨methodId, jsMethod, hid, hnew, rfl, -⟩ :=
      registerStep_ok (fun _ _ _ _ hd => by cases hd) h₃
    simp only [methodTable, (liftExn_run_ok_inv h₁).1, hid, hnew, except_ok_bind]
    exact registerMethods_table tp name check jsObjectValue rest _ table' s₃ s' h

end Qjs

variable {P T : Type}

/-- On an object, the constructor reaches undefined behaviour at the warning when the object has a
`then` property, and otherwise runs the registration loop from the state it started in. -/
theorem newQuickJs_of_object (tp : TypeProvider P T) (name movedFromName : String)
    {jsObjectValue : JSValue} (methods : List (JavaMethodRef P)) (check : Bool)
    (hobj : jsObjectValue.isObject = true) (s : QjsState) :
    JavaScriptObject.newQuickJs tp name movedFromName jsObjectValue methods check s =
      if Qjs.thenable s.props jsObjectValue then
        .error (.undefined "alog_warn: a format with %s and no argument") s
      else Qjs.registerMethods tp name check jsObjectValue methods [] s := by
  unfold JavaScriptObject.newQuickJs
  rw [hobj, Bool.not_true, if_neg Bool.false_ne_true, bind_run_ok (Qjs.hasPropertyStr_then _ _)]
  split <;> rfl

/-- A constructor that returns was given an object without a `then` property, and its loop
returned. -/
theorem newQuickJs_ok_inv {tp : TypeProvider P T} {name movedFromName : String}
    {jsObjectValue : JSValue} {methods : List (JavaMethodRef P)} {check : Bool}
    {s s' : QjsState} {table : List (Nat × JavaScriptMethod P T)}
    (h : JavaScriptObject.newQuickJs tp name movedFromName jsObjectValue methods check s =
      .ok table s') :
    jsObjectValue.isObject = true ∧ Qjs.thenable s.props jsObjectValue = false ∧
      Qjs.registerMethods tp name check jsObjectValue methods [] s = .ok table s' := by
  cases hobj : jsObjectValue.isObject
  · unfold JavaScriptObject.newQuickJs at h
    rw [hobj] at h
    cases h
  · rw [newQuickJs_of_object tp name movedFromName methods check hobj] at h
    split at h
    · cases h
    · next hthen => exact ⟨rfl, by simpa using hthen, h⟩

/-- A constructor that returns has built `methodTable` from the interface's methods. -/
theorem newQuickJs_table (tp : TypeProvider P T) (name movedFromName : String)
    (jsObjectValue : JSValue) (methods : List (JavaMethodRef P)) (check : Bool)
    {s s' : QjsState} {table : List (Nat × JavaScriptMethod P T)}
    (h : JavaScriptObject.newQuickJs tp name movedFromName jsObjectValue methods check s =
      .ok table s') :
    methodTable tp methods [] = .ok table :=
  Qjs.registerMethods_table tp name check jsObjectValue methods [] table s s'
    (newQuickJs_ok_inv h).2.2

/-- `JavaScriptObject::JavaScriptObject` (QuickJS) on every exit: no JS call, and the references
held at entry and no other (each method property it reads is released). It reaches undefined
behaviour exactly on an object with a `then` property, at the warning whose format has a `%s`
and no argument. Once every method of the interface is read, every exception it throws is an
`std::invalid_argument`. -/
theorem newQuickJs_releases (tp : TypeProvider P T) (name movedFromName : String)
    (jsObjectValue : JSValue) (methods : List (JavaMethodRef P)) (check : Bool) (s : QjsState) :
    Exits (fun _ s' => s'.owned.Perm s.owned ∧ s'.calls = s.calls)
        (fun s' => s'.owned.Perm s.owned ∧ s'.calls = s.calls)
        (Qjs.thenable s.props jsObjectValue = true)
        (JavaScriptObject.newQuickJs tp name movedFromName jsObjectValue methods check s) ∧
      (Qjs.thenable s.props jsObjectValue = true → ∃ w,
        JavaScriptObject.newQuickJs tp name movedFromName jsObjectValue methods check s =
          .error (.undefined w) s) ∧
      ((∀ r ∈ methods, ∃ mi, r.methodInterface = .ok mi) → ∀ e s',
        JavaScriptObject.newQuickJs tp name movedFromName jsObjectValue methods check s =
          .error (.thrown e) s' → e.isInvalidArgument = true) := by
  cases hobj : jsObjectValue.isObject
  · -- not an object: the `std::invalid_argument` of the first check
    have hthen : Qjs.thenable s.props jsObjectValue = false := by
      cases jsObjectValue <;> first | rfl | cases hobj
    unfold JavaScriptObject.newQuickJs
    rw [hobj, hthen]
    exact ⟨⟨List.Perm.refl _, rfl⟩, nofun, fun _ e s' h => by cases h; rfl⟩
  · rw [newQuickJs_of_object tp name movedFromName methods check hobj]
    cases hthen : Qjs.thenable s.props jsObjectValue
    · simp only [Bool.false_eq_true, if_false]
      exact ⟨Qjs.registerMethods_ledger tp name check jsObjectValue methods [] s
        ⟨List.Perm.refl _, rfl⟩, nofun, fun hread e s' h =>
          Qjs.registerMethods_thrown tp name check jsObjectValue methods [] s hread h⟩
    · exact ⟨rfl, fun _ => ⟨_, rfl⟩, fun _ e s' h => by cases h⟩

/-- An object whose method `get` is read and registered, and one whose interface lists `get`
twice; the object has no `then` property. -/
theorem newQuickJs_releases_get :
    let tp : TypeProvider Unit Unit := ⟨fun _ _ => .ok (), fun p => .ok p⟩
    let methods : List (JavaMethodRef Unit) := [⟨.ok ⟨"get", false, [], (), nofun⟩, .ok 7⟩,
      ⟨.ok ⟨"get", false, [], (), nofun⟩, .error (.other "NoSuchMethodError")⟩]
    let s : QjsState :=
      ⟨fun _ => [], fun _ k => if k = "get" then some (.obj 1 true) else none, 2, [], [], []⟩
    (∀ r ∈ methods, ∃ mi, r.methodInterface = .ok mi) ∧
      Exits (fun _ s' => s'.owned.Perm s.owned ∧ s'.calls = s.calls)
        (fun s' => s'.owned.Perm s.owned ∧ s'.calls = s.calls)
        (Qjs.thenable s.props (.obj 0 false) = true)
        (JavaScriptObject.newQuickJs tp "api" "" (.obj 0 false) methods true s) ∧
      ∀ e s', JavaScriptObject.newQuickJs tp "api" "" (.obj 0 false) methods true s =
        .error (.thrown e) s' → e.isInvalidArgument = true :=
  have hread : ∀ r ∈ ([⟨.ok ⟨"get", false, [], (), nofun⟩, .ok 7⟩,
      ⟨.ok ⟨"get", false, [], (), nofun⟩, .error (.other "NoSuchMethodError")⟩] :
        List (JavaMethodRef Unit)), ∃ mi, r.methodInterface = .ok mi := by
    simp
  have h := newQuickJs_releases ⟨fun _ _ => .ok (), fun p => .ok p⟩ "api" "" (.obj 0 false)
    [⟨.ok ⟨"get", false, [], (), nofun⟩, .ok 7⟩,
      ⟨.ok ⟨"get", false, [], (), nofun⟩, .error (.other "NoSuchMethodError")⟩] true
    ⟨fun _ => [], fun _ k => if k = "get" then some (.obj 1 true) else none, 2, [], [], []⟩
  ⟨hread, h.1, h.2.2 hread⟩

section Call

variable (c : Codec T JSValue) (dt : DeferredTypes P T) (callee : QjsCallee) (name : String)
  (methods : List (Nat × JavaScriptMethod P T)) (jsObjectValue : JSValue)

/-- A method ID that does not resolve: JNI's exception leaves, with nothing changed. -/
theorem callQuickJs_unresolved (e : Exn) (methodName : String) (args : Option (List JValue))
    (awaitJsPromise : Bool) (s : QjsState) :
    JavaScriptObject.callQuickJs c dt callee name methods jsObjectValue (.error e) methodName args
      awaitJsPromise s = .error (.thrown e) s :=
  bind_run_error (liftExn_error e s)

/-- A method ID that is not in the table: the `std::runtime_error` naming the method, with
nothing changed. -/
theorem callQuickJs_missing {methodId : Nat} (hfind : findMethod methods methodId = none)
    (methodName : String) (args : Option (List JValue)) (awaitJsPromise : Bool) (s : QjsState) :
    JavaScriptObject.callQuickJs c dt callee name methods jsObjectValue (.ok methodId) methodName
        args awaitJsPromise s =
      .error (.thrown (.runtimeError ("Could not find method " ++ name ++ "." ++ methodName))) s := by
  simp only [JavaScriptObject.callQuickJs]
  rw [bind_run_ok (liftExn_ok _ _)]
  simp only [hfind]
  rfl

/-- One call of `JavaScriptObject::call` (QuickJS) whose arguments fit the wrapper it finds: on
every exit no undefined behaviour and the references held at entry and no other, and, on an
object, the log of JS calls grows as `JavaCall.jsCallsAfter` says. -/
theorem callQuickJs_exits (q : JavaCall) (hfit : q.Fits methods) (s : QjsState) :
    Exits (fun _ s' => s'.owned.Perm s.owned ∧ s'.calls = if jsObjectValue.isObject then
          q.jsCallsAfter c methods s.calls else s.calls)
      (fun s' => s'.owned.Perm s.owned ∧ s'.calls = if jsObjectValue.isObject then
          q.jsCallsAfter c methods s.calls else s.calls)
      False
      (JavaScriptObject.callQuickJs c dt callee name methods jsObjectValue q.methodId
        q.methodName q.args q.awaitJsPromise s) := by
  obtain ⟨_ | methodId, methodName, args, awaitJsPromise⟩ := q
  · exact ⟨List.Perm.refl _, by split <;> rfl⟩
  simp only [JavaScriptObject.callQuickJs, JavaCall.jsCallsAfter]
  rw [bind_run_ok (liftExn_ok _ _)]
  cases hfind : findMethod methods methodId with
  | none => exact ⟨List.Perm.refl _, by split <;> rfl⟩
  | some jsMethod =>
    cases hobj : jsObjectValue.isObject
    · exact ⟨List.Perm.refl _, rfl⟩
    · simp only [Bool.not_true, Bool.false_eq_true, if_false, if_true]
      rw [bind_run_ok (show Qjs.getPropertyStr jsObjectValue jsMethod.methodName s = .ok _ _ from rfl)]
      exact Qjs.autorelease_ledger (invokeQuickJs_exits c dt callee jsMethod _ jsObjectValue args
        awaitJsPromise (hfit _ _ rfl hfind) _)

/-- One call of `JavaScriptObject::call` (QuickJS) whose arguments fit the wrapper it finds: its
exits as `callQuickJs_exits` says, and when it reaches no method, exactly what it throws: JNI's
exception for a method ID that does not resolve, the `std::runtime_error` naming the method for
one that is not in the table, both with nothing changed. -/
theorem callQuickJs_step (q : JavaCall) (hfit : q.Fits methods) (s : QjsState) :
    Exits (fun _ s' => s'.owned.Perm s.owned ∧ s'.calls = if jsObjectValue.isObject then
          q.jsCallsAfter c methods s.calls else s.calls)
      (fun s' => s'.owned.Perm s.owned ∧ s'.calls = if jsObjectValue.isObject then
          q.jsCallsAfter c methods s.calls else s.calls)
      False
      (JavaScriptObject.callQuickJs c dt callee name methods jsObjectValue q.methodId
        q.methodName q.args q.awaitJsPromise s) ∧
    (∀ e, q.methodId = .error e →
      JavaScriptObject.callQuickJs c dt callee name methods jsObjectValue q.methodId
        q.methodName q.args q.awaitJsPromise s = .error (.thrown e) s) ∧
    (∀ methodId, q.methodId = .ok methodId → findMethod methods methodId = none →
      JavaScriptObject.callQuickJs c dt callee name methods jsObjectValue q.methodId
          q.methodName q.args q.awaitJsPromise s =
        .error (.thrown (.runtimeError ("Could not find method " ++ name ++ "." ++
          q.methodName))) s) := by
  refine ⟨callQuickJs_exits c dt callee name methods jsObjectValue q hfit s,
    fun e h => ?_, fun methodId h hfind => ?_⟩ <;>
    obtain ⟨_, methodName, args, awaitJsPromise⟩ := q <;> cases h
  · exact callQuickJs_unresolved c dt callee name methods jsObjectValue e _ _ _ s
  · exact callQuickJs_missing c dt callee name methods jsObjectValue hfind _ _ _ s

end Call

/-- `JavaScriptObject::call` (QuickJS) of a method in the table, with arguments that fit it: on
every exit no undefined behaviour the model represents (the zero-length `jsArgs` of a call with
no JS arguments is not represented) and the references held at entry and no other (the method
property it reads is released), and, on an object, one JS call with the arguments `jsArguments`
specifies exactly when their conversion succeeded. -/
theorem callQuickJs_calls (c : Codec T JSValue) (dt : DeferredTypes P T) (callee : QjsCallee)
    (name : String) (methods : List (Nat × JavaScriptMethod P T)) (jsObjectValue : JSValue)
    (methodId : Nat) (methodName : String) (args : Option (List JValue)) (awaitJsPromise : Bool)
    {jsMethod : JavaScriptMethod P T} (hfind : findMethod methods methodId = some jsMethod)
    (hfit : jsMethod.ArgsFit args) (s : QjsState) :
    Exits (fun _ s' => s'.owned.Perm s.owned ∧ s'.calls = if jsObjectValue.isObject then
          callsAfter (jsArguments c jsMethod.toSignature (args.getD [])) s.calls else s.calls)
      (fun s' => s'.owned.Perm s.owned ∧ s'.calls = if jsObjectValue.isObject then
          callsAfter (jsArguments c jsMethod.toSignature (args.getD [])) s.calls else s.calls)
      False
      (JavaScriptObject.callQuickJs c dt callee name methods jsObjectValue (.ok methodId)
        methodName args awaitJsPromise s) := by
  simpa only [JavaCall.jsCallsAfter, hfind] using callQuickJs_exits c dt callee name methods
    jsObjectValue _ (JavaCall.fits_of_findMethod hfind hfit methodName awaitJsPromise) s

/-- A method `get(a)` of the table called on an object with one argument. -/
theorem callQuickJs_calls_get :
    let jsMethod : JavaScriptMethod Unit Unit := ⟨⟨"get", false, false, [()], nofun⟩, (), ()⟩
    let c : Codec Unit JSValue := ⟨fun _ _ => .ok .null, fun _ _ => .ok .null⟩
    findMethod [(7, jsMethod)] 7 = some jsMethod ∧ jsMethod.ArgsFit (some [.ref 1]) ∧
      ∀ s : QjsState, Exits (fun _ s' => s'.owned.Perm s.owned ∧
          s'.calls = callsAfter (jsArguments c jsMethod.toSignature [.ref 1]) s.calls)
        (fun s' => s'.owned.Perm s.owned ∧
          s'.calls = callsAfter (jsArguments c jsMethod.toSignature [.ref 1]) s.calls) False
        (JavaScriptObject.callQuickJs c ⟨fun _ => false, fun _ => ()⟩ (fun _ _ _ => .ok .undefined)
          "api" [(7, jsMethod)] (.obj 0 false) (.ok 7) "get" (some [.ref 1]) false s) :=
  ⟨rfl, ⟨rfl, nofun⟩, callQuickJs_calls ⟨fun _ _ => .ok .null, fun _ _ => .ok .null⟩
    ⟨fun _ => false, fun _ => ()⟩ (fun _ _ _ => .ok .undefined) "api"
    [(7, ⟨⟨"get", false, false, [()], nofun⟩, (), ()⟩)] (.obj 0 false) 7 "get" (some [.ref 1])
    false rfl ⟨rfl, nofun⟩⟩

/-- After a registration with `check` set returns, a Java call of any method of the interface
finds its wrapper and invokes it on a JS function, as long as the object's properties are still
those the constructor checked: the property `call` reads, by the wrapper's name, is one the
check found to be a function. `call` does not check this itself. -/
theorem checked_call_targets_function (tp : TypeProvider P T) (c : Codec T JSValue)
    (dt : DeferredTypes P T) (callee : QjsCallee) (name movedFromName : String)
    (jsObjectValue : JSValue) (methods : List (JavaMethodRef P)) {s₀ s₁ : QjsState}
    {table : List (Nat × JavaScriptMethod P T)}
    (hnew : JavaScriptObject.newQuickJs tp name movedFromName jsObjectValue methods true s₀ =
      .ok table s₁)
    {r : JavaMethodRef P} (hr : r ∈ methods) {methodId : Nat} (hid : r.methodId = .ok methodId)
    (methodName : String) (args : Option (List JValue)) (awaitJsPromise : Bool) (s : QjsState)
    (hprops : s.props = s₀.props) :
    ∃ jsMethod f, findMethod table methodId = some jsMethod ∧ f.isFunction = true ∧
      JavaScriptObject.callQuickJs c dt callee name table jsObjectValue (.ok methodId) methodName
          args awaitJsPromise s =
        Qjs.autorelease f (jsMethod.invokeQuickJs c dt callee f jsObjectValue args awaitJsPromise)
          (s.acquire f) := by
  obtain ⟨hobj, -, hnew⟩ := newQuickJs_ok_inv hnew
  obtain ⟨-, hfun⟩ := Qjs.registerMethods_checked tp name jsObjectValue methods [] table s₀ s₁ hnew
  obtain ⟨-, hreg⟩ := methodTable_registers
    (Qjs.registerMethods_table tp name true jsObjectValue methods [] table s₀ s₁ hnew)
  obtain ⟨_, jsMethod, hid', hfind, r', hr', mi, hmi, -, hbuilt⟩ := hreg r hr
  obtain rfl := Except.ok.inj (hid'.symm.trans hid)
  obtain ⟨mi', hmi', hf⟩ := hfun r' hr'
  obtain rfl := Except.ok.inj (hmi'.symm.trans hmi)
  refine ⟨jsMethod, Qjs.propertyStr s.props jsObjectValue jsMethod.methodName, hfind,
    by rw [hprops, JavaScriptMethod.new_methodName hbuilt]; exact hf, ?_⟩
  simp only [JavaScriptObject.callQuickJs]
  rw [bind_run_ok (liftExn_ok _ _)]
  simp only [hfind, hobj, Bool.not_true, Bool.false_eq_true, if_false]
  rfl

/-- An object with a function property `get` and no `then`, registered with the check, then
called. -/
theorem checked_call_targets_function_get :
    let tp : TypeProvider Unit Unit := ⟨fun _ _ => .ok (), fun p => .ok p⟩
    let c : Codec Unit JSValue := ⟨fun _ _ => .ok .null, fun _ _ => .ok .null⟩
    let dt : DeferredTypes Unit Unit := ⟨fun _ => false, fun _ => ()⟩
    let methods : List (JavaMethodRef Unit) := [⟨.ok ⟨"get", false, [], (), nofun⟩, .ok 7⟩]
    let s₀ : QjsState :=
      ⟨fun _ => [], fun _ k => if k = "get" then some (.obj 2 true) else none, 3, [], [], []⟩
    let table : List (Nat × JavaScriptMethod Unit Unit) :=
      [(7, ⟨⟨"get", false, false, [], nofun⟩, (), ()⟩)]
    JavaScriptObject.newQuickJs tp "api" "" (.obj 1 false) methods true s₀ = .ok table s₀ ∧
      ∃ jsMethod f, findMethod table 7 = some jsMethod ∧ f.isFunction = true ∧
        JavaScriptObject.callQuickJs c dt (fun _ _ _ => .ok .undefined) "api" table (.obj 1 false)
            (.ok 7) "get" none false s₀ =
          Qjs.autorelease f (jsMethod.invokeQuickJs c dt (fun _ _ _ => .ok .undefined) f
            (.obj 1 false) none false) (s₀.acquire f) :=
  have hnew : JavaScriptObject.newQuickJs (⟨fun _ _ => .ok (), fun p => .ok p⟩ :
        TypeProvider Unit Unit) "api" "" (.obj 1 false)
        [⟨.ok ⟨"get", false, [], (), nofun⟩, .ok 7⟩] true
        ⟨fun _ => [], fun _ k => if k = "get" then some (.obj 2 true) else none, 3, [], [], []⟩ =
      .ok [(7, ⟨⟨"get", false, false, [], nofun⟩, (), ()⟩)]
        ⟨fun _ => [], fun _ k => if k = "get" then some (.obj 2 true) else none, 3, [], [], []⟩ :=
    rfl
  ⟨hnew, checked_call_targets_function _ ⟨fun _ _ => .ok .null, fun _ _ => .ok .null⟩
    ⟨fun _ => false, fun _ => ()⟩ (fun _ _ _ => .ok .undefined) "api" "" (.obj 1 false) _ hnew
    (List.mem_singleton_self _) rfl "get" none false _ rfl⟩

namespace Qjs

/-- A function is not `undefined`. -/
theorem not_isUndefined_of_isFunction {v : JSValue} (h : v.isFunction = true) :
    v.isUndefined = false := by
  cases v <;> first | rfl | cases h

/-- The check passes on a function property, releasing it; only the stored references of an
array the property named can change. -/
theorem checkMethod_pass (check : Bool) (name strMethodName : String) (jsObjectValue : JSValue)
    (s : QjsState)
    (hcheck : check = true →
      (propertyStr s.props jsObjectValue strMethodName).isFunction = true) :
    ∃ st, checkMethod check name strMethodName jsObjectValue s =
      .ok () { s with stored := st } := by
  cases check with
  | false => exact ⟨s.stored, rfl⟩
  | true =>
    have hfun := hcheck rfl
    obtain ⟨st, hfree⟩ := freeValue_run (s := s.acquire (propertyStr s.props jsObjectValue
      strMethodName)) (List.mem_cons_self _ _)
    refine ⟨st, ?_⟩
    simp only [checkMethod, if_true]
    rw [bind_run_ok (show getPropertyStr jsObjectValue strMethodName s = .ok _ (s.acquire _)
      from rfl)]
    unfold autorelease
    simp only [not_isUndefined_of_isFunction hfun, hfun, Bool.not_true, Bool.false_eq_true,
      if_false]
    rw [pure_run]
    dsimp only
    rw [bind_run_ok hfree]
    simp [QjsState.acquire]

/-- A loop over methods that all register, with (when `check` is set) a function property of the
object for each: it builds `methodTable` and holds at the end what it held at the start. -/
theorem registerMethods_accepts (tp : TypeProvider P T) (name : String) (check : Bool)
    (jsObjectValue : JSValue) :
    ∀ (methods : List (JavaMethodRef P)) (table table' : List (Nat × JavaScriptMethod P T))
      (s : QjsState), methodTable tp methods table = .ok table' →
      (check = true → ∀ r ∈ methods, ∀ mi, r.methodInterface = .ok mi →
        (propertyStr s.props jsObjectValue mi.name).isFunction = true) →
      ∃ s', registerMethods tp name check jsObjectValue methods table s = .ok table' s' ∧
        s'.owned = s.owned
  | [], _, _, s, h, _ => by cases h; exact ⟨s, rfl, rfl⟩
  | method :: methods, table, table', s, h, hcheck => by
    obtain ⟨mi, hmi, h⟩ := except_bind_eq_ok h
    obtain ⟨methodId, hid, h⟩ := except_bind_eq_ok h
    obtain ⟨jsMethod, hnew, h⟩ := except_bind_eq_ok h
    obtain ⟨st, hpass⟩ := checkMethod_pass check name mi.name jsObjectValue s
      fun hc => hcheck hc method (List.mem_cons_self _ _) mi hmi
    obtain ⟨s', hloop, hown⟩ := registerMethods_accepts tp name check jsObjectValue methods _
      table' { s with stored := st } h fun hc r hr => hcheck hc r (List.mem_cons_of_mem _ hr)
    refine ⟨s', ?_, hown⟩
    simp only [registerMethods, catchStd]
    rw [hmi, bind_run_ok (liftExn_ok _ _), bind_run_ok hpass,
      bind_run_ok (registerStep_run hid hnew _)]
    exact hloop

end Qjs

/-- A constructor over an object without a `then` property, with methods that all register and
(when `check` is set) function properties for them, returns `methodTable`, holding at the end
what it held at the start. -/
theorem newQuickJs_accepts (tp : TypeProvider P T) (name movedFromName : String)
    (jsObjectValue : JSValue) (methods : List (JavaMethodRef P)) (check : Bool) (s : QjsState)
    (hobj : jsObjectValue.isObject = true) (hthen : Qjs.thenable s.props jsObjectValue = false)
    {table : List (Nat × JavaScriptMethod P T)} (htable : methodTable tp methods [] = .ok table)
    (hcheck : check = true → ∀ r ∈ methods, ∀ mi, r.methodInterface = .ok mi →
      (Qjs.propertyStr s.props jsObjectValue mi.name).isFunction = true) :
    ∃ s', JavaScriptObject.newQuickJs tp name movedFromName jsObjectValue methods check s =
      .ok table s' ∧ s'.owned = s.owned := by
  rw [newQuickJs_of_object tp name movedFromName methods check hobj, hthen]
  exact Qjs.registerMethods_accepts tp name check jsObjectValue methods [] table s htable hcheck

end JsBridge

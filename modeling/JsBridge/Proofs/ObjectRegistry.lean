import JsBridge.Proofs.DuktapeJavaScriptObject
import JsBridge.Proofs.QuickJsJavaScriptObject

/-!
# Both backends register every method of the interface

A `JavaScriptObject` constructor that returns has built `methodTable` on either backend, so the
table it leaves `JavaScriptObject::call` holds each ID once and finds every method of the
interface by its ID, under a wrapper built for a method with that ID.

Conversely neither constructor rejects a registration that should pass: over an object, with
every method of the interface resolving and (when `check` is set) a function property for each,
both return `methodTable`, Duktape with its state as it was and QuickJS holding what it held. On
QuickJS the object must have no `then` property, for which the constructor's warning is
undefined behaviour.
-/

namespace JsBridge

variable {P T : Type}

/-- What both constructors leave `JavaScriptObject::call`, when they return. -/
theorem constructors_register_all (tp : TypeProvider P T) (name : String)
    (methods : List (JavaMethodRef P)) (check : Bool) :
    (∀ (jsObjectIndex : Nat) (s s' : DukState) (jsHeapPtr : DukValue)
        (table : List (Nat × JavaScriptMethod P T)),
      JavaScriptObject.newDuktape tp name jsObjectIndex methods check s =
          .ok (jsHeapPtr, table) s' → RegistersAll tp methods table) ∧
    (∀ (movedFromName : String) (jsObjectValue : JSValue) (s s' : QjsState)
        (table : List (Nat × JavaScriptMethod P T)),
      JavaScriptObject.newQuickJs tp name movedFromName jsObjectValue methods check s =
          .ok table s' → RegistersAll tp methods table) :=
  ⟨fun _ _ _ _ _ h => methodTable_registers (newDuktape_table tp name _ methods check h),
    fun _ _ _ _ _ h => methodTable_registers (newQuickJs_table tp name _ _ methods check h)⟩

/-- An interface with one method `get` registered on either backend. -/
theorem constructors_register_all_get :
    let tp : TypeProvider Unit Unit := ⟨fun _ _ => .ok (), fun p => .ok p⟩
    let methods : List (JavaMethodRef Unit) := [⟨.ok ⟨"get", false, [], (), nofun⟩, .ok 7⟩]
    (∃ table, JavaScriptObject.newDuktape tp "api" 0 methods false
        ⟨[.object 0 false], fun _ _ => none, []⟩ =
          .ok (.object 0 false, table) ⟨[.object 0 false], fun _ _ => none, []⟩ ∧
        RegistersAll tp methods table) ∧
      ∃ table, JavaScriptObject.newQuickJs tp "api" "" (.obj 0 false) methods false
          ⟨fun _ => [], fun _ _ => none, 0, [], [], []⟩ =
            .ok table ⟨fun _ => [], fun _ _ => none, 0, [], [], []⟩ ∧
        RegistersAll tp methods table :=
  ⟨⟨_, rfl, (constructors_register_all ⟨fun _ _ => .ok (), fun p => .ok p⟩ "api"
      [⟨.ok ⟨"get", false, [], (), nofun⟩, .ok 7⟩] false).1 0
        ⟨[.object 0 false], fun _ _ => none, []⟩ ⟨[.object 0 false], fun _ _ => none, []⟩
        (.object 0 false) _ rfl⟩,
    ⟨_, rfl, (constructors_register_all ⟨fun _ _ => .ok (), fun p => .ok p⟩ "api"
      [⟨.ok ⟨"get", false, [], (), nofun⟩, .ok 7⟩] false).2 "" (.obj 0 false)
        ⟨fun _ => [], fun _ _ => none, 0, [], [], []⟩
        ⟨fun _ => [], fun _ _ => none, 0, [], [], []⟩ _ rfl⟩⟩

/-- Both constructors accept every registration whose methods all register, over an object that
has, when `check` is set, a function property for each, and, on QuickJS, no `then` property
(whose warning is undefined behaviour). -/
theorem constructors_accept_all (tp : TypeProvider P T) (name : String)
    (methods : List (JavaMethodRef P)) (check : Bool) {table : List (Nat × JavaScriptMethod P T)}
    (htable : methodTable tp methods [] = .ok table) :
    (∀ (jsObjectIndex : Nat) (s : DukState) (p : Nat) (f : Bool),
      jsObjectIndex < s.stack.length →
      s.stack[s.stack.length - 1 - jsObjectIndex]? = some (.object p f) →
      (check = true → ∀ r ∈ methods, ∀ mi, r.methodInterface = .ok mi →
        ∃ q, s.props p mi.name = some (.object q true)) →
      JavaScriptObject.newDuktape tp name jsObjectIndex methods check s =
        .ok (.object p f, table) s) ∧
    (∀ (movedFromName : String) (jsObjectValue : JSValue) (s : QjsState),
      jsObjectValue.isObject = true → Qjs.thenable s.props jsObjectValue = false →
      (check = true → ∀ r ∈ methods, ∀ mi, r.methodInterface = .ok mi →
        (Qjs.propertyStr s.props jsObjectValue mi.name).isFunction = true) →
      ∃ s', JavaScriptObject.newQuickJs tp name movedFromName jsObjectValue methods check s =
        .ok table s' ∧ s'.owned = s.owned) :=
  ⟨fun _ s _ _ hidx hobj hcheck =>
      newDuktape_accepts tp name _ methods check s hidx hobj htable hcheck,
    fun _ _ s hobj hthen hcheck =>
      newQuickJs_accepts tp name _ _ methods check s hobj hthen htable hcheck⟩

/-- An interface with one method `get`, registered with `check` set over an object whose `get`
is a function and which has no `then`. -/
theorem constructors_accept_all_get :
    let tp : TypeProvider Unit Unit := ⟨fun _ _ => .ok (), fun p => .ok p⟩
    let methods : List (JavaMethodRef Unit) := [⟨.ok ⟨"get", false, [], (), nofun⟩, .ok 7⟩]
    let table : List (Nat × JavaScriptMethod Unit Unit) :=
      [(7, ⟨⟨"get", false, false, [], nofun⟩, (), ()⟩)]
    methodTable tp methods [] = .ok table ∧
      JavaScriptObject.newDuktape tp "api" 0 methods true
          ⟨[.object 0 false], fun _ _ => some (.object 1 true), []⟩ =
        .ok (.object 0 false, table) ⟨[.object 0 false], fun _ _ => some (.object 1 true), []⟩ ∧
      ∃ s', JavaScriptObject.newQuickJs tp "api" "" (.obj 0 false) methods true
          ⟨fun _ => [], fun _ k => if k = "get" then some (.obj 1 true) else none, 0, [], [], []⟩ =
            .ok table s' ∧ s'.owned = [] :=
  have htable : methodTable (⟨fun _ _ => .ok (), fun p => .ok p⟩ : TypeProvider Unit Unit)
      [⟨.ok ⟨"get", false, [], (), nofun⟩, .ok 7⟩] [] =
        .ok [(7, ⟨⟨"get", false, false, [], nofun⟩, (), ()⟩)] := rfl
  have h := constructors_accept_all _ "api" _ true htable
  ⟨htable, h.1 0 ⟨[.object 0 false], fun _ _ => some (.object 1 true), []⟩ 0 false
      (by decide) rfl fun _ _ _ _ _ => ⟨1, rfl⟩,
    h.2 "" (.obj 0 false)
      ⟨fun _ => [], fun _ k => if k = "get" then some (.obj 1 true) else none, 0, [], [], []⟩ rfl
      rfl fun _ _ hr _ hmi => by obtain rfl := List.mem_singleton.mp hr; cases hmi; rfl⟩

end JsBridge

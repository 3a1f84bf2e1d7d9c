import JsBridge.Marshal
import JsBridge.Triple
import Mathlib.Data.List.Perm.Basic

/-!
# The QuickJS runtime, seen from a bridge function

QuickJS values are reference counted: a `JSValue` a function obtains (a new object, a
`JS_DupValue`, a property read, a call's result, a conversion's result) is a reference it must
release with `JS_FreeValue` exactly once; a `JSValueConst` argument is only borrowed.

`owned` is the running function's ledger of the references it holds, with multiplicity: every
call that hands the function a reference adds one, `JS_FreeValue` removes one, and freeing a
reference the function does not hold is undefined behaviour (a double free).
`JS_SetPropertyUint32` takes over the stored reference: it moves from `owned` into `stored`, the
references kept by arrays the function created. Such an array is referenced only by the
function, so freeing the function's last reference to it frees it, and with it what it stores.

`Ledger L l` says what a run holds and which calls it has made; a `JS_AUTORELEASE_VALUE` scope
releases its value on every exit (`autorelease_ledger`).
-/

namespace JsBridge

/-- A QuickJS value as far as the modelled code tells values apart. -/
inductive JSValue where
  | undefined
  | null
  | bool (b : Bool)
  | int (n : Int)
  /-- `JS_EXCEPTION`, with the message of the pending exception. -/
  | exception (message : String)
  /-- An object: `id` names it, `callable` tells whether it is a function. -/
  | obj (id : Nat) (callable : Bool)
  deriving Repr, DecidableEq

/-- `JS_IsException`. -/
def JSValue.isException : JSValue → Bool
  | .exception _ => true
  | _ => false

/-- `JS_IsObject`. -/
def JSValue.isObject : JSValue → Bool
  | .obj _ _ => true
  | _ => false

/-- `JS_IsUndefined`. -/
def JSValue.isUndefined : JSValue → Bool
  | .undefined => true
  | _ => false

/-- `JS_IsFunction`. -/
def JSValue.isFunction : JSValue → Bool
  | .obj _ callable => callable
  | _ => false

/-- The QuickJS runtime and the ledger of the running bridge function. -/
structure QjsState where
  /-- The elements of the arrays in the heap, by object id. -/
  arrays : Nat → List JSValue
  /-- What the bridge's reads of object properties return, by object id: the bridge writes no
  property, and the JS code a call runs is not modelled. -/
  props : Nat → String → Option JSValue
  /-- The id of the next object created. -/
  nextId : Nat
  /-- The references the running function holds, with multiplicity. -/
  owned : List JSValue
  /-- The references stored by the function into arrays it created: (array id, value). -/
  stored : List (Nat × JSValue)
  /-- The arguments of every invocation of `JS_Call` the function made, latest first, also of
  one on a value that is not a function. -/
  calls : List (List JSValue)

/-- A bridge function on the QuickJS backend. -/
abbrev QjsM := BridgeM QjsState

/-- A JS function called by the bridge: from the function, `this` and the arguments, its return
value or the message of the exception it throws. -/
abbrev QjsCallee := JSValue → JSValue → List JSValue → Except String JSValue

/-- Every object the function holds or has stored names an id below `nextId`: the array
`JS_NewArray` creates next is one nothing refers to yet. -/
def QjsState.Fresh (s : QjsState) : Prop :=
  (∀ p ∈ s.stored, p.1 < s.nextId) ∧ ∀ a b, JSValue.obj a b ∈ s.owned → a < s.nextId

/-- The state with one more reference to `v` held. -/
def QjsState.acquire (s : QjsState) (v : JSValue) : QjsState := { s with owned := v :: s.owned }

namespace Qjs

variable {T : Type}

/-- `JS_NewArray`: a new empty array, one reference held. -/
def newArray : QjsM JSValue := fun s =>
  let a := JSValue.obj s.nextId false
  .ok a { s with arrays := Function.update s.arrays s.nextId [], nextId := s.nextId + 1,
                 owned := a :: s.owned }

/-- `JS_DupValue`: one more reference to `v`. -/
def dupValue (v : JSValue) : QjsM JSValue := fun s => .ok v (s.acquire v)

/-- `JS_FreeValue`: one reference to `v` released. When it was the function's last reference to
an array it created, the array is freed and so are the references stored in it. -/
def freeValue (v : JSValue) : QjsM Unit := fun s =>
  if v ∈ s.owned then
    let owned := s.owned.erase v
    let stored := match v with
      | .obj a _ => if v ∈ owned then s.stored else s.stored.filter (·.1 ≠ a)
      | _ => s.stored
    .ok () { s with owned := owned, stored := stored }
  else .error (.undefined "JS_FreeValue of a reference the function does not hold") s

/-- `JS_SetPropertyUint32(ctx, arr, i, v)`: element `i` set to `v`, whose reference the array
takes over (an element it replaces is released). -/
def setPropertyUint32 (arr : JSValue) (i : Nat) (v : JSValue) : QjsM Unit := fun s =>
  match arr with
  | .obj a _ =>
    if v ∈ s.owned then
      let xs := s.arrays a
      let xs' := if i < xs.length then xs.set i v
        else xs ++ List.replicate (i - xs.length) .undefined ++ [v]
      let stored := match xs[i]? with
        | some old => s.stored.erase (a, old)
        | none => s.stored
      .ok () { s with arrays := Function.update s.arrays a xs', owned := s.owned.erase v,
                      stored := (a, v) :: stored }
    else .error (.undefined "JS_SetPropertyUint32 of a reference the function does not hold") s
  | _ => .error (.undefined "JS_SetPropertyUint32 on a non-object") s

/-- `JS_GetPropertyUint32(ctx, arr, j)`: a new reference to element `j` (`undefined` past the
end). -/
def getPropertyUint32 (arr : JSValue) (j : Nat) : QjsM JSValue := fun s =>
  let v := match arr with
    | .obj a _ => (s.arrays a).getD j .undefined
    | _ => .undefined
  .ok v (s.acquire v)

/-- The property `name` of `o` under the properties `props`, `undefined` if it is missing. -/
def propertyStr (props : Nat → String → Option JSValue) (o : JSValue) (name : String) : JSValue :=
  match o with
  | .obj p _ => (props p name).getD .undefined
  | _ => .undefined

/-- `JS_GetPropertyStr(ctx, obj, name)`: a new reference to the property. -/
def getPropertyStr (o : JSValue) (name : String) : QjsM JSValue := fun s =>
  let v := propertyStr s.props o name
  .ok v (s.acquire v)

/-- Whether `v` is a thenable under the properties `props`: an object with a `then` property. -/
def thenable (props : Nat → String → Option JSValue) : JSValue → Bool
  | .obj p _ => (props p "then").isSome
  | _ => false

/-- `hasPropertyStr(value, name)` of `QuickJsUtils`. -/
def hasPropertyStr (o : JSValue) (name : String) : QjsM Bool := fun s =>
  match o with
  | .obj p _ => .ok (s.props p name).isSome s
  | _ => .ok false s

@[simp] theorem hasPropertyStr_then (o : JSValue) (s : QjsState) :
    hasPropertyStr o "then" s = .ok (thenable s.props o) s := by
  cases o <;> rfl

/-- `JS_Call(ctx, f, this, argc, argv)`: the arguments are borrowed, the result (or
`JS_EXCEPTION`) is a new reference. The log records the invocation of `JS_Call`: one on a value
that is not a function is logged too, with the outcome `callee` gives it (QuickJS throws a
`TypeError`). -/
def call (callee : QjsCallee) (f this : JSValue) (args : List JSValue) : QjsM JSValue := fun s =>
  let ret := match callee f this args with
    | .ok v => v
    | .error msg => .exception msg
  .ok ret { s.acquire ret with calls := args :: s.calls }

/-- `ExceptionHandler::getCurrentJsException`: the pending exception as a `JsException`. -/
def currentJsException : JSValue → Exn
  | .exception msg => .jsException msg
  | _ => .jsException ""

/-- `JS_AUTORELEASE_VALUE(ctx, v)`: `v` is freed when the scope is left, normally or by an
exception. -/
def autorelease {α : Type} (v : JSValue) (x : QjsM α) : QjsM α := fun s =>
  match x s with
  | .ok a s' => (do freeValue v; pure a) s'
  | .error (.thrown e) s' => (do freeValue v; raise e) s'
  | r => r

/-- `jniContext->getArrayLength(array)`. -/
def getArrayLength (a : JValue) : QjsM Nat :=
  match a.arrayElements with
  | some xs => pure xs.length
  | none => stuck "getArrayLength of a value that is not a Java array"

/-- `JObjectArrayLocalRef::getElement(i)` on a Java argument array that may be `null`. -/
def getElement (javaArgs : Option (List JValue)) (i : Nat) : QjsM JValue :=
  match javaArgs with
  | some xs => at? xs i
  | none => stuck "getElement on a null array"

/-- `JavaType::fromJava`: a new reference to the converted value. -/
def fromJava (c : Codec T JSValue) (t : T) (a : JValue) : QjsM JSValue := fun s =>
  match c.fromJava t a with
  | .ok v => .ok v (s.acquire v)
  | .error e => .error (.thrown e) s

/-- `JavaType::fromJavaArray`: a new JS array of the converted elements, one reference held. -/
def fromJavaArray (c : Codec T JSValue) (t : T) (a : JValue) : QjsM JSValue := fun s =>
  match a.arrayElements with
  | some xs =>
    match c.fromJavaArray t xs with
    | .ok vs =>
      let arr := JSValue.obj s.nextId false
      .ok arr { s.acquire arr with arrays := Function.update s.arrays s.nextId vs,
                                   nextId := s.nextId + 1 }
    | .error e => .error (.thrown e) s
  | none => .error (.undefined "fromJavaArray of a value that is not a Java array") s

/-- `JavaType::toJava`: the value is borrowed. -/
def toJava (c : Codec T JSValue) (t : T) (v : JSValue) : QjsM JValue := liftExn (c.toJava t v)

/-- `JavaType::toJavaArray`: the JS array is borrowed, its elements converted. -/
def toJavaArray (c : Codec T JSValue) (t : T) (arr : JSValue) : QjsM JValue := fun s =>
  match arr with
  | .obj a _ => liftExn (c.toJavaArray t (s.arrays a)) s
  | _ => .error (.undefined "toJavaArray of a non-array") s

/-! ## What each call does -/

section Run

variable {s : QjsState} {c : Codec T JSValue} {t : T}

@[simp] theorem acquire_calls (v : JSValue) : (s.acquire v).calls = s.calls := rfl

/-- One more reference held, as a multiset: the new one joins the function's own references. -/
theorem acquire_perm {v : JSValue} {ys L : List JSValue} (h : s.owned.Perm (ys ++ L)) :
    (s.acquire v).owned.Perm ((ys ++ [v]) ++ L) :=
  (h.cons v).trans (by simpa using List.perm_middle.symm)

theorem freeValue_run {v : JSValue} (h : v ∈ s.owned) :
    ∃ st, freeValue v s = .ok () { s with owned := s.owned.erase v, stored := st } := by
  unfold freeValue
  simp only [h, if_true]
  exact ⟨_, rfl⟩

/-- Releasing the first of the function's own references. -/
theorem freeValue_perm {v : JSValue} {K L : List JSValue} (h : s.owned.Perm (v :: K ++ L)) :
    ∃ s', freeValue v s = .ok () s' ∧ s'.owned.Perm (K ++ L) ∧ s'.calls = s.calls ∧
      s'.nextId = s.nextId ∧ s'.arrays = s.arrays := by
  obtain ⟨st, hst⟩ := freeValue_run (h.mem_iff.mpr (List.mem_cons_self _ _))
  exact ⟨_, hst, (h.erase v).trans (by simp), rfl, rfl, rfl⟩

/-- Freeing the function's only reference to an array it created releases the references the
array took over. -/
theorem freeValue_last {a : Nat} {b : Bool} {L : List JSValue} (hnot : JSValue.obj a b ∉ s.owned)
    (hkeep : ∀ p ∈ s.stored, p.1 ≠ a) :
    freeValue (.obj a b) { s with owned := .obj a b :: s.owned,
                                  stored := (L.map fun v => (a, v)).reverse ++ s.stored } =
      .ok () s := by
  have h : ((L.map fun v => (a, v)).reverse ++ s.stored).filter (fun p => p.1 ≠ a) = s.stored := by
    rw [List.filter_append, List.filter_eq_nil_iff.mpr (by simp),
      List.filter_eq_self.mpr (by simpa using hkeep)]
    rfl
  simp only [freeValue, List.mem_cons_self, if_true, List.erase_cons_head, hnot, if_false, h]

@[simp] theorem getPropertyUint32_obj (a : Nat) (b : Bool) (j : Nat) :
    getPropertyUint32 (.obj a b) j s =
      .ok ((s.arrays a).getD j .undefined) (s.acquire ((s.arrays a).getD j .undefined)) := rfl

theorem fromJava_ok {a : JValue} {v : JSValue} (h : c.fromJava t a = .ok v) :
    fromJava c t a s = .ok v (s.acquire v) := by
  simp [fromJava, h]

theorem fromJava_error {a : JValue} {e : Exn} (h : c.fromJava t a = .error e) :
    fromJava c t a s = .error (.thrown e) s := by
  simp [fromJava, h]

theorem fromJavaArray_ok {a : JValue} {xs : List JValue} {vs : List JSValue}
    (ha : a.arrayElements = some xs) (h : c.fromJavaArray t xs = .ok vs) :
    fromJavaArray c t a s = .ok (.obj s.nextId false)
      { s.acquire (.obj s.nextId false) with
        arrays := Function.update s.arrays s.nextId vs, nextId := s.nextId + 1 } := by
  simp [fromJavaArray, ha, h]

theorem fromJavaArray_error {a : JValue} {xs : List JValue} {e : Exn}
    (ha : a.arrayElements = some xs) (h : c.fromJavaArray t xs = .error e) :
    fromJavaArray c t a s = .error (.thrown e) s := by
  simp [fromJavaArray, ha, h]

end Run

/-! ## What the function holds -/

/-- The function holds the references `L` and has made the calls `l`. -/
def Ledger (L : List JSValue) (l : List (List JSValue)) (s : QjsState) : Prop :=
  s.owned.Perm L ∧ s.calls = l

section Ledger

variable {α : Type} {L : List JSValue} {l : List (List JSValue)} {E : QjsState → Prop} {U : Prop}

theorem getPropertyStr_ledger (o : JSValue) (name : String) :
    Triple (Ledger L l) (getPropertyStr o name) (fun v => Ledger (v :: L) l) E U :=
  fun _ hs => ⟨hs.1.cons _, hs.2⟩

theorem freeValue_ledger {v : JSValue} {s : QjsState} (h : Ledger (v :: L) l s) :
    ∃ s', freeValue v s = .ok () s' ∧ Ledger L l s' :=
  have ⟨s', hfree, hown, hcalls, _⟩ := freeValue_perm (K := []) h.1
  ⟨s', hfree, hown, hcalls.trans h.2⟩

/-- `JS_AUTORELEASE_VALUE`: a scope that keeps what it was entered with, the held value among
it, leaves without the held value, normally or by an exception. -/
theorem autorelease_ledger {x : QjsM α} {v : JSValue} {s : QjsState}
    (hx : Exits (fun _ => Ledger (v :: L) l) (Ledger (v :: L) l) False (x s)) :
    Exits (fun _ => Ledger L l) (Ledger L l) False (autorelease v x s) := by
  unfold autorelease
  rcases hr : x s with ⟨a, s'⟩ | ⟨_ | _ | _, s'⟩ <;> rw [hr] at hx <;> dsimp only
  · obtain ⟨_, hfree, hs⟩ := freeValue_ledger hx
    rw [bind_run_ok hfree]; exact hs
  · obtain ⟨_, hfree, hs⟩ := freeValue_ledger hx
    rw [bind_run_ok hfree]; exact hs
  · trivial
  · exact hx.elim

end Ledger

end Qjs

end JsBridge

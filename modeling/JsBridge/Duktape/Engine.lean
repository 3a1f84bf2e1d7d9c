import JsBridge.Marshal
import JsBridge.Triple

/-!
# The Duktape value stack

The Duktape backend passes every value through the value stack of the current activation,
modelled as a list with the top first. Absolute indices count from the bottom, as
`duk_normalize_index` returns them. Each `duk_*` call the bridge makes is one definition here;
a misuse the engine detects (an index out of range, a `duk_require_*` that fails) is an engine
error.

The `JavaType` conversions are a `Codec`: `pushJava` converts and pushes exactly one value or
throws having pushed none, `pushArray` pushes every element or none, and `popJava` removes
exactly the top value before converting it.
-/

namespace JsBridge

/-- A Duktape value as far as the modelled code tells values apart. -/
inductive DukValue where
  | undefined
  | null
  | boolean (b : Bool)
  | number (n : Int)
  | string (s : String)
  /-- A heap object: `ptr` is its heap pointer, `callable` whether it is a function. -/
  | object (ptr : Nat) (callable : Bool)
  /-- The error a call threw, with its message. -/
  | error (message : String)
  deriving Repr, DecidableEq

/-- What the bridge sees of a Duktape context. -/
structure DukState where
  /-- The value stack of the current activation, top first. -/
  stack : List DukValue
  /-- Properties of heap objects, by heap pointer (read-only for the bridge). -/
  props : Nat → String → Option DukValue
  /-- One entry per invocation of `duk_pcall` or `duk_pcall_prop`, latest first: the arguments
  it was given, also when the value it calls is not callable and no JS code runs. -/
  calls : List (List DukValue)

/-- A bridge function on the Duktape backend. -/
abbrev DukM := BridgeM DukState

/-- A JS function called by the bridge: from the function, `this` and the arguments, its return
value or the message of the error it throws. -/
abbrev DukCallee := DukValue → Option DukValue → List DukValue → Except String DukValue

namespace Duk

variable {T : Type}

/-- `duk_get_top`. -/
def getTop : DukM Nat := fun s => .ok s.stack.length s

/-- `duk_push_*` of one value. -/
def push (v : DukValue) : DukM Unit := fun s => .ok () { s with stack := v :: s.stack }

/-- Pushing `vs` in order: the last one ends on top. -/
def pushAll (vs : List DukValue) : DukM Unit := fun s =>
  .ok () { s with stack := vs.reverse ++ s.stack }

/-- `duk_pop_n`. -/
def popN (n : Nat) : DukM Unit := fun s =>
  if n ≤ s.stack.length then .ok () { s with stack := s.stack.drop n }
  else .error (.engine "duk_pop_n: not enough values") s

/-- The value at absolute index `idx`. -/
def getAt (idx : Nat) : DukM DukValue := fun s =>
  match s.stack[s.stack.length - 1 - idx]? with
  | some v => if idx < s.stack.length then .ok v s else .error (.engine "invalid index") s
  | none => .error (.engine "invalid index") s

/-- The value on top (index `-1`). -/
def top : DukM DukValue := fun s =>
  match s.stack with
  | v :: _ => .ok v s
  | [] => .error (.engine "invalid index") s

/-- `duk_normalize_index(ctx, -1)`. -/
def normalizeTop : DukM Nat := fun s =>
  if 0 < s.stack.length then .ok (s.stack.length - 1) s else .error (.engine "invalid index") s

/-- `duk_require_function`. -/
def requireFunction (idx : Nat) : DukM Unit := do
  match ← getAt idx with
  | .object _ true => pure ()
  | _ => throw (.engine "not a function")

/-- `duk_require_object`. -/
def requireObject (idx : Nat) : DukM Unit := do
  match ← getAt idx with
  | .object _ _ => pure ()
  | _ => throw (.engine "not an object")

/-- `duk_remove`. -/
def remove (idx : Nat) : DukM Unit := fun s =>
  if idx < s.stack.length then .ok () { s with stack := s.stack.eraseIdx (s.stack.length - 1 - idx) }
  else .error (.engine "invalid index") s

/-- A call's result pushed where the function (and its arguments) were, and whether it
returned normally. -/
def pushResult (r : Except String DukValue) : DukM Bool :=
  match r with
  | .ok v => do push v; pure true
  | .error msg => do push (.error msg); pure false

/-- `duk_pcall(ctx, nargs)`: `[... func arg1 ... argN] → [... retval]`, logged as one
invocation whatever `func` is. -/
def pcall (callee : DukCallee) (nargs : Nat) : DukM Bool := fun s =>
  match s.stack.drop nargs with
  | f :: rest =>
    let args := (s.stack.take nargs).reverse
    pushResult (callee f none args) { s with stack := rest, calls := args :: s.calls }
  | [] => .error (.engine "duk_pcall: not enough values") s

/-- `duk_pcall_prop(ctx, objIdx, nargs)`: `[... obj ... key arg1 ... argN] → [... obj ...
retval]`; the function is `obj[key]`, called with `this = obj`. The log records the invocation
of `duk_pcall_prop` itself: a property that is not callable is logged too, and its call fails
with an error value. -/
def pcallProp (callee : DukCallee) (objIdx nargs : Nat) : DukM Bool := fun s =>
  match s.stack.drop nargs, s.stack[s.stack.length - 1 - objIdx]? with
  | .string key :: rest, some (.object p c) =>
    let args := (s.stack.take nargs).reverse
    let s' := { s with stack := rest, calls := args :: s.calls }
    match s.props p key with
    | some (.object q true) => pushResult (callee (.object q true) (some (.object p c)) args) s'
    | _ => pushResult (.error "not callable") s'
  | _, _ => .error (.engine "duk_pcall_prop: invalid stack") s

/-- `duk_get_prop_string(ctx, -1, key)`: pushes the property (or `undefined`) of the object on
top, and tells whether it exists. -/
def getPropString (key : String) : DukM Bool := fun s =>
  match s.stack with
  | .object p _ :: _ =>
    match s.props p key with
    | some v => .ok true { s with stack := v :: s.stack }
    | none => .ok false { s with stack := .undefined :: s.stack }
  | _ => .error (.engine "not object coercible") s

/-- `duk_is_callable(ctx, -1)`. -/
def isCallableTop : DukM Bool := fun s =>
  match s.stack with
  | .object _ callable :: _ => .ok callable s
  | _ => .ok false s

/-- Whether `v` is a thenable under the properties `props`: an object with a `then` property. -/
def thenable (props : Nat → String → Option DukValue) : DukValue → Bool
  | .object p _ => (props p "then").isSome
  | _ => false

/-- `duk_is_object(ctx, -1) && duk_has_prop_string(ctx, -1, "then")`. -/
def isThenableTop : DukM Bool := fun s =>
  match s.stack with
  | .object p _ :: _ => .ok (s.props p "then").isSome s
  | _ => .ok false s

/-- `JavaType::push`: one converted value pushed, or the conversion's exception with nothing
pushed. -/
def pushJava (c : Codec T DukValue) (t : T) (a : JValue) : DukM Unit := do
  push (← liftExn (c.fromJava t a))

/-- `JavaType::pushArray(values, true)`: the elements of a Java array converted and pushed in
order; the count pushed. -/
def pushArray (c : Codec T DukValue) (t : T) (a : JValue) : DukM Nat :=
  match a.arrayElements with
  | some xs => do
    let vs ← liftExn (c.fromJavaArray t xs)
    pushAll vs
    pure vs.length
  | none => stuck "pushArray: not a Java array"

/-- `JavaType::pop`: the top value removed, then converted. -/
def popJava (c : Codec T DukValue) (t : T) : DukM JValue := do
  let v ← top
  popN 1
  liftExn (c.toJava t v)

/-- Modelled from the spec: `JavaType::popArray(count, true)` reads the `count` trailing
arguments into one Java array through the element type; the value stack must hold them. -/
def popArray (c : Codec T DukValue) (t : T) (count : UInt64) : DukM JValue := fun s =>
  if count.toNat ≤ s.stack.length then
    liftExn (c.toJavaArray t (s.stack.take count.toNat).reverse)
      { s with stack := s.stack.drop count.toNat }
  else .error (.engine "popArray: value stack underflow") s

/-- `ExceptionHandler::getCurrentJsException`: the error on top removed and wrapped. -/
def currentJsException : DukM Exn := do
  let v ← top
  popN 1
  match v with
  | .error msg => pure (.jsException msg)
  | _ => pure (.jsException "")

/-! ## What each call does -/

section Run

variable {s : DukState} {c : Codec T DukValue} {t : T}

@[simp] theorem push_run (v : DukValue) : push v s = .ok () { s with stack := v :: s.stack } := rfl

theorem popN_run {n : Nat} (h : n ≤ s.stack.length) :
    popN n s = .ok () { s with stack := s.stack.drop n } := by
  simp [popN, h]

theorem pushJava_ok {a : JValue} {v : DukValue} (h : c.fromJava t a = .ok v) :
    pushJava c t a s = .ok () { s with stack := v :: s.stack } := by
  simp only [pushJava, h]; rfl

theorem pushJava_error {a : JValue} {e : Exn} (h : c.fromJava t a = .error e) :
    pushJava c t a s = .error (.thrown e) s := by
  simp only [pushJava, h]; rfl

theorem pushArray_ok {a : JValue} {xs : List JValue} {vs : List DukValue}
    (ha : a.arrayElements = some xs) (h : c.fromJavaArray t xs = .ok vs) :
    pushArray c t a s = .ok vs.length { s with stack := vs.reverse ++ s.stack } := by
  simp only [pushArray, ha, h]; rfl

theorem pushArray_error {a : JValue} {xs : List JValue} {e : Exn}
    (ha : a.arrayElements = some xs) (h : c.fromJavaArray t xs = .error e) :
    pushArray c t a s = .error (.thrown e) s := by
  simp only [pushArray, ha, h]; rfl

theorem requireObject_exits {E : DukState → Prop} {U : Prop} {idx : Nat} {v : DukValue}
    (h : getAt idx s = .ok v s) :
    Exits (fun _ s' => s' = s ∧ ∃ q f, v = .object q f) E U (requireObject idx s) := by
  simp only [requireObject]
  rw [bind_run_ok h]
  split
  · exact ⟨rfl, _, _, rfl⟩
  · trivial

theorem requireFunction_exits {E : DukState → Prop} {U : Prop} {idx : Nat} {v : DukValue}
    (h : getAt idx s = .ok v s) :
    Exits (fun _ s' => s' = s ∧ ∃ q, v = .object q true) E U (requireFunction idx s) := by
  simp only [requireFunction]
  rw [bind_run_ok h]
  split
  · exact ⟨rfl, _, rfl⟩
  · trivial

end Run

/-! ## Value stack height

What each call does to the height of the value stack, on every exit. -/

section Height

variable {E : DukState → Prop} {U : Prop} {k : Nat}

/-- A state whose value stack has height `k`. -/
def Height (k : Nat) (s : DukState) : Prop := s.stack.length = k

theorem push_height (v : DukValue) :
    Triple (Height k) (push v) (fun _ => Height (k + 1)) E U := by
  intro s hs; simp [Exits, push, Height] at hs ⊢; omega

theorem pushAll_height (vs : List DukValue) :
    Triple (Height k) (pushAll vs) (fun _ => Height (k + vs.length)) E U := by
  intro s hs; simp [Exits, pushAll, Height] at hs ⊢; omega

theorem popN_height (n : Nat) :
    Triple (Height k) (popN n) (fun _ => Height (k - n)) E U := by
  intro s hs
  simp only [popN]
  split <;> simp_all [Exits, Height]

theorem normalizeTop_height :
    Triple (Height k) normalizeTop (fun i s => Height k s ∧ i = k - 1) E U := by
  intro s hs
  simp only [normalizeTop]
  split <;> simp_all [Exits, Height]

theorem getAt_height (idx : Nat) : Triple (Height k) (getAt idx) (fun _ => Height k) E U := by
  intro s hs
  simp only [getAt]
  split
  · split <;> simp_all [Exits]
  · simp [Exits]

theorem requireFunction_height (idx : Nat) :
    Triple (Height k) (requireFunction idx) (fun _ => Height k) E U := by
  refine Triple.bind (getAt_height idx) fun v => ?_
  split
  · exact Triple.pure fun _ h => h
  · exact fun _ _ => trivial

theorem requireObject_height (idx : Nat) :
    Triple (Height k) (requireObject idx) (fun _ => Height k) E U := by
  refine Triple.bind (getAt_height idx) fun v => ?_
  split
  · exact Triple.pure fun _ h => h
  · exact fun _ _ => trivial

theorem remove_height (idx : Nat) : Triple (Height k) (remove idx) (fun _ => Height (k - 1)) E U := by
  intro s hs
  simp only [remove]
  split <;> simp_all [Exits, Height, List.length_eraseIdx]; omega

theorem pushResult_exits (r : Except String DukValue) (s : DukState) :
    Exits (fun _ => Height (s.stack.length + 1)) E U (pushResult r s) := by
  cases r <;> rfl

theorem length_of_drop_eq_cons {l rest : List DukValue} {n : Nat} {a : DukValue}
    (h : l.drop n = a :: rest) : rest.length + 1 = l.length - n := by
  simpa using (congrArg List.length h).symm

theorem pcall_height (callee : DukCallee) (nargs : Nat) :
    Triple (Height k) (pcall callee nargs) (fun _ => Height (k - nargs)) E U := by
  intro s hs
  unfold pcall
  split
  · next f rest hd =>
    rw [← hs, ← length_of_drop_eq_cons hd]
    exact pushResult_exits (s := { s with stack := rest, calls := _ }) _
  · trivial

theorem pcallProp_height (callee : DukCallee) (objIdx nargs : Nat) :
    Triple (Height k) (pcallProp callee objIdx nargs) (fun _ => Height (k - nargs)) E U := by
  intro s hs
  unfold pcallProp
  split
  · next _ _ key rest p c hd _ =>
    rw [← hs, ← length_of_drop_eq_cons hd]
    dsimp only
    split <;> exact pushResult_exits (s := { s with stack := rest, calls := _ }) _
  · trivial

theorem getPropString_height (key : String) :
    Triple (Height k) (getPropString key) (fun _ => Height (k + 1)) E U := by
  intro s hs
  simp only [getPropString]
  split
  · split <;> simp_all [Exits, Height]
  · trivial

theorem isCallableTop_height : Triple (Height k) isCallableTop (fun _ => Height k) E U := by
  intro s hs
  simp only [isCallableTop]
  split <;> simp_all [Exits]

theorem top_height : Triple (Height k) top (fun _ => Height k) E U := by
  intro s hs
  simp only [top]
  split <;> simp_all [Exits]

theorem isThenableTop_height : Triple (Height k) isThenableTop (fun _ => Height k) E U := by
  intro s hs
  simp only [isThenableTop]
  split <;> simp_all [Exits]

theorem pushJava_height {T : Type} (c : Codec T DukValue) (t : T) (a : JValue) :
    Triple (Height k) (pushJava c t a) (fun _ => Height (k + 1)) (Height k) U :=
  Triple.bind (Triple.liftExn (fun _ _ h => h) fun _ h => h) fun _ => push_height _

theorem pushArray_height {T : Type} (c : Codec T DukValue) (t : T) (a : JValue) (hU : U) :
    Triple (Height k) (pushArray c t a) (fun n => Height (k + n)) (Height k) U := by
  unfold pushArray
  split
  · exact Triple.bind (Triple.liftExn (fun _ _ h => h) fun _ h => h) fun vs =>
      Triple.bind (pushAll_height vs) fun _ => Triple.pure fun _ h => h
  · exact Triple.stuck hU

/-- `JavaType::pop` removes exactly the top value, also when the conversion throws. -/
theorem popJava_height {T : Type} (c : Codec T DukValue) (t : T) :
    Triple (Height k) (popJava c t) (fun _ => Height (k - 1)) (Height (k - 1)) U :=
  Triple.bind top_height fun _ => Triple.bind (popN_height 1) fun _ =>
    Triple.liftExn (fun _ _ h => h) fun _ h => h

theorem currentJsException_height :
    Triple (Height k) currentJsException (fun _ => Height (k - 1)) E U := by
  refine Triple.bind top_height fun v => Triple.bind (popN_height 1) fun _ => ?_
  split <;> exact Triple.pure fun _ h => h

end Height

/-! ## The calls log

Only `duk_pcall` and `duk_pcall_prop` call into JS; the calls that handle the result leave the
log as it is. -/

section Log

variable {E : DukState → Prop} {U : Prop} {l : List (List DukValue)}

/-- A state whose log of calls into JS is `l`. -/
def Logged (l : List (List DukValue)) (s : DukState) : Prop := s.calls = l

theorem top_logged : Triple (Logged l) top (fun _ => Logged l) E U := by
  intro s hs
  simp only [top]
  split <;> simp_all [Exits]

theorem popN_logged (n : Nat) : Triple (Logged l) (popN n) (fun _ => Logged l) E U := by
  intro s hs
  simp only [popN]
  split <;> simp_all [Exits, Logged]

theorem remove_logged (idx : Nat) : Triple (Logged l) (remove idx) (fun _ => Logged l) E U := by
  intro s hs
  simp only [remove]
  split <;> simp_all [Exits, Logged]

theorem isThenableTop_logged : Triple (Logged l) isThenableTop (fun _ => Logged l) E U := by
  intro s hs
  simp only [isThenableTop]
  split <;> simp_all [Exits]

theorem popJava_logged {T : Type} (c : Codec T DukValue) (t : T) :
    Triple (Logged l) (popJava c t) (fun _ => Logged l) (Logged l) U :=
  Triple.bind top_logged fun _ => Triple.bind (popN_logged 1) fun _ =>
    Triple.liftExn (fun _ _ h => h) fun _ h => h

theorem currentJsException_logged :
    Triple (Logged l) currentJsException (fun _ => Logged l) E U := by
  refine Triple.bind top_logged fun v => Triple.bind (popN_logged 1) fun _ => ?_
  split <;> exact Triple.pure fun _ h => h

end Log

end Duk

end JsBridge

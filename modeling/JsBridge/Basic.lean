import Mathlib.Data.List.Basic

/-!
# The bridge's data model

Values on the Java side, the C++ exceptions the bridge code throws and catches, and the effect
monad in which every engine function of the bridge is modelled.

A bridge function runs against an engine state `σ` (the Duktape value stack, or the QuickJS
runtime seen from the running function) and may leave abnormally. `EStateM` keeps the state at
the point of the throw, where a function that releases what it holds on every exit must have
released it: a C++ exception unwinds the native frame but not the engine's value stack or
reference counts.

The `JavaType` conversions are not part of the modelled sources. A `Codec` takes them as
parameters; the array conversions derived from them follow the spec's words (an array
marshaller "recursively delegates to its element Marshaller").
-/

namespace JsBridge

/-- A Java value as the bridge handles it through JNI. -/
inductive JValue where
  /-- `null` (also what an unset `JValue` holds). -/
  | null
  /-- Any other object reference: a boxed primitive, a string, a proxy, ... -/
  | ref (id : Nat)
  /-- A Java array, with its elements. -/
  | array (elements : List JValue)
  deriving Repr, Inhabited

/-- The elements of a Java array, or `none` for a value that is not one. -/
def JValue.arrayElements : JValue → Option (List JValue)
  | .array xs => some xs
  | _ => none

/-- A C++ exception: all of them derive from `std::exception`. -/
inductive Exn where
  /-- `std::invalid_argument`. -/
  | invalidArgument (what : String)
  /-- `std::runtime_error`. -/
  | runtimeError (what : String)
  /-- The `JsException` built by `ExceptionHandler::getCurrentJsException`. -/
  | jsException (what : String)
  /-- Any other `std::exception` (`std::bad_alloc`, a JNI failure, ...). -/
  | other (what : String)
  deriving Repr, DecidableEq

/-- `e.what()`. -/
def Exn.what : Exn → String
  | .invalidArgument w | .runtimeError w | .jsException w | .other w => w

/-- Whether `catch (const std::invalid_argument &)` catches the exception. -/
def Exn.isInvalidArgument : Exn → Bool
  | .invalidArgument _ => true
  | _ => false

/-- How a bridge function leaves abnormally. -/
inductive Err where
  /-- A C++ exception, which a `catch` clause of the bridge may catch. -/
  | thrown (e : Exn)
  /-- An error raised by the engine API itself (a failed `duk_require_*`, a value stack
  underflow): it unwinds to the engine's own protected-call boundary, not to a C++ `catch`. -/
  | engine (what : String)
  /-- Undefined behaviour of the C++ code (an index out of range, a free of a reference the
  function does not hold, a read of an uninitialised slot); the run stops there. -/
  | undefined (what : String)
  deriving Repr, DecidableEq

section Except

variable {ε α β : Type}

@[simp] theorem except_ok_bind (a : α) (f : α → Except ε β) : (Except.ok a >>= f) = f a := rfl

@[simp] theorem except_error_bind (e : ε) (f : α → Except ε β) :
    (Except.error e >>= f) = .error e := rfl

@[simp] theorem except_pure (a : α) : (pure a : Except ε α) = .ok a := rfl

/-- A bound computation that returned: both parts returned. -/
theorem except_bind_eq_ok {x : Except ε α} {f : α → Except ε β} {b : β} (h : (x >>= f) = .ok b) :
    ∃ a, x = .ok a ∧ f a = .ok b := by
  cases x with
  | error e => cases h
  | ok a => exact ⟨a, rfl, h⟩

end Except

/-- A bridge function over engine state `σ`. -/
abbrev BridgeM (σ : Type) := EStateM Err σ

section Monad

variable {σ α : Type}

/-- `throw e` for a C++ exception `e`. -/
def raise (e : Exn) : BridgeM σ α := throw (.thrown e)

/-- A run that reaches undefined behaviour. -/
def stuck (what : String) : BridgeM σ α := throw (.undefined what)

/-- A conversion of a `JavaType`: its result, or the exception it throws. -/
def liftExn : Except Exn α → BridgeM σ α
  | .ok a => pure a
  | .error e => raise e

/-- `try { x } catch (const C &e) { h(e) }`, where `catches e` says whether `e` is a `C`; only
C++ exceptions are caught. -/
def catchWhen (catches : Exn → Bool) (x : BridgeM σ α) (h : Exn → BridgeM σ α) : BridgeM σ α :=
  fun s =>
    match x s with
    | .error (.thrown e) s' => if catches e then h e s' else .error (.thrown e) s'
    | r => r

/-- `try { x } catch (const std::exception &e) { h(e) }`: every C++ exception. -/
def catchStd (x : BridgeM σ α) (h : Exn → BridgeM σ α) : BridgeM σ α :=
  catchWhen (fun _ => true) x h

/-- `try { x } catch (const std::invalid_argument &e) { h(e) }`. -/
def catchInvalidArgument (x : BridgeM σ α) (h : Exn → BridgeM σ α) : BridgeM σ α :=
  catchWhen Exn.isInvalidArgument x h

/-- `xs[i]` on a C array or `std::vector` whose length the code does not check. -/
def at? (xs : List α) (i : Nat) : BridgeM σ α :=
  match xs[i]? with
  | some a => pure a
  | none => stuck "index out of range"

@[simp] theorem raise_run (e : Exn) (s : σ) : (raise e : BridgeM σ α) s = .error (.thrown e) s := rfl

@[simp] theorem stuck_run (w : String) (s : σ) :
    (stuck w : BridgeM σ α) s = .error (.undefined w) s := rfl

@[simp] theorem liftExn_ok (a : α) (s : σ) : (liftExn (.ok a) : BridgeM σ α) s = .ok a s := rfl

@[simp] theorem liftExn_error (e : Exn) (s : σ) :
    (liftExn (.error e) : BridgeM σ α) s = .error (.thrown e) s := rfl

/-- A conversion returns or throws, and leaves the state as it was. -/
theorem liftExn_cases (x : Except Exn α) (s : σ) :
    (∃ a, (liftExn x : BridgeM σ α) s = .ok a s) ∨
      ∃ e, (liftExn x : BridgeM σ α) s = .error (.thrown e) s := by
  cases x <;> simp

theorem at?_of_lt {xs : List α} {i : Nat} (h : i < xs.length) (s : σ) :
    (at? xs i : BridgeM σ α) s = .ok xs[i] s := by
  simp [at?, List.getElem?_eq_getElem h, pure, EStateM.pure]

@[simp] theorem pure_run (a : α) (s : σ) : (pure a : BridgeM σ α) s = .ok a s := rfl

section Run

variable {β : Type} {x : BridgeM σ α} {f : α → BridgeM σ β} {s t : σ} {a : α}

theorem bind_run_ok (h : x s = .ok a t) : (x >>= f) s = f a t := by
  show EStateM.bind x f s = _
  simp [EStateM.bind, h]

theorem bind_run_error {e : Err} (h : x s = .error e t) : (x >>= f) s = .error e t := by
  show EStateM.bind x f s = _
  simp [EStateM.bind, h]

/-- Two first parts that end alike give sequences that end alike. -/
theorem bind_run_congr {y : BridgeM σ α} {u : σ} (h : x s = y u) : (x >>= f) s = (y >>= f) u := by
  show EStateM.bind x f s = EStateM.bind y f u
  simp only [EStateM.bind, h]

/-- A normal return of a sequence is a normal return of its first part, then of the rest. -/
theorem bind_run_ok_inv {b : β} (h : (x >>= f) s = .ok b t) :
    ∃ a u, x s = .ok a u ∧ f a u = .ok b t := by
  change EStateM.bind x f s = _ at h
  simp only [EStateM.bind] at h
  rcases hx : x s with ⟨a, u⟩ | ⟨e, u⟩ <;> rw [hx] at h
  · exact ⟨a, u, rfl, h⟩
  · cases h

/-- An exit by an error of a sequence is one of its first part, or one of the rest after the
first part returned. -/
theorem bind_run_error_inv {e : Err} (h : (x >>= f) s = .error e t) :
    x s = .error e t ∨ ∃ a u, x s = .ok a u ∧ f a u = .error e t := by
  change EStateM.bind x f s = _ at h
  simp only [EStateM.bind] at h
  rcases hx : x s with ⟨a, u⟩ | ⟨e', u⟩ <;> rw [hx] at h
  · exact .inr ⟨a, u, rfl, h⟩
  · exact .inl (by simpa using h)

theorem liftExn_run_ok_inv {c : Except Exn α} (h : (liftExn c : BridgeM σ α) s = .ok a t) :
    c = .ok a ∧ t = s := by
  cases c with
  | ok b => cases h; exact ⟨rfl, rfl⟩
  | error e => cases h

section Catch

variable {catches : Exn → Bool} {hd : Exn → BridgeM σ α} {e : Exn}

theorem catchWhen_run_ok (h : x s = .ok a t) : catchWhen catches x hd s = .ok a t := by
  simp [catchWhen, h]

theorem catchWhen_run_caught (h : x s = .error (.thrown e) t) (he : catches e = true) :
    catchWhen catches x hd s = hd e t := by
  simp [catchWhen, h, he]

theorem catchWhen_run_other (h : x s = .error (.thrown e) t) (he : catches e = false) :
    catchWhen catches x hd s = .error (.thrown e) t := by
  simp [catchWhen, h, he]

/-- A normal return of a `try` is one of its body, or one of its handler after a caught
exception. -/
theorem catchWhen_run_ok_inv (h : catchWhen catches x hd s = .ok a t) :
    x s = .ok a t ∨ ∃ e u, x s = .error (.thrown e) u ∧ hd e u = .ok a t := by
  simp only [catchWhen] at h
  rcases hx : x s with ⟨b, u⟩ | ⟨e | _ | _, u⟩ <;> simp only [hx, reduceCtorEq] at h
  · exact .inl h
  · split at h
    · exact .inr ⟨e, u, rfl, h⟩
    · cases h

theorem catchStd_run_ok (h : x s = .ok a t) : catchStd x hd s = .ok a t := catchWhen_run_ok h

theorem catchStd_run_thrown (h : x s = .error (.thrown e) t) : catchStd x hd s = hd e t :=
  catchWhen_run_caught h rfl

theorem catchInvalidArgument_run_other (h : x s = .error (.thrown e) t)
    (he : e.isInvalidArgument = false) : catchInvalidArgument x hd s = .error (.thrown e) t :=
  catchWhen_run_other h he

end Catch

end Run

end Monad

/-- The exits after which the caller sees the state: a normal return or a C++ exception.
Engine errors unwind to the engine's protected-call boundary, and undefined behaviour has no
exit at all. -/
def AllExits {σ α : Type} (Q : σ → Prop) : EStateM.Result Err σ α → Prop
  | .ok _ s => Q s
  | .error (.thrown _) s => Q s
  | .error _ _ => True

/-- The run reaches no undefined behaviour. -/
def NoFault {σ α : Type} : EStateM.Result Err σ α → Prop
  | .error (.undefined _) _ => False
  | _ => True

end JsBridge

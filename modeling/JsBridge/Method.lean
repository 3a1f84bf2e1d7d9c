import JsBridge.Basic

/-!
# Method wrappers and their constructors

`JavaMethod` (JS calls Java) and `JavaScriptMethod` (Java calls JS) both keep a name, a lambda
flag, a varargs flag and one `JavaType` per declared parameter, the last one being the type of
the varargs *elements*. Both constructors build that list with the same loop; they differ only
in which types they box and in whether the return type is built first.

`P` stands for the reflected parameters (`jsBridgeParameter`) and `T` for the `JavaType`s built
from them; `JavaTypeProvider` is not among the modelled sources and enters as a `TypeProvider`.
-/

namespace JsBridge

variable {P T : Type}

/-- What `JniCache::getMethodInterface` reports of a reflected method. -/
structure MethodInterface (P : Type) where
  /-- `getName()`. -/
  name : String
  /-- `isVarArgs()`. -/
  isVarArgs : Bool
  /-- `getParameters()`. -/
  parameters : List P
  /-- `getReturnParameter()`. -/
  returnParameter : P
  /-- A varargs method ends with its array parameter (a JVM guarantee for `ACC_VARARGS`). -/
  varArgs_ne : isVarArgs = true → parameters ≠ []

/-- The parts of `JavaTypeProvider` and `Parameter` the constructors call. -/
structure TypeProvider (P T : Type) where
  /-- `makeUniqueType(parameter, boxed)`. -/
  makeUniqueType : P → Bool → Except Exn T
  /-- `ParameterInterface::getGenericParameter()`, the element parameter of a varargs array. -/
  getGenericParameter : P → Except Exn P

/-- The call-time part of `JavaTypeProvider` that a thenable result of a JS call needs. -/
structure DeferredTypes (P T : Type) where
  /-- `JavaType::isDeferred()`. -/
  isDeferred : T → Bool
  /-- `getDeferredType(parameter)`: the `Deferred` type for a return parameter. -/
  getDeferredType : P → T

/-- The signature part shared by both wrappers. -/
structure Signature (T : Type) where
  /-- `m_methodName`. -/
  methodName : String
  /-- `m_isLambda`. -/
  isLambda : Bool
  /-- `m_isVarArgs`. -/
  isVarArgs : Bool
  /-- `m_argumentTypes`; for a varargs method the last entry converts the elements. -/
  argumentTypes : List T
  /-- A varargs signature has its varargs parameter. -/
  varArgs_ne : isVarArgs = true → argumentTypes ≠ []

namespace Signature

/-- `minArgs`: the declared parameters less the varargs collector. -/
def minArgs (sig : Signature T) : Nat :=
  if sig.isVarArgs then sig.argumentTypes.length - 1 else sig.argumentTypes.length

/-- `m_argumentTypes.back()` of a varargs signature. -/
def varArgType (sig : Signature T) (h : sig.isVarArgs = true) : T :=
  sig.argumentTypes.getLast (sig.varArgs_ne h)

theorem minArgs_add_one {sig : Signature T} (h : sig.isVarArgs = true) :
    sig.minArgs + 1 = sig.argumentTypes.length := by
  have := List.length_pos.mpr (sig.varArgs_ne h)
  simp only [minArgs, h, if_true]
  omega

theorem minArgs_le (sig : Signature T) : sig.minArgs ≤ sig.argumentTypes.length := by
  unfold minArgs; split <;> omega

theorem minArgs_of_not {sig : Signature T} (h : sig.isVarArgs = false) :
    sig.minArgs = sig.argumentTypes.length := by
  simp [minArgs, h]

/-- What a Java caller passes as the argument array of a method with signature `sig`: `null`
or an array with one value per parameter, the last one a Java array for a varargs method. -/
def ArgsFit (sig : Signature T) : Option (List JValue) → Prop
  | none => sig.argumentTypes = []
  | some a => a.length = sig.argumentTypes.length ∧
      (sig.isVarArgs = true → (a.getLast?.bind JValue.arrayElements).isSome)

/-- A `null` argument array fits exactly where an empty one does. -/
theorem argsFit_getD {sig : Signature T} {args : Option (List JValue)} (h : sig.ArgsFit args) :
    sig.ArgsFit (some (args.getD [])) := by
  cases args with
  | some _ => exact h
  | none =>
    have hts : sig.argumentTypes = [] := h
    exact ⟨by simp [hts], fun hv => absurd hts (sig.varArgs_ne hv)⟩

end Signature

/-- A `JavaMethod`: the wrapper through which JS calls a Java method or lambda. -/
structure JavaMethod (T : Type) extends Signature T where
  /-- `m_returnValueType`. -/
  returnValueType : T

/-- The `std::invalid_argument` both `JavaMethod::invoke`s throw when JS passes more arguments
than a method that is not varargs declares. -/
def JavaMethod.tooManyParameters (m : JavaMethod T) (argCount : Nat) : Exn :=
  .invalidArgument ("Too many parameters when calling Java method " ++ m.methodName ++
    " (expected: " ++ toString m.minArgs ++ ", received: " ++ toString argCount ++ ")")

/-! ## The call into Java

`m_methodBody`, set by the constructor, calls the Java method through JNI: a lambda through
`callLambda`, which copies the argument vector into an `Object[]`, and any other method through
`JavaType::callMethod` of the return type. -/

/-- What the JVM does when `m_methodBody` calls into Java; JNI is not among the modelled
sources. -/
structure JavaCalls where
  /-- `callNativeLambda(javaThis, argArray)` and then `exceptionCheck()`: the lambda's result, or
  the message of the Java exception it left pending. -/
  callNativeLambda : List JValue → Except String JValue
  /-- `m_returnValueType->callMethod(methodId, javaThis, args)`: the method's result, or the
  exception it throws. -/
  callMethod : List JValue → Except Exn JValue

/-- The loop `for (const auto &arg : args) argArray.setElement(i++, arg.getLocalRef())`, from
index `i` over the arguments left. -/
def fillArgArray : List JValue → Nat → List JValue → List JValue
  | [], _, argArray => argArray
  | arg :: rest, i, argArray => fillArgArray rest (i + 1) (argArray.set i arg)

/-- `JavaMethod::callLambda`: a new `Object[]` of `args.size()` nulls filled with the arguments,
the lambda called on it, and a `JniException` when it left a Java exception pending. -/
def JavaMethod.callLambda (callNativeLambda : List JValue → Except String JValue)
    (args : List JValue) : Except Exn JValue :=
  match callNativeLambda (fillArgArray args 0 (List.replicate args.length .null)) with
  | .ok ret => .ok ret
  | .error pending => .error (.other pending)

/-- The Java call of `m_methodBody`: `callLambda` for a lambda, `callMethod` otherwise. -/
def JavaMethod.callJava (m : JavaMethod T) (jvm : JavaCalls) (args : List JValue) :
    Except Exn JValue :=
  if m.isLambda then JavaMethod.callLambda jvm.callNativeLambda args else jvm.callMethod args

/-- The copy loop, with the first `pre.length` slots already set: the array ends holding the
arguments in order. -/
theorem fillArgArray_run : ∀ (rest pre : List JValue),
    fillArgArray rest pre.length (pre ++ List.replicate rest.length .null) = pre ++ rest
  | [], pre => by simp [fillArgArray]
  | arg :: rest, pre => by
    have h := fillArgArray_run rest (pre ++ [arg])
    simp only [List.length_append, List.length_singleton, List.append_assoc,
      List.singleton_append] at h
    simp only [fillArgArray, List.length_cons, List.replicate_succ, List.set_append_right _ _ le_rfl,
      Nat.sub_self, List.set_cons_zero, h]

/-- A lambda receives exactly the argument vector as its `Object[]`. -/
theorem callLambda_eq (callNativeLambda : List JValue → Except String JValue)
    (args : List JValue) :
    JavaMethod.callLambda callNativeLambda args =
      match callNativeLambda args with
      | .ok ret => .ok ret
      | .error pending => .error (.other pending) := by
  have h := fillArgArray_run args []
  simp only [List.length_nil, List.nil_append] at h
  rw [JavaMethod.callLambda, h]

/-- The Java call of `m_methodBody` with `callLambda`'s array filled in: a lambda gets exactly the
argument vector, and a Java exception it leaves pending comes back as a `JniException`. -/
theorem JavaMethod.callJava_eq (m : JavaMethod T) (jvm : JavaCalls) (args : List JValue) :
    m.callJava jvm args = if m.isLambda then (jvm.callNativeLambda args).mapError Exn.other
      else jvm.callMethod args := by
  unfold JavaMethod.callJava
  rw [callLambda_eq]
  cases jvm.callNativeLambda args <;> rfl

/-- A `JavaScriptMethod`: the wrapper through which Java calls a JS function or method. -/
structure JavaScriptMethod (P T : Type) extends Signature T where
  /-- `m_returnValueType`. -/
  returnValueType : T
  /-- `m_returnValueParameter`, kept to build the deferred type of a thenable result. -/
  returnValueParameter : P

/-! ## The constructors -/

/-- The `m_argumentTypes` loop of both constructors: every parameter's type, boxed as `boxed`
says, except that for a varargs method the last entry is the type of the generic (element)
parameter, boxed as `varArgBoxed` says (`i == numParameters - 1` is the last element). -/
def argumentTypesOf (tp : TypeProvider P T) (isVarArgs boxed varArgBoxed : Bool) :
    (ps : List P) → Except Exn {ts : List T // ts.length = ps.length}
  | [] => pure ⟨[], rfl⟩
  | [p] =>
    if isVarArgs then do
      let q ← tp.getGenericParameter p
      let t ← tp.makeUniqueType q varArgBoxed
      pure ⟨[t], rfl⟩
    else do
      let t ← tp.makeUniqueType p boxed
      pure ⟨[t], rfl⟩
  | p :: p' :: ps => do
    let t ← tp.makeUniqueType p boxed
    let ts ← argumentTypesOf tp isVarArgs boxed varArgBoxed (p' :: ps)
    pure ⟨t :: ts.1, by simp [ts.2]⟩

/-- The signature a constructor builds from a method interface and its argument types. -/
def MethodInterface.signature (mi : MethodInterface P) (methodName : String) (isLambda : Bool)
    (ts : {ts : List T // ts.length = mi.parameters.length}) : Signature T where
  methodName := methodName
  isLambda := isLambda
  isVarArgs := mi.isVarArgs
  argumentTypes := ts.1
  varArgs_ne h := by
    rw [← List.length_pos, ts.2, List.length_pos]
    exact mi.varArgs_ne h

/-- `JavaMethod::JavaMethod`: argument types first, then the return type, all boxed exactly
when the target is a lambda. -/
def JavaMethod.new (tp : TypeProvider P T) (mi : MethodInterface P) (methodName : String)
    (isLambda : Bool) : Except Exn (JavaMethod T) := do
  let ts ← argumentTypesOf tp mi.isVarArgs isLambda isLambda mi.parameters
  let r ← tp.makeUniqueType mi.returnParameter isLambda
  pure { mi.signature methodName isLambda ts with returnValueType := r }

/-- `JavaScriptMethod::JavaScriptMethod`: the boxed return type first, then the argument types,
boxed because the values go to a proxy, except the varargs element type. -/
def JavaScriptMethod.new (tp : TypeProvider P T) (mi : MethodInterface P) (methodName : String)
    (isLambda : Bool) : Except Exn (JavaScriptMethod P T) := do
  let r ← tp.makeUniqueType mi.returnParameter true
  let ts ← argumentTypesOf tp mi.isVarArgs true false mi.parameters
  pure { mi.signature methodName isLambda ts with
    returnValueType := r, returnValueParameter := mi.returnParameter }

/-- A constructed `JavaScriptMethod` is named as the constructor was told. -/
theorem JavaScriptMethod.new_methodName {tp : TypeProvider P T} {mi : MethodInterface P}
    {name : String} {isLambda : Bool} {m : JavaScriptMethod P T}
    (h : JavaScriptMethod.new tp mi name isLambda = .ok m) : m.methodName = name := by
  obtain ⟨_, -, h⟩ := except_bind_eq_ok h
  obtain ⟨_, -, h⟩ := except_bind_eq_ok h
  cases h
  rfl

end JsBridge

import JsBridge.Marshal

/-!
# The method table of a `JavaScriptObject`

Registering a JS object for Java builds `m_methods`, a `std::map` from the `jmethodID` of each
method of the Java interface to the `JavaScriptMethod` that calls it; `JavaScriptObject::call`
finds the wrapper by the ID of the method Java called. Both backends' constructors fill the table
with `emplace`, which leaves an ID already present as it is.

`methodTable` is the abstract level: the table a constructor returns when every method
registers. Each backend's constructor loop is proved to build exactly this table.

A registered object is then called from Java any number of times. `JavaCall.jsCallsAfter` is what
one call should add to the log of JS calls: one call with the arguments `jsArguments` gives, when
the method is in the table and they convert.
-/

namespace JsBridge

variable {P T V β : Type}

/-- A reflected Java method as the constructors read it through JNI; each read can throw. -/
structure JavaMethodRef (P : Type) where
  /-- `jniCache->getMethodInterface(method)`, with its `getName()`. -/
  methodInterface : Except Exn (MethodInterface P)
  /-- `jniContext->fromReflectedMethod(methodInterface.getJavaMethod())`. -/
  methodId : Except Exn Nat

/-- `m_methods.emplace(methodId, jsMethod)`: nothing happens when the ID is already there. -/
def emplace (methods : List (Nat × β)) (methodId : Nat) (jsMethod : β) : List (Nat × β) :=
  if methods.any (·.1 == methodId) then methods else methods ++ [(methodId, jsMethod)]

/-- `m_methods.find(methodId)`: the wrapper stored under the ID, if any. -/
def findMethod (methods : List (Nat × β)) (methodId : Nat) : Option β :=
  (methods.find? (·.1 == methodId)).map Prod.snd

/-- The table both constructors build when every method of the interface registers: the
wrapper of each method under its ID, the first one kept when an ID comes twice. -/
def methodTable (tp : TypeProvider P T) :
    List (JavaMethodRef P) → List (Nat × JavaScriptMethod P T) →
      Except Exn (List (Nat × JavaScriptMethod P T))
  | [], methods => pure methods
  | method :: rest, methods => do
    let methodInterface ← method.methodInterface
    let methodId ← method.methodId
    let jsMethod ← JavaScriptMethod.new tp methodInterface methodInterface.name false
    methodTable tp rest (emplace methods methodId jsMethod)

/-- What a finished table guarantees `JavaScriptObject::call`: no ID twice, and for each method
of the interface a wrapper found by its ID, built for a method of the interface with that ID. -/
def RegistersAll (tp : TypeProvider P T) (methods : List (JavaMethodRef P))
    (table : List (Nat × JavaScriptMethod P T)) : Prop :=
  (table.map Prod.fst).Nodup ∧ ∀ r ∈ methods, ∃ methodId jsMethod, r.methodId = .ok methodId ∧
    findMethod table methodId = some jsMethod ∧ ∃ r' ∈ methods, ∃ mi,
      r'.methodInterface = .ok mi ∧ r'.methodId = .ok methodId ∧
      JavaScriptMethod.new tp mi mi.name false = .ok jsMethod

/-- One call from Java of a method of a proxied interface, as `JavaScriptObject::call` receives
it: what JNI reports of the method (`fromReflectedMethod`, `getJavaReflectedMethodName`), the
argument array, and `awaitJsPromise`. -/
structure JavaCall where
  methodId : Except Exn Nat
  methodName : String
  args : Option (List JValue)
  awaitJsPromise : Bool

/-- The log of JS calls, latest first, after the Java call `q` (spec §4.4): one more, with the
arguments `jsArguments` converts, when `q`'s method is in the table and they convert; none
otherwise. -/
def JavaCall.jsCallsAfter (c : Codec T V) (table : List (Nat × JavaScriptMethod P T))
    (q : JavaCall) (calls : List (List V)) : List (List V) :=
  match q.methodId with
  | .ok methodId =>
    match findMethod table methodId with
    | some jsMethod => callsAfter (jsArguments c jsMethod.toSignature (q.args.getD [])) calls
    | none => calls
  | .error _ => calls

/-- The wrapper the Java call `q` reaches: the one its method ID is found under, `none` when the
ID does not resolve or is not in the table. -/
def JavaCall.target (table : List (Nat × JavaScriptMethod P T)) (q : JavaCall) :
    Option (JavaScriptMethod P T) :=
  match q.methodId with
  | .ok methodId => findMethod table methodId
  | .error _ => none

/-- The arguments of `q` fit the wrapper its method is found under, if any. -/
def JavaCall.Fits (table : List (Nat × JavaScriptMethod P T)) (q : JavaCall) : Prop :=
  ∀ methodId jsMethod, q.methodId = .ok methodId → findMethod table methodId = some jsMethod →
    jsMethod.ArgsFit q.args

theorem JavaCall.fits_of_findMethod {table : List (Nat × JavaScriptMethod P T)} {methodId : Nat}
    {jsMethod : JavaScriptMethod P T} (hfind : findMethod table methodId = some jsMethod)
    {args : Option (List JValue)} (hfit : jsMethod.ArgsFit args) (methodName : String)
    (awaitJsPromise : Bool) : JavaCall.Fits table ⟨.ok methodId, methodName, args, awaitJsPromise⟩ := by
  rintro _ _ ⟨⟩ h
  rw [hfind] at h
  cases h
  exact hfit

end JsBridge

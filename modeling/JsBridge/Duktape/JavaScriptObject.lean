import JsBridge.Duktape.JavaScriptMethod
import JsBridge.JavaScriptObject

/-!
# `JavaScriptObject` (Duktape)

Registering a JS object for Java: the value at `jsObjectIndex` must be an object; it is pushed,
and for each method of the Java interface, when `check` is set, the object must have a callable
property of that name; then the method's ID is resolved and a `JavaScriptMethod` built for it,
inside a `try` that catches `std::invalid_argument` only. The object is popped at the end, and
before each `throw` of an `std::invalid_argument` of the constructor's own. The warning about a
thenable object has no effect on the state and is left out.

A call from Java through the proxy finds the wrapper by the method's ID and invokes it on the
object, inside a `try` that rethrows a `std::runtime_error` with the method's name.
-/

namespace JsBridge

variable {P T : Type}

namespace Duk

/-- `duk_is_object(ctx, idx) && !duk_is_null(ctx, idx)`. -/
def isObjectAt (idx : Nat) : DukM Bool := fun s =>
  if idx < s.stack.length then
    match s.stack[s.stack.length - 1 - idx]? with
    | some (.object _ _) => .ok true s
    | _ => .ok false s
  else .ok false s

/-- The `if (check)` block: the object on top must have a callable property `strMethodName`;
the property and the object are popped before a failure is thrown, the property alone after a
success. -/
def checkMethod (check : Bool) (name strMethodName : String) : DukM Unit :=
  if check then do
    let found ← getPropString strMethodName
    if !found then do
      popN 2
      raise (.invalidArgument ("JS global " ++ name ++ " has no method called " ++ strMethodName))
    else do
      let callable ← isCallableTop
      if !callable then do
        popN 2
        raise (.invalidArgument ("JS property " ++ name ++ "." ++ strMethodName ++ " not callable"))
      else
        popN 1
  else pure ()

/-- The loop over the interface's methods, with the method table built so far. -/
def registerMethods (tp : TypeProvider P T) (name : String) (check : Bool) :
    List (JavaMethodRef P) → List (Nat × JavaScriptMethod P T) →
      DukM (List (Nat × JavaScriptMethod P T))
  | [], methods => pure methods
  | method :: rest, methods => do
    let methodInterface ← liftExn method.methodInterface
    let strMethodName := methodInterface.name
    checkMethod check name strMethodName
    let methods ← catchInvalidArgument
      (do
        let methodId ← liftExn method.methodId
        let jsMethod ← liftExn (JavaScriptMethod.new tp methodInterface strMethodName false)
        pure (emplace methods methodId jsMethod))
      fun e => do
        popN 1
        raise (.invalidArgument
          ("In proxied method \"" ++ name ++ "." ++ strMethodName ++ "\": " ++ e.what))
    registerMethods tp name check rest methods

end Duk

/-- `JavaScriptObject::JavaScriptObject` (Duktape): `m_jsHeapPtr` and `m_methods`. -/
def JavaScriptObject.newDuktape (tp : TypeProvider P T) (name : String) (jsObjectIndex : Nat)
    (methods : List (JavaMethodRef P)) (check : Bool) :
    DukM (DukValue × List (Nat × JavaScriptMethod P T)) := do
  let isObject ← Duk.isObjectAt jsObjectIndex
  if !isObject then
    raise (.invalidArgument ("JavaScript object " ++ name ++ " cannot be accessed"))
  else do
    let jsHeapPtr ← Duk.getAt jsObjectIndex
    Duk.push jsHeapPtr
    let methods ← Duk.registerMethods tp name check methods []
    Duk.popN 1
    pure (jsHeapPtr, methods)

/-- `JavaScriptObject::call` (Duktape). `jsHeapPtr` is `m_jsHeapPtr` (`none` for `nullptr`);
`methodId` and `methodName` are what JNI reports of the method Java called
(`fromReflectedMethod`, `getJavaReflectedMethodName`). `isRuntimeError e` says whether `e`
derives from `std::runtime_error`: the classes of `JsException` and of the exceptions grouped as
`other` are declared outside the modelled sources. -/
def JavaScriptObject.callDuktape (c : Codec T DukValue) (dt : DeferredTypes P T)
    (callee : DukCallee) (isRuntimeError : Exn → Bool) (name : String)
    (jsHeapPtr : Option DukValue) (methods : List (Nat × JavaScriptMethod P T))
    (methodId : Except Exn Nat) (methodName : String) (args : Option (List JValue))
    (awaitJsPromise : Bool) : DukM JValue :=
  match jsHeapPtr with
  | none => raise (.invalidArgument ("JavaScript object " ++ name ++ " cannot be accessed"))
  | some jsHeapPtr => do
    let methodId ← liftExn methodId
    catchWhen isRuntimeError
      (match findMethod methods methodId with
        | none => raise (.invalidArgument ("Could not find method " ++ name ++ "." ++ methodName))
        | some jsMethod => jsMethod.invokeDuktape c dt callee jsHeapPtr args awaitJsPromise)
      fun e => raise (.runtimeError
        ("Error while calling JS method " ++ name ++ "." ++ methodName ++ ": " ++ e.what))

end JsBridge

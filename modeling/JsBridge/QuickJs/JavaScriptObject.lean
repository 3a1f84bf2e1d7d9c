import JsBridge.QuickJs.JavaScriptMethod
import JsBridge.JavaScriptObject

/-!
# `JavaScriptObject` (QuickJS)

Registering a JS object for Java: `jsObjectValue` (borrowed) must be an object; for each method
of the Java interface, when `check` is set, the object's property of that name is read, held by
`JS_AUTORELEASE_VALUE` to the end of the check, and must be a function; then the method's ID is
resolved and a `JavaScriptMethod` built for it, inside a `try` that catches every
`std::exception` and rethrows it as an `std::invalid_argument` naming the method. The
`m_methods.clear()` of that `catch` empties a table the failed constructor never hands out.
Before the loop, an object with a `then` property gets a warning whose format has a `%s` and no
argument to fill it: `alog_warn`, a printf-style logger, then reads an argument that was never
passed, which is undefined behaviour.

A call from Java through the proxy finds the wrapper by the method's ID, reads the method from
the object, held by `JS_AUTORELEASE_VALUE`, and invokes it with the object as `this`.
-/

namespace JsBridge

variable {P T : Type}

namespace Qjs

/-- The `if (check)` block: the property, held until the block is left, must be a function. -/
def checkMethod (check : Bool) (name strMethodName : String) (jsObjectValue : JSValue) :
    QjsM Unit :=
  if check then do
    let methodValue ← getPropertyStr jsObjectValue strMethodName
    autorelease methodValue
      (if methodValue.isUndefined then
        raise (.invalidArgument ("JS global " ++ name ++ " has no method called " ++ strMethodName))
      else if !methodValue.isFunction then
        raise (.invalidArgument
          ("JS property " ++ name ++ "." ++ strMethodName ++ " is not function"))
      else pure ())
  else pure ()

/-- The loop over the interface's methods, with the method table built so far. -/
def registerMethods (tp : TypeProvider P T) (name : String) (check : Bool)
    (jsObjectValue : JSValue) :
    List (JavaMethodRef P) → List (Nat × JavaScriptMethod P T) →
      QjsM (List (Nat × JavaScriptMethod P T))
  | [], methods => pure methods
  | method :: rest, methods => do
    let methodInterface ← liftExn method.methodInterface
    let strMethodName := methodInterface.name
    checkMethod check name strMethodName jsObjectValue
    let methods ← catchStd
      (do
        let methodId ← liftExn method.methodId
        let jsMethod ← liftExn (JavaScriptMethod.new tp methodInterface strMethodName false)
        pure (emplace methods methodId jsMethod))
      fun e => raise (.invalidArgument
        ("In proxied method \"" ++ name ++ "." ++ strMethodName ++ "\": " ++ e.what))
    registerMethods tp name check jsObjectValue rest methods

end Qjs

/-- `JavaScriptObject::JavaScriptObject` (QuickJS): `m_methods`. `strName` has been moved into
`m_name` before the body runs, so the first message reads the moved-from `strName`, whose
content the standard leaves unspecified: `movedFromName`. -/
def JavaScriptObject.newQuickJs (tp : TypeProvider P T) (name movedFromName : String)
    (jsObjectValue : JSValue) (methods : List (JavaMethodRef P)) (check : Bool) :
    QjsM (List (Nat × JavaScriptMethod P T)) :=
  if !jsObjectValue.isObject then
    raise (.invalidArgument
      ("Cannot register " ++ movedFromName ++ ". It does not exist or is not a valid object."))
  else do
    let isPromise ← Qjs.hasPropertyStr jsObjectValue "then"
    if isPromise then stuck "alog_warn: a format with %s and no argument"
    else Qjs.registerMethods tp name check jsObjectValue methods []

/-- `JavaScriptObject::call` (QuickJS). `jsObjectValue` is borrowed; `methodId` and `methodName`
are what JNI reports of the method Java called (`fromReflectedMethod`,
`getJavaReflectedMethodName`). -/
def JavaScriptObject.callQuickJs (c : Codec T JSValue) (dt : DeferredTypes P T)
    (callee : QjsCallee) (name : String) (methods : List (Nat × JavaScriptMethod P T))
    (jsObjectValue : JSValue) (methodId : Except Exn Nat) (methodName : String)
    (args : Option (List JValue)) (awaitJsPromise : Bool) : QjsM JValue := do
  let methodId ← liftExn methodId
  match findMethod methods methodId with
  | none => raise (.runtimeError ("Could not find method " ++ name ++ "." ++ methodName))
  | some jsMethod =>
    if !jsObjectValue.isObject then
      raise (.invalidArgument
        ("Cannot call " ++ name ++ ". It does not exist or is not a valid object."))
    else do
      let jsMethodValue ← Qjs.getPropertyStr jsObjectValue jsMethod.methodName
      Qjs.autorelease jsMethodValue
        (jsMethod.invokeQuickJs c dt callee jsMethodValue jsObjectValue args awaitJsPromise)

end JsBridge

import JsBridge.QuickJs.Runtime

/-!
# `JavaMethod::invoke` (QuickJS)

JS calls a Java method or lambda with `argc` borrowed arguments `argv`. After the too-many check
the fixed arguments are converted in order, a missing one left `null`; for a varargs method the
trailing `argc - minArgs` arguments (an `int`, negative when JS passed fewer than `minArgs`, in
which case the loop does not run) are copied into a new JS array, each a new reference the array
takes over, which is converted by `toJavaArray` and then freed. `m_methodBody` receives the
vector. The "not enough parameters" warning has no effect on the state and is left out.

`m_methodBody` itself calls the Java method and converts its result with `m_returnValueType`:
a new reference, which `invoke` returns to JS.
-/

namespace JsBridge

variable {T α : Type}

namespace Qjs

/-- The loop `for (int i = 0; i < minArgs; ++i)` from `i`, with `fuel = minArgs - i` iterations
left: parameter `i` is `null` when JS passed fewer arguments, else `argv[i]` converted. -/
def toJavaArguments (c : Codec T JSValue) (argumentTypes : List T) (argv : List JSValue) :
    Nat → Nat → List JValue → QjsM (List JValue)
  | 0, _, args => pure args
  | fuel + 1, i, args => do
    let argumentType ← at? argumentTypes i
    let value ← if argv.length ≤ i then pure .null else do
      let arg ← at? argv i
      toJava c argumentType arg
    toJavaArguments c argumentTypes argv fuel (i + 1) (args.set i value)

/-- The loop `for (int i = 0; i < varArgCount; ++i) JS_SetPropertyUint32(ctx, varArgArray, i,
JS_DupValue(ctx, argv[minArgs + i]))` from `i`, with `fuel` iterations left. -/
def copyVarArgs (varArgArray : JSValue) (argv : List JSValue) (minArgs : Nat) :
    Nat → Nat → QjsM Unit
  | 0, _ => pure ()
  | fuel + 1, i => do
    let v ← dupValue (← at? argv (minArgs + i))
    setPropertyUint32 varArgArray i v
    copyVarArgs varArgArray argv minArgs fuel (i + 1)

/-- The varargs block of `invoke`: the `argc - minArgs` trailing arguments (none when that
`int` is negative) copied into a new JS array, converted by `toJavaArray`, and the array freed. -/
def varArgsToJava (c : Codec T JSValue) (argumentType : T) (argv : List JSValue)
    (minArgs : Nat) : QjsM JValue := do
  let varArgCount : Int := argv.length - minArgs
  let varArgArray ← newArray
  copyVarArgs varArgArray argv minArgs varArgCount.toNat 0
  let a ← toJavaArray c argumentType varArgArray
  freeValue varArgArray
  pure a

end Qjs

/-- `JavaMethod::invoke` (QuickJS); `methodBody` is `m_methodBody` on the argument vector. -/
def JavaMethod.invokeQuickJs (c : Codec T JSValue) (m : JavaMethod T)
    (methodBody : List JValue → QjsM α) (argv : List JSValue) : QjsM α := do
  let argc := argv.length
  let minArgs := m.minArgs
  if !m.isVarArgs && minArgs < argc then
    raise (m.tooManyParameters argc)
  let args := List.replicate m.argumentTypes.length JValue.null
  let args ← Qjs.toJavaArguments c m.argumentTypes argv minArgs 0 args
  let args ← if h : m.isVarArgs then do
      let a ← Qjs.varArgsToJava c (m.varArgType h) argv minArgs
      pure (args.set (args.length - 1) a)
    else pure args
  methodBody args

/-- `m_methodBody` (QuickJS): the Java call, then `m_returnValueType->fromJava(result)`. -/
def JavaMethod.methodBodyQuickJs (c : Codec T JSValue) (m : JavaMethod T) (jvm : JavaCalls)
    (args : List JValue) : QjsM JSValue := do
  let result ← liftExn (m.callJava jvm args)
  Qjs.fromJava c m.returnValueType result

end JsBridge

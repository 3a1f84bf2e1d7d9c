import JsBridge.Duktape.Engine

/-!
# `JavaMethod::invoke` (Duktape)

JS calls a Java method or lambda through a Duktape/C function: its `argCount` arguments are the
whole value stack, the last one on top. After the too-many check the varargs array is popped
with `popArray(argCount - minArgs)`, the count computed in `size_t`, and then the fixed arguments
from the last one down, a missing one left `null`; `m_methodBody` receives the vector. The
"not enough parameters" warning has no effect on the state and is left out.

`m_methodBody` itself calls the Java method and pushes its result with `m_returnValueType`, which
the Duktape/C function returns to JS.
-/

namespace JsBridge

variable {T α : Type}

namespace Duk

/-- `argCount - minArgs` as `JavaMethod::invoke` computes it: in `size_t`, 64 bits wide. -/
def varArgCount (argCount minArgs : Nat) : UInt64 :=
  UInt64.ofNat argCount - UInt64.ofNat minArgs

/-- The loop `for (ssize_t i = minArgs - 1; i >= 0; --i)`, from `i = fuel - 1` down: parameter
`i` is `null` when JS passed fewer arguments, else the value popped from the top. -/
def popArguments (c : Codec T DukValue) (argumentTypes : List T) (argCount : Nat) :
    Nat → List JValue → DukM (List JValue)
  | 0, args => pure args
  | i + 1, args => do
    let argumentType ← at? argumentTypes i
    let value ← if argCount ≤ i then pure .null else popJava c argumentType
    popArguments c argumentTypes argCount i (args.set i value)

end Duk

/-- `JavaMethod::invoke` (Duktape); `methodBody` is `m_methodBody` on the argument vector. -/
def JavaMethod.invokeDuktape (c : Codec T DukValue) (m : JavaMethod T)
    (methodBody : List JValue → DukM α) : DukM α := do
  let argCount ← Duk.getTop
  let minArgs := m.minArgs
  if !m.isVarArgs && minArgs < argCount then
    raise (m.tooManyParameters argCount)
  let args := List.replicate m.argumentTypes.length JValue.null
  let args ← if h : m.isVarArgs then do
      let a ← Duk.popArray c (m.varArgType h) (Duk.varArgCount argCount minArgs)
      pure (args.set (args.length - 1) a)
    else pure args
  let args ← Duk.popArguments c m.argumentTypes argCount minArgs args
  methodBody args

/-- `m_methodBody` (Duktape): the Java call, then `m_returnValueType->push(result)`. -/
def JavaMethod.methodBodyDuktape (c : Codec T DukValue) (m : JavaMethod T) (jvm : JavaCalls)
    (args : List JValue) : DukM Unit := do
  let result ← liftExn (m.callJava jvm args)
  Duk.pushJava c m.returnValueType result

end JsBridge

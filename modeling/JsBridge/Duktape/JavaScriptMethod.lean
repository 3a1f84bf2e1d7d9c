import JsBridge.Duktape.Engine

/-!
# `JavaScriptMethod::invoke` (Duktape)

Java calls a JS function (`isLambda`) or a method of a JS object through the value stack: push
the target (and the method name), push the arguments (the varargs array expanded), `duk_pcall`
or `duk_pcall_prop`, then pop the result and convert it, or pop the error and throw it.

The argument loop rewrites its own bound `numArguments` when it expands the varargs array and
leaves by `break`; `pushArguments` returns that final bound. Its `catch` pops the `frame`
values under the arguments (the function, or the object and the method name) together with the
`i` arguments pushed so far.
-/

namespace JsBridge

variable {P T : Type}

namespace Duk

/-- The loop `for (i = 0; i < numArguments; ++i)` of `JavaScriptMethod::invoke`, from index `i`
with `fuel = numArguments - i` iterations left; returns the final `numArguments`. -/
def pushArguments (c : Codec T DukValue) (sig : Signature T) (args : List JValue)
    (frame numArguments : Nat) : Nat → Nat → DukM Nat
  | 0, _ => pure numArguments
  | fuel + 1, i => do
    let arg ← at? args i
    let argumentType ← at? sig.argumentTypes i
    let expanded ← catchStd
      (if sig.isVarArgs && i == numArguments - 1 then do
        let k ← pushArray c argumentType arg
        pure (some (i + k))
      else do
        pushJava c argumentType arg
        pure none)
      fun e => do
        popN (frame + i)
        raise e
    match expanded with
    | some n => pure n
    | none => pushArguments c sig args frame numArguments fuel (i + 1)

/-- The set-up of the call: the target pushed, checked, and for a method the method name
pushed over it; returns the target's index. -/
def pushTarget (m : Signature T) (jsHeapPtr : DukValue) : DukM Nat := do
  push jsHeapPtr
  let jsLambdaOrObjectIdx ← normalizeTop
  if m.isLambda then
    requireFunction jsLambdaOrObjectIdx
  else
    requireObject jsLambdaOrObjectIdx
    push (.string m.methodName)
  pure jsLambdaOrObjectIdx

/-- The call: `duk_pcall`, or `duk_pcall_prop` and then `duk_remove` of the object; whether the
callee returned normally. -/
def callTarget (callee : DukCallee) (m : Signature T) (jsLambdaOrObjectIdx numArguments : Nat) :
    DukM Bool :=
  if m.isLambda then
    pcall callee numArguments
  else do
    let ret ← pcallProp callee jsLambdaOrObjectIdx numArguments
    remove jsLambdaOrObjectIdx
    pure ret

/-- After the call: the result popped and converted (by the `Deferred` type for a thenable
when awaiting one and the declared type is not already `Deferred`), or the error popped and
thrown. -/
def popResult (c : Codec T DukValue) (dt : DeferredTypes P T) (m : JavaScriptMethod P T)
    (awaitJsPromise : Bool) (ret : Bool) : DukM JValue :=
  if ret then do
    let isDeferred ← if awaitJsPromise then isThenableTop else pure false
    if isDeferred && !dt.isDeferred m.returnValueType then
      popJava c (dt.getDeferredType m.returnValueParameter)
    else
      popJava c m.returnValueType
  else do
    raise (← currentJsException)

end Duk

/-- `JavaScriptMethod::invoke` (Duktape). `jsHeapPtr` is the heap object the pointer designates;
`args` is `null` or the Java argument array. The `try { ... } catch { throw; }` around the
result conversion rethrows unchanged and is left out. -/
def JavaScriptMethod.invokeDuktape (c : Codec T DukValue) (dt : DeferredTypes P T)
    (callee : DukCallee) (m : JavaScriptMethod P T) (jsHeapPtr : DukValue)
    (args : Option (List JValue)) (awaitJsPromise : Bool) : DukM JValue := do
  let jsLambdaOrObjectIdx ← Duk.pushTarget m.toSignature jsHeapPtr
  let numArguments := (args.map List.length).getD 0
  let numArguments ← Duk.pushArguments c m.toSignature (args.getD [])
    (if m.isLambda then 1 else 2) numArguments numArguments 0
  let ret ← Duk.callTarget callee m.toSignature jsLambdaOrObjectIdx numArguments
  Duk.popResult c dt m awaitJsPromise ret

end JsBridge

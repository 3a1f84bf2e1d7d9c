import JsBridge.QuickJs.Runtime

/-!
# `JavaScriptMethod::invoke` (QuickJS)

Java calls a JS function through `JS_Call(ctx, jsMethod, jsThis, numJsArguments, jsArgs)`. The
arguments are converted into the C array `jsArgs`, whose length `numJsArguments` counts the
varargs array's elements instead of the array. The loop over `jsArgs` advances its index inside
the nested loop that expands the varargs array and then leaves by `break`; on a conversion
failure its `catch` frees `jsArgs[0..i)` and rethrows. After the call every slot is freed, and
the result, held by `JS_AUTORELEASE_VALUE`, is freed when the function is left.

For a call with no JS arguments `jsArgs` is a variable-length array of length `0`, which C++
does not allow; the model leaves this undefined behaviour out (`Qjs.Slots.init`), so what is
proved of `invoke` and of `JavaScriptObject::call` (QuickJS) holds of the code for calls with at
least one JS argument.
-/

namespace JsBridge

variable {P T : Type}

/-- The C array `JSValue jsArgs[numJsArguments]`: `none` marks a slot never assigned.
`writes` records the slots assigned, in order. -/
structure Slots where
  /-- The slots. -/
  values : List (Option JSValue)
  /-- The indices assigned so far, in order. -/
  writes : List Nat

namespace Qjs

/-- The uninitialised array of `n` slots. The declaration `JSValue jsArgs[numJsArguments]` is a
variable-length array, and one of length `0` (a call with no JS arguments) is undefined
behaviour in C++; the model does not represent this: it gives such a call an empty array, which
it never reads past. -/
def Slots.init (n : Nat) : Slots := ⟨List.replicate n none, []⟩

/-- `jsArgs[i] = v`. -/
def writeSlot (a : Slots) (i : Nat) (v : JSValue) : QjsM Slots :=
  if i < a.values.length then pure ⟨a.values.set i (some v), a.writes ++ [i]⟩
  else stuck "jsArgs index out of range"

/-- `JS_FreeValue(ctx, jsArgs[j])` for every slot of `vs`, in order. -/
def freeSlots : List (Option JSValue) → QjsM Unit
  | [] => pure ()
  | some v :: vs => do
    freeValue v
    freeSlots vs
  | none :: _ => stuck "JS_FreeValue of a jsArgs slot never assigned"

/-- `for (j = 0; j < i; ++j) JS_FreeValue(ctx, jsArgs[j])`. -/
def freeSlotsUpTo (a : Slots) (i : Nat) : QjsM Unit :=
  if i ≤ a.values.length then freeSlots (a.values.take i) else stuck "jsArgs index out of range"

/-- What `JS_Call` reads of `jsArgs`: every slot must have been assigned. -/
def readSlots : List (Option JSValue) → QjsM (List JSValue)
  | [] => pure []
  | some v :: vs => do
    let rest ← readSlots vs
    pure (v :: rest)
  | none :: _ => stuck "JS_Call reads a jsArgs slot never assigned"

/-- The nested loop `for (j = 0; j < varArgCount; ++j, ++i) jsArgs[i] = JS_GetPropertyUint32(ctx,
varArgJsArray, j)`, from `j`, `i` with `fuel = varArgCount - j` iterations left. -/
def expandVarArgs (varArgJsArray : JSValue) : Nat → Nat → Nat → Slots → QjsM Slots
  | 0, _, _, a => pure a
  | fuel + 1, j, i, a => do
    let elementJsValue ← getPropertyUint32 varArgJsArray j
    let a ← writeSlot a i elementJsValue
    expandVarArgs varArgJsArray fuel (j + 1) (i + 1) a

variable (c : Codec T JSValue) (sig : Signature T) (javaArgs : Option (List JValue))
  (numJavaArguments : Nat) (varArgJavaArray : JValue) (varArgCount : Nat)

/-- The body of one iteration of `for (i = 0; i < numJsArguments; ++i)`, inside its `try`:
`inl` after the varargs expansion (the loop breaks), `inr` after one argument. -/
def convertArgument (argumentType : T) (javaArg : JValue) (i : Nat) (a : Slots) :
    QjsM (Slots ⊕ Slots) :=
  if sig.isVarArgs && numJavaArguments - 1 ≤ i then do
    let varArgJsArray ← fromJavaArray c argumentType varArgJavaArray
    let a ← expandVarArgs varArgJsArray varArgCount 0 i a
    freeValue varArgJsArray
    pure (.inl a)
  else do
    let v ← fromJava c argumentType javaArg
    let a ← writeSlot a i v
    pure (.inr a)

/-- The loop over `jsArgs` from index `i`, with `fuel = numJsArguments - i` iterations left. -/
def convertArguments : Nat → Nat → Slots → QjsM Slots
  | 0, _, a => pure a
  | fuel + 1, i, a => do
    let javaArg ← getElement javaArgs i
    let argumentType ← at? sig.argumentTypes i
    let r ← catchStd (convertArgument c sig numJavaArguments varArgJavaArray varArgCount
        argumentType javaArg i a)
      fun e => do
        freeSlotsUpTo a i
        raise e
    match r with
    | .inl a => pure a
    | .inr a => convertArguments fuel (i + 1) a

end Qjs

/-- For a varargs method, the varargs Java array (the last argument) and its length. -/
def Qjs.readVarArgs (sig : Signature T) (javaArgs : Option (List JValue)) (numJavaArguments : Nat) :
    QjsM (JValue × Nat) :=
  if sig.isVarArgs then do
    let varArgJavaArray ← getElement javaArgs (numJavaArguments - 1)
    let varArgCount ← getArrayLength varArgJavaArray
    pure (varArgJavaArray, varArgCount)
  else pure (JValue.null, 0)

/-- `awaitJsPromise && JS_IsObject(ret) && hasPropertyStr(ret, "then")`. -/
def Qjs.isThenable (awaitJsPromise : Bool) (ret : JSValue) : QjsM Bool :=
  if awaitJsPromise && ret.isObject then Qjs.hasPropertyStr ret "then" else pure false

/-- After `JS_Call`: every `jsArgs` slot freed, then the JS exception thrown, or the result
converted (by the `Deferred` type for a thenable when awaiting one and the declared type is not
already `Deferred`). -/
def Qjs.afterCall (c : Codec T JSValue) (dt : DeferredTypes P T) (m : JavaScriptMethod P T)
    (awaitJsPromise : Bool) (a : Slots) (ret : JSValue) : QjsM JValue := do
  freeSlots a.values
  if ret.isException then
    raise (currentJsException ret)
  let isDeferred ← isThenable awaitJsPromise ret
  if isDeferred && !dt.isDeferred m.returnValueType then
    toJava c (dt.getDeferredType m.returnValueParameter) ret
  else
    toJava c m.returnValueType ret

/-- `JavaScriptMethod::invoke` (QuickJS). `javaArgs` is `null` or the Java argument array;
`jsMethod` and `jsThis` are borrowed. -/
def JavaScriptMethod.invokeQuickJs (c : Codec T JSValue) (dt : DeferredTypes P T)
    (callee : QjsCallee) (m : JavaScriptMethod P T) (jsMethod jsThis : JSValue)
    (javaArgs : Option (List JValue)) (awaitJsPromise : Bool) : QjsM JValue := do
  let numJavaArguments := (javaArgs.map List.length).getD 0
  let (varArgJavaArray, varArgCount) ← Qjs.readVarArgs m.toSignature javaArgs numJavaArguments
  let numJsArguments :=
    if m.isVarArgs then numJavaArguments + varArgCount - 1 else numJavaArguments
  let a ← Qjs.convertArguments c m.toSignature javaArgs numJavaArguments varArgJavaArray
    varArgCount numJsArguments 0 (Qjs.Slots.init numJsArguments)
  let args ← Qjs.readSlots a.values
  let ret ← Qjs.call callee jsMethod jsThis args
  Qjs.autorelease ret (Qjs.afterCall c dt m awaitJsPromise a ret)

end JsBridge

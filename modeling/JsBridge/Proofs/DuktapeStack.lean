import JsBridge.Duktape.JavaScriptMethod

/-!
# Duktape: the value stack at every exit

`JavaScriptMethod::invoke` opens with `CHECK_STACK(ctx)`, which asserts that every exit leaves
the value stack at its entry height. It does: the argument loop's `catch` pops exactly the
target, the method name and the arguments pushed so far, `duk_pcall_prop` is followed by
`duk_remove` of the object, and the result or the error is popped on the way out.
-/

namespace JsBridge

namespace Duk

variable {T : Type}

/-- The argument loop from index `i` with `fuel + i = numArguments`: a normal exit returns the
final `numArguments` with that many arguments pushed over the `frame`; a conversion failure
leaves the stack below the frame. -/
theorem pushArguments_height (c : Codec T DukValue) (sig : Signature T) (args : List JValue)
    (frame numArguments h : Nat) :
    ∀ fuel i, fuel + i = numArguments →
      Triple (Height (h + frame + i)) (pushArguments c sig args frame numArguments fuel i)
        (fun n => Height (h + frame + n)) (Height h) True := by
  intro fuel
  induction fuel with
  | zero =>
    intro i hi
    exact Triple.pure fun s hs => by rwa [← hi, Nat.zero_add]
  | succ fuel ih =>
    intro i hi
    have hat : ∀ {α} (xs : List α), Triple (Height (h + frame + i)) (at? xs i)
        (fun _ => Height (h + frame + i)) (Height h) True :=
      fun _ => Triple.at? (fun _ hs _ => hs) fun _ => trivial
    refine Triple.bind (hat args) fun arg => Triple.bind (hat sig.argumentTypes) fun t =>
      Triple.bind (Q := fun r => Height (h + frame + r.getD (i + 1))) ?_ fun r => ?_
    · refine Triple.catchStd (H := Height (h + frame + i)) ?_ fun e =>
        Triple.bind (popN_height _) fun _ => Triple.raise fun s hs => by
          simp only [Height] at hs ⊢; omega
      split
      · refine Triple.bind (pushArray_height c t arg trivial) fun k => Triple.pure ?_
        intro s hs; simpa [Height, Nat.add_assoc] using hs
      · refine Triple.bind (pushJava_height c t arg) fun _ => Triple.pure ?_
        intro s hs; simpa [Height, Nat.add_assoc] using hs
    · cases r with
      | some n => exact Triple.pure fun _ hs => hs
      | none => exact ih (i + 1) (by omega)

/-- The set-up leaves the target, and for a method the method name, over the entry stack. -/
theorem pushTarget_height (m : Signature T) (p : DukValue) (h : Nat) {E : DukState → Prop} :
    Triple (Height h) (pushTarget m p) (fun _ => Height (h + if m.isLambda then 1 else 2)) E
      True := by
  unfold pushTarget
  refine Triple.bind (push_height p) fun _ => Triple.bind normalizeTop_height fun idx => ?_
  cases m.isLambda
  · exact Triple.bind (requireObject_height idx |>.conseq (fun _ hs => hs.1) (fun _ _ h => h)
      (fun _ h => h) id) fun _ => Triple.bind (push_height _) fun _ => Triple.pure fun _ hs => hs
  · exact Triple.bind (requireFunction_height idx |>.conseq (fun _ hs => hs.1) (fun _ _ h => h)
      (fun _ h => h) id) fun _ => Triple.pure fun _ hs => hs

/-- The call consumes the arguments and the frame and leaves one value over the target's slot:
the result or the error. -/
theorem callTarget_height (callee : DukCallee) (m : Signature T) (idx n h : Nat)
    {E : DukState → Prop} :
    Triple (Height (h + (if m.isLambda then 1 else 2) + n)) (callTarget callee m idx n)
      (fun _ => Height (h + 1)) E True := by
  unfold callTarget
  cases m.isLambda
  · refine Triple.bind (pcallProp_height callee idx n) fun _ =>
      Triple.bind (remove_height idx) fun _ => Triple.pure fun s hs => ?_
    simp only [Height, Bool.false_eq_true, if_false] at hs ⊢; omega
  · refine (pcall_height callee n).conseq (fun _ hs => hs) (fun _ s hs => ?_) (fun _ h => h) id
    simp only [Height, if_true] at hs ⊢; omega

/-- Popping the result, or the error, restores the height under the target's slot. -/
theorem popResult_height {P : Type} (c : Codec T DukValue) (dt : DeferredTypes P T)
    (m : JavaScriptMethod P T) (awaitJsPromise ret : Bool) (h : Nat) :
    Triple (Height (h + 1)) (popResult c dt m awaitJsPromise ret) (fun _ => Height h) (Height h)
      True := by
  unfold popResult
  split
  · have hpop : ∀ isDeferred : Bool, Triple (Height (h + 1))
        (if (isDeferred && !dt.isDeferred m.returnValueType) = true then
          popJava c (dt.getDeferredType m.returnValueParameter)
        else popJava c m.returnValueType) (fun _ => Height h) (Height h) True := fun _ => by
      split <;> exact popJava_height c _
    dsimp only
    split
    · exact Triple.bind isThenableTop_height hpop
    · exact Triple.bind (Triple.pure fun _ hs => hs) hpop
  · exact Triple.bind currentJsException_height fun e => Triple.raise fun _ hs => hs

end Duk

variable {P T : Type}

/-- The height triple of `JavaScriptMethod::invoke` (Duktape), assembled from its phases. -/
theorem invokeDuktape_height (c : Codec T DukValue) (dt : DeferredTypes P T) (callee : DukCallee)
    (m : JavaScriptMethod P T) (jsHeapPtr : DukValue) (args : Option (List JValue))
    (awaitJsPromise : Bool) (h : Nat) :
    Triple (Duk.Height h) (m.invokeDuktape c dt callee jsHeapPtr args awaitJsPromise)
      (fun _ => Duk.Height h) (Duk.Height h) True := by
  unfold JavaScriptMethod.invokeDuktape
  exact Triple.bind (Duk.pushTarget_height _ jsHeapPtr h) fun idx =>
    Triple.bind (Duk.pushArguments_height c _ _ _ _ h _ 0 rfl) fun n =>
      Triple.bind (Duk.callTarget_height callee _ idx n h) fun ret =>
        Duk.popResult_height c dt m awaitJsPromise ret h

/-- Every normal return and every C++ exception of `JavaScriptMethod::invoke` (Duktape) leaves
the value stack at its entry height: after a conversion failure at any argument, after an error
thrown by the JS callee, and after a failed conversion of the result. -/
theorem invokeDuktape_stack_neutral (c : Codec T DukValue) (dt : DeferredTypes P T)
    (callee : DukCallee) (m : JavaScriptMethod P T) (jsHeapPtr : DukValue)
    (args : Option (List JValue)) (awaitJsPromise : Bool) (s : DukState) :
    AllExits (fun s' => s'.stack.length = s.stack.length)
      (m.invokeDuktape c dt callee jsHeapPtr args awaitJsPromise s) :=
  allExits_of_exits (invokeDuktape_height c dt callee m jsHeapPtr args awaitJsPromise _ s rfl)

end JsBridge

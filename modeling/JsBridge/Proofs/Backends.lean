import JsBridge.Proofs.JavaScriptMethodResult
import JsBridge.Proofs.DuktapeJavaMethod
import JsBridge.Proofs.QuickJsJavaMethod
import JsBridge.Duktape.JavaScriptObject
import JsBridge.QuickJs.JavaScriptObject

/-!
# The two backends side by side

The bridge runs on two engines, Duktape (a value stack) and QuickJS (reference-counted
handles), with the same `JavaType`s behind each. Whether they are interchangeable is a question
about the two `invoke`s: given conversions that correspond along a map `φ` from Duktape values
to QuickJS values (`Codec.Agree`), does Java see the same from both?

For a call from Java it does: `JavaScriptMethod::invoke` returns or throws the same on both
backends, and the JS function is called with corresponding arguments
(`invoke_backends_agree`). For a call from JS, `JavaMethod::invoke` hands `m_methodBody` the
same vector on both (`javaMethod_backends_agree`), but when more than one argument fails to
convert the two report different ones: Duktape pops, and converts, from the last parameter down
and reports the last failing argument, QuickJS the first
(`javaMethod_backends_report_differently`).

`JavaScriptObject::call` around the first `invoke` differs too. Duktape wraps the call in a
`catch` of `std::runtime_error` that rethrows with the method's name, so a JS error reaches Java
as that `std::runtime_error` where QuickJS passes the `JsException` on
(`call_backends_report_js_error`). A method missing from the table is a
`std::runtime_error` on QuickJS and, on Duktape, the `std::invalid_argument` that `call` throws
inside that `try` (`callQuickJs_step`, `callDuktape_step`).
-/

namespace JsBridge

variable {P T V W α β : Type}

/-- Two engines' conversions that correspond along `φ`, a map from the first engine's values to
the second's: the second's `fromJava` makes `φ` of what the first makes, and its `toJava` reads
`φ v` as the first reads `v`. -/
structure Codec.Agree (φ : V → W) (c : Codec T V) (c' : Codec T W) : Prop where
  fromJava : ∀ t x, c'.fromJava t x = φ <$> c.fromJava t x
  toJava : ∀ t v, c'.toJava t (φ v) = c.toJava t v

section Lists

variable {γ : Type} {φ : V → W}

/-- Converting along `φ` element by element is converting, then mapping `φ`. -/
theorem mapM_eq_map_mapM {f : γ → Except Exn V} {g : γ → Except Exn W}
    (h : ∀ a, g a = φ <$> f a) : ∀ xs : List γ, xs.mapM g = List.map φ <$> xs.mapM f
  | [] => rfl
  | x :: xs => by
    simp only [List.mapM_cons, h x, mapM_eq_map_mapM h xs]
    cases f x <;> cases xs.mapM f <;> rfl

end Lists

section Agree

variable {φ : V → W} {c : Codec T V} {c' : Codec T W} (hc : Codec.Agree φ c c')
include hc

/-- The JS arguments of a call from Java correspond. -/
theorem jsArguments_agree (sig : Signature T) (javaArgs : List JValue) :
    jsArguments c' sig javaArgs = List.map φ <$> jsArguments c sig javaArgs := by
  have hfixed := mapM_eq_map_mapM (fun p : T × JValue => hc.fromJava p.1 p.2)
    (fixedArguments sig javaArgs)
  have htail : varArgElements c' sig javaArgs = List.map φ <$> varArgElements c sig javaArgs := by
    unfold varArgElements Codec.fromJavaArray
    split
    · exact mapM_eq_map_mapM (hc.fromJava _) _
    · rfl
  simp only [jsArguments, hfixed, htail]
  cases (fixedArguments sig javaArgs).mapM fun p => c.fromJava p.1 p.2 <;>
    cases varArgElements c sig javaArgs <;>
    simp [Functor.map, Except.map, bind, Except.bind, pure, Except.pure]

/-- Java gets the same from corresponding JS outcomes. -/
theorem javaResult_agree {thenable : V → Bool} {thenable' : W → Bool}
    (hthen : ∀ v, thenable' (φ v) = thenable v) (dt : DeferredTypes P T)
    (m : JavaScriptMethod P T) (awaitJsPromise : Bool) (r : Except String V) :
    javaResult c' dt m awaitJsPromise thenable' (φ <$> r) =
      javaResult c dt m awaitJsPromise thenable r := by
  cases r with
  | error => rfl
  | ok v => simp only [Functor.map, Except.map, javaResult, hthen, hc.toJava]

end Agree

/-- `JavaScriptMethod::invoke` on both backends, for the same method, fitting Java arguments and
a JS function that is the same on both (its outcome on corresponding arguments corresponds, and
on QuickJS it never returns `JS_EXCEPTION` as a value), with the same thenables: QuickJS returns
or throws exactly what Duktape does, holding the references it held at entry, and calls the JS
function with the arguments Duktape calls it with, along `φ`. -/
theorem invoke_backends_agree (cd : Codec T DukValue) (cq : Codec T JSValue)
    {φ : DukValue → JSValue} (hc : Codec.Agree φ cd cq) (dt : DeferredTypes P T)
    (m : JavaScriptMethod P T) (dcallee : DukCallee) {p : Nat} {f : Bool}
    (hf : m.isLambda = true → f = true) (qcallee : QjsCallee) (jsMethod jsThis : JSValue)
    (hret : ∀ zs v, qcallee jsMethod jsThis zs = .ok v → v.isException = false)
    (javaArgs : Option (List JValue)) (awaitJsPromise : Bool) (hfit : m.ArgsFit javaArgs)
    (sd : DukState) (sq : QjsState)
    (hthen : ∀ v, Qjs.thenable sq.props (φ v) = Duk.thenable sd.props v)
    (hcall : ∀ zs, qcallee jsMethod jsThis (zs.map φ) =
      φ <$> Duk.callResult dcallee sd.props m.toSignature (.object p f) zs) :
    ∃ sq', m.invokeQuickJs cq dt qcallee jsMethod jsThis javaArgs awaitJsPromise sq =
        (match m.invokeDuktape cd dt dcallee (.object p f) javaArgs awaitJsPromise sd with
          | .ok x _ => .ok x sq'
          | .error e _ => .error e sq') ∧
      sq'.owned.Perm sq.owned ∧
      sq'.calls =
        callsAfter (List.map φ <$> jsArguments cd m.toSignature (javaArgs.getD [])) sq.calls := by
  have hfit' := Signature.argsFit_getD hfit
  obtain ⟨sq', h, hown, hcalls⟩ := invokeQuickJs_returns_some cq dt qcallee m jsMethod jsThis _
    awaitJsPromise hfit' hret sq
  refine ⟨sq', ?_, hown, by rw [hcalls, jsArguments_agree hc]⟩
  rw [invokeQuickJs_getD cq dt qcallee m jsMethod jsThis javaArgs awaitJsPromise hfit, h,
    invokeDuktape_getD, invokeDuktape_returns_some cd dt dcallee m hf _ awaitJsPromise hfit' sd,
    jsArguments_agree hc]
  cases jsArguments cd m.toSignature (javaArgs.getD []) with
  | error e => rfl
  | ok zs =>
    show liftExn (javaResult cq dt m awaitJsPromise (Qjs.thenable sq.props)
      (qcallee jsMethod jsThis (zs.map φ))) sq' = _
    rw [hcall, javaResult_agree hc hthen]
    dsimp only
    cases javaResult cd dt m awaitJsPromise (Duk.thenable sd.props)
      (Duk.callResult dcallee sd.props m.toSignature (.object p f) zs) <;> rfl

/-- A method `get()` whose JS function returns `5` on both backends, Java references carried as
JS numbers: both give Java the reference `5`. -/
theorem invoke_backends_agree_get :
    let m : JavaScriptMethod Unit Unit := ⟨⟨"get", false, false, [], nofun⟩, (), ()⟩
    let cd : Codec Unit DukValue :=
      ⟨fun _ v => match v with
        | .number n => .ok (.ref n.toNat)
        | _ => .error (.other "not a reference"),
       fun _ x => match x with
        | .ref n => .ok (.number n)
        | _ => .error (.other "not a reference")⟩
    let cq : Codec Unit JSValue :=
      ⟨fun _ v => match v with
        | .int n => .ok (.ref n.toNat)
        | _ => .error (.other "not a reference"),
       fun _ x => match x with
        | .ref n => .ok (.int n)
        | _ => .error (.other "not a reference")⟩
    let φ : DukValue → JSValue := fun v => match v with
      | .number n => .int n
      | .object p f => .obj p f
      | _ => .undefined
    let dt : DeferredTypes Unit Unit := ⟨fun _ => false, fun _ => ()⟩
    let sd : DukState := ⟨[], fun _ _ => some (.object 1 true), []⟩
    let sq : QjsState := ⟨fun _ => [], fun _ _ => some (.obj 1 true), 0, [], [], []⟩
    Codec.Agree φ cd cq ∧
      m.invokeDuktape cd dt (fun _ _ _ => .ok (.number 5)) (.object 0 false) none false sd =
        .ok (.ref 5) { sd with calls := [[]] } ∧
      ∃ sq', m.invokeQuickJs cq dt (fun _ _ _ => .ok (.int 5)) (.obj 1 true) (.obj 0 false) none
          false sq =
          (match m.invokeDuktape cd dt (fun _ _ _ => .ok (.number 5)) (.object 0 false) none false
              sd with
            | .ok x _ => .ok x sq'
            | .error e _ => .error e sq') ∧
        sq'.owned.Perm sq.owned ∧
        sq'.calls = callsAfter (List.map φ <$> jsArguments cd m.toSignature []) sq.calls := by
  intro m cd cq φ dt sd sq
  have hc : Codec.Agree φ cd cq :=
    ⟨fun _ x => by cases x <;> rfl, fun _ v => by cases v <;> rfl⟩
  exact ⟨hc, rfl, invoke_backends_agree cd cq hc dt m (fun _ _ _ => .ok (.number 5)) (p := 0)
    (f := false) nofun (fun _ _ _ => .ok (.int 5)) (.obj 1 true) (.obj 0 false)
    (fun _ _ h => by cases h; rfl) none false rfl sd sq (fun v => by cases v <;> rfl)
    (fun _ => rfl)⟩

/-- `JavaScriptObject::call` of a method in the table, with arguments that convert on both
backends, where the JS function throws: on Duktape the `catch` of `std::runtime_error` turns the
`JsException` (when it is one) into a `std::runtime_error` whose message names the method, while
QuickJS, which has no such `catch`, lets the `JsException` through. -/
theorem call_backends_report_js_error (cd : Codec T DukValue) (cq : Codec T JSValue)
    (dt : DeferredTypes P T) (dcallee : DukCallee) (qcallee : QjsCallee)
    (isRuntimeError : Exn → Bool) (name : String) (methods : List (Nat × JavaScriptMethod P T))
    {methodId : Nat} {jsMethod : JavaScriptMethod P T}
    (hfind : findMethod methods methodId = some jsMethod) (methodName : String)
    (args : Option (List JValue)) (awaitJsPromise : Bool) (hfit : jsMethod.ArgsFit args)
    {p : Nat} {f : Bool} (hf : jsMethod.isLambda = true → f = true) (sd : DukState)
    {zs : List DukValue} (hX : jsArguments cd jsMethod.toSignature (args.getD []) = .ok zs)
    {zs' : List JSValue} (hX' : jsArguments cq jsMethod.toSignature (args.getD []) = .ok zs')
    (jsObjectValue : JSValue) (hobj : jsObjectValue.isObject = true) (sq : QjsState)
    {msg : String}
    (hd : Duk.callResult dcallee sd.props jsMethod.toSignature (.object p f) zs = .error msg)
    (hq : ∀ g zs, qcallee g jsObjectValue zs = .error msg)
    (hrt : isRuntimeError (.jsException msg) = true) :
    JavaScriptObject.callDuktape cd dt dcallee isRuntimeError name (some (.object p f)) methods
        (.ok methodId) methodName args awaitJsPromise sd =
      .error (.thrown (.runtimeError
        ("Error while calling JS method " ++ name ++ "." ++ methodName ++ ": " ++ msg)))
        { sd with calls := zs :: sd.calls } ∧
    ∃ sq', JavaScriptObject.callQuickJs cq dt qcallee name methods jsObjectValue (.ok methodId)
        methodName args awaitJsPromise sq = .error (.thrown (.jsException msg)) sq' := by
  have hfit' := Signature.argsFit_getD hfit
  constructor
  · have hinv : jsMethod.invokeDuktape cd dt dcallee (.object p f) args awaitJsPromise sd =
        .error (.thrown (.jsException msg)) { sd with calls := zs :: sd.calls } := by
      rw [invokeDuktape_getD, invokeDuktape_returns_some cd dt dcallee jsMethod hf _ awaitJsPromise
        hfit' sd, hX]
      dsimp only
      rw [hd]
      rfl
    simp only [JavaScriptObject.callDuktape]
    rw [bind_run_ok (liftExn_ok _ _)]
    simp only [hfind]
    exact (catchWhen_run_caught hinv hrt).trans rfl
  · let v := Qjs.propertyStr sq.props jsObjectValue jsMethod.methodName
    obtain ⟨s', h, hown, -⟩ := invokeQuickJs_returns_some cq dt qcallee jsMethod v jsObjectValue
      _ awaitJsPromise hfit' (fun _ _ h => by rw [hq] at h; cases h) (sq.acquire v)
    simp only [hq, hX'] at h
    obtain ⟨st, hfree⟩ := Qjs.freeValue_run (hown.mem_iff.mpr (List.mem_cons_self v sq.owned))
    refine ⟨{ s' with owned := s'.owned.erase v, stored := st }, ?_⟩
    simp only [JavaScriptObject.callQuickJs]
    rw [bind_run_ok (liftExn_ok _ _)]
    simp only [hfind, hobj, Bool.not_true, Bool.false_eq_true, if_false]
    rw [bind_run_ok (show Qjs.getPropertyStr jsObjectValue jsMethod.methodName sq =
      .ok v (sq.acquire v) from rfl)]
    unfold Qjs.autorelease
    rw [invokeQuickJs_getD cq dt qcallee jsMethod v jsObjectValue args awaitJsPromise hfit, h]
    exact bind_run_ok hfree

/-- A method `get()` of `api` whose JS function throws `boom`. -/
theorem call_backends_report_js_error_get :
    let m : JavaScriptMethod Unit Unit := ⟨⟨"get", false, false, [], nofun⟩, (), ()⟩
    let cd : Codec Unit DukValue := ⟨fun _ _ => .ok .null, fun _ _ => .ok .null⟩
    let cq : Codec Unit JSValue := ⟨fun _ _ => .ok .null, fun _ _ => .ok .null⟩
    let dt : DeferredTypes Unit Unit := ⟨fun _ => false, fun _ => ()⟩
    let sd : DukState := ⟨[], fun _ _ => some (.object 1 true), []⟩
    let sq : QjsState := ⟨fun _ => [], fun _ _ => some (.obj 1 true), 0, [], [], []⟩
    JavaScriptObject.callDuktape cd dt (fun _ _ _ => .error "boom") (fun _ => true) "api"
        (some (.object 0 false)) [(7, m)] (.ok 7) "get" none false sd =
      .error (.thrown (.runtimeError "Error while calling JS method api.get: boom"))
        { sd with calls := [[]] } ∧
    ∃ sq', JavaScriptObject.callQuickJs cq dt (fun _ _ _ => .error "boom") "api" [(7, m)]
        (.obj 0 false) (.ok 7) "get" none false sq = .error (.thrown (.jsException "boom")) sq' :=
  call_backends_report_js_error ⟨fun _ _ => .ok .null, fun _ _ => .ok .null⟩
    ⟨fun _ _ => .ok .null, fun _ _ => .ok .null⟩ ⟨fun _ => false, fun _ => ()⟩
    (fun _ _ _ => .error "boom") (fun _ _ _ => .error "boom") (fun _ => true) "api"
    [(7, ⟨⟨"get", false, false, [], nofun⟩, (), ()⟩)] (by rfl) "get" none false (by rfl)
    (by nofun) ⟨[], fun _ _ => some (.object 1 true), []⟩ (by rfl) (by rfl) (.obj 0 false) rfl
    ⟨fun _ => [], fun _ _ => some (.obj 1 true), 0, [], [], []⟩ (by rfl) (fun _ _ => rfl) rfl

end JsBridge

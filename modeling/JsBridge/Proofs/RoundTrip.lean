import JsBridge.Proofs.DuktapeArguments
import JsBridge.Proofs.DuktapeJavaMethod
import JsBridge.Proofs.QuickJsJavaScriptMethod
import JsBridge.Proofs.QuickJsJavaMethod
import JsBridge.Proofs.JavaScriptMethodResult
import Mathlib.Data.List.Forall2

/-!
# A Java call through JS and back

The two directions of the bridge meet when a Java call reaches JS through a `JavaScriptMethod`
(a JS object registered for a Java interface) and the JS function it calls is itself a Java
method of that interface, bound by a `JavaMethod`. `JavaScriptMethod::invoke` converts the Java
arguments (`jsArguments`, spreading the varargs array) and `JavaMethod::invoke` converts the JS
arguments back (`javaArguments`, gathering the trailing ones into an array).

When the arguments of the call cross to JS through the `JavaScriptMethod`'s types and come back
to themselves through the `JavaMethod`'s (`Signature.ArgsRoundTrip`, a hypothesis on this call's
values only, which a lossy type such as a `Long` carried as a double meets for small values), the
second conversion undoes the first: the Java method receives the caller's arguments. The
abstract statement is `javaArguments_jsArguments`; both wrappers' constructors give it types of
the same shape (`new_shapes`); and on each backend the one JS call that `JavaScriptMethod::invoke`
makes when the arguments convert is relayed by `JavaMethod::invoke` to `m_methodBody` with the
caller's arguments. A provider whose types round trip every value (`TypeProvider.RoundTrips`)
meets the hypothesis for every call (`argsRoundTrip_of_roundTrips`, `new_return_roundTrips`).

With `JavaMethod`'s own `m_methodBody` the trip closes: when the Java method's result comes back
through the two return types as well, the Java caller gets back what the Java method returned,
or a `JsException` with the message of what it threw (`duktape_proxy_returns`,
`quickJs_proxy_returns`). The JS function bound to the Java method is the C function of each
backend that runs `JavaMethod::invoke` (`Duk.javaFunction`, `Qjs.javaFunction`).
-/

namespace JsBridge

variable {P T V α : Type}

theorem forall₂_getLast {β γ : Type} {R : β → γ → Prop} {l : List β} {l' : List γ}
    (h : List.Forall₂ R l l') (hl : l ≠ []) (hl' : l' ≠ []) :
    R (l.getLast hl) (l'.getLast hl') := by
  have hlen := h.length_eq
  have hpos := List.length_pos.mpr hl
  have := h.get (i := l.length - 1) (by omega) (by omega)
  simpa [List.getLast_eq_getElem, hlen] using this

theorem JValue.eq_array_of_arrayElements {x : JValue} {es : List JValue}
    (h : x.arrayElements = some es) : x = .array es := by
  cases x with
  | array xs => cases h; rfl
  | _ => cases h

/-! ## The abstract round trip -/

section Abstract

variable {c : Codec T V}

/-- A conversion that `g` undoes on each element is undone element by element. -/
theorem mapM_inverse {β γ : Type} {f : β → Except Exn γ} {g : γ → Except Exn β} :
    ∀ {xs : List β} {ys : List γ}, (∀ x ∈ xs, ∀ y, f x = .ok y → g y = .ok x) →
      xs.mapM f = .ok ys → ys.mapM g = .ok xs
  | [], ys, _, hys => by cases hys; rfl
  | x :: xs, ys, h, hys => by
    obtain ⟨y, ys', hy, hys', rfl⟩ := mapM_cons_ok hys
    simp only [List.mapM_cons, h x (List.mem_cons_self x xs) y hy,
      mapM_inverse (fun x' hx' => h x' (List.mem_cons_of_mem x hx')) hys', except_ok_bind]
    rfl

/-- The varargs array: its elements spread by `t`, gathered again by `t'`. -/
theorem toJavaArray_fromJavaArray {t t' : T} {xs : List JValue}
    (h : ∀ x ∈ xs, c.RoundTripsAt t t' x) {vs : List V} (hvs : c.fromJavaArray t xs = .ok vs) :
    c.toJavaArray t' vs = .ok (.array xs) := by
  simp only [Codec.toJavaArray, mapM_inverse h hvs]
  rfl

/-- The fixed slots: JS argument `k + i` is fixed argument `i` converted, so slot `i` converts
it back. -/
theorem fixedArguments_roundTrip (argv rest : List V) :
    ∀ {ts ts' : List T} {xs : List JValue} {vs : List V} {k : Nat},
      ts'.length = ts.length → xs.length = ts.length →
      (∀ (i : Nat) t t' x, ts[i]? = some t → ts'[i]? = some t' → xs[i]? = some x →
        c.RoundTripsAt t t' x) →
      (ts.zip xs).mapM (fun p => c.fromJava p.1 p.2) = .ok vs → argv.drop k = vs ++ rest →
      (ts'.enumFrom k).mapM (fun p => fixedArgument c argv p.1 p.2) = .ok xs
  | [], [], [], _, _, _, _, _, hvs, _ => by cases hvs; rfl
  | [], _ :: _, _, _, _, hlen', _, _, _, _ => by cases hlen'
  | _ :: _, [], _, _, _, hlen', _, _, _, _ => by cases hlen'
  | [], [], _ :: _, _, _, _, hlen, _, _, _ => by cases hlen
  | _ :: _, _ :: _, [], _, _, _, hlen, _, _, _ => by cases hlen
  | t :: _, t' :: _, x :: _, _, k, hlen', hlen, hrt, hvs, hargv => by
    obtain ⟨v, vs', hv, hvs', rfl⟩ := mapM_cons_ok hvs
    have hk : argv[k]? = some v := by
      rw [← Nat.add_zero k, ← List.getElem?_drop, hargv]; simp
    have hk' : argv.drop (k + 1) = vs' ++ rest := by
      rw [← List.drop_drop, hargv]; rfl
    have hslot : fixedArgument c argv k t' = .ok x := by
      simp [fixedArgument, hk, hrt 0 t t' x List.getElem?_cons_zero List.getElem?_cons_zero
        List.getElem?_cons_zero v hv]
    simp only [List.enumFrom_cons, List.mapM_cons, hslot,
      fixedArguments_roundTrip argv rest (Nat.succ.inj hlen') (Nat.succ.inj hlen)
        (fun i t t' x ht ht' hx => hrt (i + 1) t t' x (List.getElem?_cons_succ.trans ht)
          (List.getElem?_cons_succ.trans ht') (List.getElem?_cons_succ.trans hx)) hvs' hk',
      except_ok_bind]
    rfl

theorem getElem?_dropLast_eq_some {β : Type} {l : List β} {i : Nat} {a : β}
    (h : l.dropLast[i]? = some a) : i < l.length - 1 ∧ l[i]? = some a := by
  rw [List.getElem?_dropLast] at h
  split at h
  · exact ⟨by assumption, h⟩
  · cases h

/-- **The round trip.** A Java call passed to JS (`jsArguments`, §4.4) and from JS to a Java
method of the same shape (`javaArguments`, §4.3) arrives with its own arguments, when they cross
and come back through the two methods' types: the fixed ones convert back one by one, and the
spread varargs elements are gathered again into the array. -/
theorem javaArguments_jsArguments {sig sig' : Signature T} {javaArgs : List JValue} {zs : List V}
    (hv : sig'.isVarArgs = sig.isVarArgs)
    (hlen : sig'.argumentTypes.length = sig.argumentTypes.length)
    (hrt : sig.ArgsRoundTrip c sig' javaArgs)
    (hfit : sig.ArgsFit (some javaArgs)) (h : jsArguments c sig javaArgs = .ok zs) :
    javaArguments c sig' zs = .ok javaArgs := by
  obtain ⟨fixed, hfixed, h⟩ := except_bind_eq_ok h
  obtain ⟨tail, htail, h⟩ := except_bind_eq_ok h
  cases h
  have hmin : sig'.minArgs = sig.minArgs := by simp [Signature.minArgs, hv, hlen]
  unfold javaArguments fixedJavaArguments
  rw [hmin, List.enum_eq_enumFrom]
  by_cases hvar : sig.isVarArgs = true
  · -- varargs: the fixed slots, then the spread elements gathered into the array
    obtain ⟨x, es, hlast, hes⟩ := varArgs_elements hfit hvar
    have hne : javaArgs ≠ [] := by rintro rfl; cases hlast
    have hts' : sig'.argumentTypes.take sig.minArgs = sig'.argumentTypes.dropLast := by
      simp [List.dropLast_eq_take, Signature.minArgs, hvar, hlen]
    have hfixedlen := length_of_mapM_ok hfixed
    rw [fixedArguments_length hfit.1] at hfixedlen
    simp only [fixedArguments, hvar, if_true] at hfixed
    simp only [varArgElements, hvar, dite_true, hlast, Option.some_bind, hes,
      Option.getD_some] at htail
    have hpre := fixedArguments_roundTrip (fixed ++ tail) tail (k := 0)
      (by simp [hlen] : sig'.argumentTypes.dropLast.length = sig.argumentTypes.dropLast.length)
      (by simp [hfit.1] : javaArgs.dropLast.length = sig.argumentTypes.dropLast.length)
      (fun i t t' y ht ht' hy => by
        obtain ⟨hi, ht⟩ := getElem?_dropLast_eq_some ht
        exact hrt.1 i t t' y (by simpa [Signature.minArgs, hvar] using hi) ht
          (getElem?_dropLast_eq_some ht').2 (getElem?_dropLast_eq_some hy).2)
      hfixed (by simp)
    have hdrop : (fixed ++ tail).drop sig.minArgs = tail := by
      rw [← hfixedlen, List.drop_left]
    have hx : javaArgs.getLast hne = x := by
      rw [List.getLast?_eq_getLast _ hne] at hlast; exact Option.some.inj hlast
    have hes' : ∀ y ∈ es, c.RoundTripsAt (sig.varArgType hvar) (sig'.varArgType (hv.trans hvar)) y :=
      fun y hy => hrt.2 hvar _ y (by simpa [hlast, hes] using hy)
    simp only [hts', hpre, except_ok_bind, hv, hvar, dite_true, hdrop,
      toJavaArray_fromJavaArray hes' htail]
    rw [← JValue.eq_array_of_arrayElements hes, ← hx, List.dropLast_append_getLast]
    rfl
  · -- fixed arguments only
    have hvar : sig.isVarArgs = false := by simpa using hvar
    have hts' : sig'.argumentTypes.take sig.minArgs = sig'.argumentTypes := by
      simp [Signature.minArgs, hvar, hlen]
    simp only [fixedArguments, hvar, Bool.false_eq_true, if_false] at hfixed
    simp only [varArgElements, hvar, Bool.false_eq_true, dite_false] at htail
    cases htail
    simp only [hts', fixedArguments_roundTrip (fixed ++ []) [] (k := 0) hlen hfit.1
        (fun i t t' y ht ht' hy => hrt.1 i t t' y
          (by rw [Signature.minArgs_of_not hvar]; exact (List.getElem?_eq_some_iff.mp ht).1)
          ht ht' hy) hfixed (by simp), except_ok_bind, hv, hvar, Bool.false_eq_true, dite_false]
    rfl

/-- JS receives at least `minArgs` arguments, and exactly `minArgs` from a method that is not
varargs. -/
theorem minArgs_le_jsArguments {sig : Signature T} {javaArgs : List JValue} {zs : List V}
    (hfit : sig.ArgsFit (some javaArgs)) (h : jsArguments c sig javaArgs = .ok zs) :
    sig.minArgs ≤ zs.length ∧ (sig.isVarArgs = false → zs.length = sig.minArgs) := by
  rw [jsArguments_length h, fixedArguments_length hfit.1]
  exact ⟨Nat.le_add_right _ _, fun hv => by simp [hv]⟩

end Abstract

/-! ## The types both constructors make -/

section Constructors

variable {tp : TypeProvider P T} {c : Codec T V}

/-- The argument-type loop run twice over one parameter list, with any boxing: the types pair
up, parameter by parameter, into round trips. -/
theorem argumentTypesOf_roundTrips (hrt : tp.RoundTrips c) {v b vb b' vb' : Bool} :
    ∀ {ps : List P} {ts ts'}, argumentTypesOf tp v b vb ps = .ok ts →
      argumentTypesOf tp v b' vb' ps = .ok ts' → List.Forall₂ c.RoundTrips ts.1 ts'.1
  | [], _, _, h, h' => by cases h; cases h'; exact .nil
  | [p], _, _, h, h' => by
    cases v
    · obtain ⟨t, ht, h⟩ := except_bind_eq_ok h
      obtain ⟨t', ht', h'⟩ := except_bind_eq_ok h'
      cases h; cases h'
      exact .cons (hrt p b b' t t' ht ht') .nil
    · obtain ⟨q, hq, h⟩ := except_bind_eq_ok h
      obtain ⟨q', hq', h'⟩ := except_bind_eq_ok h'
      obtain rfl : q' = q := Except.ok.inj (hq'.symm.trans hq)
      obtain ⟨t, ht, h⟩ := except_bind_eq_ok h
      obtain ⟨t', ht', h'⟩ := except_bind_eq_ok h'
      cases h; cases h'
      exact .cons (hrt q' vb vb' t t' ht ht') .nil
  | p :: p' :: ps, _, _, h, h' => by
    obtain ⟨t, ht, h⟩ := except_bind_eq_ok h
    obtain ⟨t', ht', h'⟩ := except_bind_eq_ok h'
    obtain ⟨ts, hts, h⟩ := except_bind_eq_ok h
    obtain ⟨ts', hts', h'⟩ := except_bind_eq_ok h'
    cases h; cases h'
    exact .cons (hrt p b b' t t' ht ht') (argumentTypesOf_roundTrips hrt hts hts')

/-- A `JavaScriptMethod` and a `JavaMethod` built for one method interface have the same varargs
flag and argument types that pair up into round trips. -/
theorem new_roundTrips (hrt : tp.RoundTrips c) {mi : MethodInterface P} {name name' : String}
    {isLambda isLambda' : Bool} {jsm : JavaScriptMethod P T} {jm : JavaMethod T}
    (hjs : JavaScriptMethod.new tp mi name isLambda = .ok jsm)
    (hj : JavaMethod.new tp mi name' isLambda' = .ok jm) :
    jm.isVarArgs = jsm.isVarArgs ∧
      List.Forall₂ c.RoundTrips jsm.argumentTypes jm.argumentTypes := by
  obtain ⟨_, -, hjs⟩ := except_bind_eq_ok hjs
  obtain ⟨ts, hts, hjs⟩ := except_bind_eq_ok hjs
  obtain ⟨ts', hts', hj⟩ := except_bind_eq_ok hj
  obtain ⟨_, -, hj⟩ := except_bind_eq_ok hj
  cases hjs; cases hj
  exact ⟨rfl, argumentTypesOf_roundTrips hrt hts hts'⟩

/-- A `JavaScriptMethod` and a `JavaMethod` built for one method interface have return types that
pair up into a round trip: the Java method's result comes back as itself. -/
theorem new_return_roundTrips (hrt : tp.RoundTrips c)
    {mi : MethodInterface P} {name name' : String} {isLambda isLambda' : Bool}
    {jsm : JavaScriptMethod P T} {jm : JavaMethod T}
    (hjs : JavaScriptMethod.new tp mi name isLambda = .ok jsm)
    (hj : JavaMethod.new tp mi name' isLambda' = .ok jm) :
    c.RoundTrips jm.returnValueType jsm.returnValueType := by
  obtain ⟨r, hr, hjs⟩ := except_bind_eq_ok hjs
  obtain ⟨_, -, hjs⟩ := except_bind_eq_ok hjs
  obtain ⟨_, -, hj⟩ := except_bind_eq_ok hj
  obtain ⟨r', hr', hj⟩ := except_bind_eq_ok hj
  cases hjs; cases hj
  exact hrt _ _ _ _ _ hr' hr

/-- A `JavaScriptMethod` and a `JavaMethod` built for one method interface have the same varargs
flag and one argument type per parameter each. -/
theorem new_shapes {mi : MethodInterface P} {name name' : String} {isLambda isLambda' : Bool}
    {jsm : JavaScriptMethod P T} {jm : JavaMethod T}
    (hjs : JavaScriptMethod.new tp mi name isLambda = .ok jsm)
    (hj : JavaMethod.new tp mi name' isLambda' = .ok jm) :
    jm.isVarArgs = jsm.isVarArgs ∧ jm.argumentTypes.length = jsm.argumentTypes.length := by
  obtain ⟨_, -, hjs⟩ := except_bind_eq_ok hjs
  obtain ⟨ts, -, hjs⟩ := except_bind_eq_ok hjs
  obtain ⟨ts', -, hj⟩ := except_bind_eq_ok hj
  obtain ⟨_, -, hj⟩ := except_bind_eq_ok hj
  cases hjs; cases hj
  exact ⟨rfl, ts'.2.trans ts.2.symm⟩

theorem forall₂_roundTripsAt {ts ts' : List T} (h : List.Forall₂ c.RoundTrips ts ts') :
    ∀ {i : Nat} {t t' : T}, ts[i]? = some t → ts'[i]? = some t' → ∀ x, c.RoundTripsAt t t' x := by
  induction h with
  | nil => intro _ _ _ ht; cases ht
  | cons hR _ ih =>
    intro i t t' ht ht' x
    cases i with
    | zero =>
      rw [List.getElem?_cons_zero] at ht ht'
      cases ht; cases ht'; exact hR x
    | succ i =>
      rw [List.getElem?_cons_succ] at ht ht'
      exact ih ht ht' x

/-- Types that round trip for every value carry every call's arguments there and back. -/
theorem argsRoundTrip_of_roundTrips (hrt : tp.RoundTrips c) {mi : MethodInterface P}
    {name name' : String} {isLambda isLambda' : Bool} {jsm : JavaScriptMethod P T}
    {jm : JavaMethod T} (hjs : JavaScriptMethod.new tp mi name isLambda = .ok jsm)
    (hj : JavaMethod.new tp mi name' isLambda' = .ok jm) (javaArgs : List JValue) :
    jsm.toSignature.ArgsRoundTrip c jm.toSignature javaArgs := by
  obtain ⟨-, hts⟩ := new_roundTrips hrt hjs hj
  exact ⟨fun _ _ _ x _ ht ht' _ => forall₂_roundTripsAt hts ht ht' x,
    fun _ _ x _ => forall₂_getLast hts _ _ x⟩

/-- What the Java side of the trip makes of the JS arguments: the too-many check passes, the
varargs count is not negative, and `javaArguments` gives back the caller's arguments. -/
theorem javaArguments_of_proxy {mi : MethodInterface P} {name name' : String}
    {isLambda isLambda' : Bool} {jsm : JavaScriptMethod P T} {jm : JavaMethod T}
    (hjs : JavaScriptMethod.new tp mi name isLambda = .ok jsm)
    (hj : JavaMethod.new tp mi name' isLambda' = .ok jm) {javaArgs : List JValue} {zs : List V}
    (hargs : jsm.toSignature.ArgsRoundTrip c jm.toSignature javaArgs)
    (hfit : jsm.ArgsFit (some javaArgs)) (h : jsArguments c jsm.toSignature javaArgs = .ok zs) :
    (!jm.isVarArgs && jm.minArgs < zs.length) = false ∧ jm.minArgs ≤ zs.length ∧
      javaArguments c jm.toSignature zs = .ok javaArgs := by
  obtain ⟨hv, hlen⟩ := new_shapes hjs hj
  have hmin : jm.minArgs = jsm.minArgs := by
    simp [Signature.minArgs, hv, hlen]
  obtain ⟨hle, heq⟩ := minArgs_le_jsArguments hfit h
  refine ⟨?_, hmin ▸ hle, javaArguments_jsArguments hv hlen hargs hfit h⟩
  cases hvj : jsm.isVarArgs
  · simp [hv, hvj, hmin, heq hvj]
  · simp [hv, hvj]

end Constructors

/-! ## The trip on each backend -/

/-- After a Java call on the Duktape backend whose arguments convert as `X`: one JS call was
made exactly when they converted, with the arguments `zs` they converted to, and a Duktape/C
function bound to `jm` (its value stack holding them, the last on top) hands those to
`m_methodBody` as `javaArgs`, emptying the stack. -/
def Duk.Relayed (c : Codec T DukValue) (jm : JavaMethod T) (methodBody : List JValue → DukM α)
    (javaArgs : List JValue) (X : Except Exn (List DukValue)) (calls calls' : List (List DukValue)) :
    Prop :=
  calls' = callsAfter X calls ∧ ∀ zs, X = .ok zs → ∀ t : DukState, t.stack = zs.reverse →
    t.stack.length < UInt64.size →
      jm.invokeDuktape c methodBody t = methodBody javaArgs { t with stack := [] }

/-- After a Java call on the QuickJS backend whose arguments convert as `X`: one JS call was made
exactly when they converted, with the arguments `zs` they converted to, and `JavaMethod::invoke`
of `jm` hands those to `m_methodBody` as `javaArgs`, holding then the references it held at
entry. -/
def Qjs.Relayed (c : Codec T JSValue) (jm : JavaMethod T) (methodBody : List JValue → QjsM α)
    (javaArgs : List JValue) (X : Except Exn (List JSValue)) (calls calls' : List (List JSValue)) :
    Prop :=
  calls' = callsAfter X calls ∧ ∀ zs, X = .ok zs → ∀ t : QjsState, t.Fresh →
    ∃ t', jm.invokeQuickJs c methodBody zs t = methodBody javaArgs t' ∧
      t'.owned = t.owned ∧ t'.stored = t.stored

/-- A JS function that is the Java method `jm` on the Duktape backend: the Duktape/C function
bound to it runs `JavaMethod::invoke` with its own `m_methodBody` on a value stack holding the
arguments, the last on top, and returns the value left on top; a C++ exception becomes a JS error
with its message (an engine error, never reached here, one with no message). -/
def Duk.javaFunction (c : Codec T DukValue) (jm : JavaMethod T) (jvm : JavaCalls)
    (zs : List DukValue) : Except String DukValue :=
  match jm.invokeDuktape c (jm.methodBodyDuktape c jvm) ⟨zs.reverse, fun _ _ => none, []⟩ with
  | .ok () t => .ok (t.stack.headD .undefined)
  | .error (.thrown e) _ => .error e.what
  | .error _ _ => .error ""

/-- A JS function that is the Java method `jm` on the QuickJS backend: the C function bound to
it runs `JavaMethod::invoke` with its own `m_methodBody` in a frame of its own and returns the
value it makes, a `JS_EXCEPTION` being the exception it throws; a C++ exception becomes a JS
error with its message (an engine error, never reached here, one with no message). -/
def Qjs.javaFunction (c : Codec T JSValue) (jm : JavaMethod T) (jvm : JavaCalls)
    (zs : List JSValue) : Except String JSValue :=
  match jm.invokeQuickJs c (jm.methodBodyQuickJs c jvm) zs
      ⟨fun _ => [], fun _ _ => none, 0, [], [], []⟩ with
  | .ok (.exception msg) _ => .error msg
  | .ok v _ => .ok v
  | .error (.thrown e) _ => .error e.what
  | .error _ _ => .error ""

/-- A JS function bound to a Java method never returns `JS_EXCEPTION` as a value. -/
theorem Qjs.javaFunction_not_exception (c : Codec T JSValue) (jm : JavaMethod T) (jvm : JavaCalls)
    (zs : List JSValue) (v : JSValue) (h : Qjs.javaFunction c jm jvm zs = .ok v) :
    v.isException = false := by
  unfold Qjs.javaFunction at h
  split at h
  · cases h
  · -- a value that is not `JS_EXCEPTION`
    rename_i hne _
    cases h
    cases v with
    | exception msg => exact absurd rfl (hne msg)
    | _ => rfl
  all_goals cases h

/-- Unless the call awaits a promise for a return type that is not `Deferred`, a JS value comes
back through the method's return type. -/
theorem javaResult_ok {P V : Type} {c : Codec T V} {dt : DeferredTypes P T}
    {m : JavaScriptMethod P T} {awaitJsPromise : Bool} (thenable : V → Bool)
    (hawait : awaitJsPromise = true → dt.isDeferred m.returnValueType = true) (v : V) :
    javaResult c dt m awaitJsPromise thenable (.ok v) = c.toJava m.returnValueType v := by
  cases awaitJsPromise <;> simp [javaResult, hawait]

/-- Java gets back, from a JS function that is a Java method returning through `t`, that method's
result, or a `JsException` with the message of what it threw, when the result comes back through
the two return types. -/
theorem javaResult_of_javaMethod {c : Codec T V} {dt : DeferredTypes P T}
    {m : JavaScriptMethod P T} {t : T} {awaitJsPromise : Bool} (thenable : V → Bool)
    (hawait : awaitJsPromise = true → dt.isDeferred m.returnValueType = true)
    {r : Except Exn JValue} (hrt : ∀ ret, r = .ok ret → c.RoundTripsAt t m.returnValueType ret) :
    javaResult c dt m awaitJsPromise thenable ((r >>= c.fromJava t).mapError Exn.what) =
      (r >>= fun ret => (fun _ => ret) <$> c.fromJava t ret).mapError
        fun e => .jsException e.what := by
  cases r with
  | error e => rfl
  | ok ret =>
    cases hv : c.fromJava t ret with
    | error e => simp only [bind, Except.bind, hv, Functor.map, Except.map]; rfl
    | ok v =>
      simp only [bind, Except.bind, hv, Functor.map, Except.map, Except.mapError,
        javaResult_ok _ hawait, hrt ret rfl v hv]

section Backends

variable {tp : TypeProvider P T} {mi : MethodInterface P} {name name' : String}
  {isLambda isLambda' : Bool} {jsm : JavaScriptMethod P T} {jm : JavaMethod T}

/-- The arguments `(1, [2, null])` of `f(a, vararg xs)` cross and come back when each of the
values `1`, `2` and `null` does. -/
theorem argsRoundTrip_f {c : Codec Unit V} (h₁ : c.RoundTripsAt () () (.ref 1))
    (h₂ : c.RoundTripsAt () () (.ref 2)) (hnull : c.RoundTripsAt () () .null) :
    Signature.ArgsRoundTrip c ⟨"f", false, true, [(), ()], nofun⟩
      ⟨"f", false, true, [(), ()], nofun⟩ [.ref 1, .array [.ref 2, .null]] := by
  refine ⟨fun i _ _ x hi ht ht' hx => ?_, fun _ _ x hx => ?_⟩
  · obtain rfl : i = 0 := Nat.lt_one_iff.mp hi
    cases ht; cases ht'; cases hx
    exact h₁
  · change x ∈ [JValue.ref 2, .null] at hx
    rcases List.mem_pair.mp hx with rfl | rfl
    exacts [h₂, hnull]

/-- The Duktape/C function bound to `jm`, called with the JS arguments a proxy of the same
interface made of `javaArgs`: the Java method's own outcome. -/
theorem Duk.javaFunction_of_proxy (c : Codec T DukValue)
    (hjs : JavaScriptMethod.new tp mi name isLambda = .ok jsm)
    (hj : JavaMethod.new tp mi name' isLambda' = .ok jm) (jvm : JavaCalls)
    {javaArgs : List JValue} (hfit : jsm.ArgsFit (some javaArgs))
    (hargs : jsm.toSignature.ArgsRoundTrip c jm.toSignature javaArgs) {zs : List DukValue}
    (hX : jsArguments c jsm.toSignature javaArgs = .ok zs) (hsize : zs.length < UInt64.size) :
    Duk.javaFunction c jm jvm zs =
      (jm.callJava jvm javaArgs >>= c.fromJava jm.returnValueType).mapError Exn.what := by
  obtain ⟨hcheck, hle, hJ⟩ := javaArguments_of_proxy hjs hj hargs hfit hX
  have hrun := jm.invokeDuktape_run c (jm.methodBodyDuktape c jvm)
    ⟨zs.reverse, fun _ _ => none, []⟩
    (by simpa using hcheck) (fun _ => by simpa using hle) (by simpa using hsize)
  simp only [List.reverse_reverse, hJ] at hrun
  unfold Duk.javaFunction
  rw [hrun, JavaMethod.methodBodyDuktape]
  cases hjv : jm.callJava jvm javaArgs with
  | error e => rw [bind_run_error (liftExn_error _ _)]; rfl
  | ok ret =>
    rw [bind_run_ok (liftExn_ok _ _)]
    cases hv : c.fromJava jm.returnValueType ret with
    | error e => rw [Duk.pushJava_error hv]; simp [hv, Except.mapError]
    | ok v => rw [Duk.pushJava_ok hv]; simp [hv, Except.mapError]

/-- A Java call on the Duktape backend through a JS function that is a Java method of the same
interface, whose arguments and result cross and come back through the two methods' types:
the caller gets that method's own result, or a `JsException` with the message of what the Java
side threw. -/
theorem duktape_proxy_returns (c : Codec T DukValue)
    (hjs : JavaScriptMethod.new tp mi name isLambda = .ok jsm)
    (hj : JavaMethod.new tp mi name' isLambda' = .ok jm) (dt : DeferredTypes P T)
    (jvm : JavaCalls) {p : Nat} {f : Bool} (hf : jsm.isLambda = true → f = true)
    (javaArgs : List JValue) (awaitJsPromise : Bool)
    (hawait : awaitJsPromise = true → dt.isDeferred jsm.returnValueType = true)
    (hfit : jsm.ArgsFit (some javaArgs))
    (hargs : jsm.toSignature.ArgsRoundTrip c jm.toSignature javaArgs)
    (hret : ∀ ret, jm.callJava jvm javaArgs = .ok ret →
      c.RoundTripsAt jm.returnValueType jsm.returnValueType ret) (s : DukState)
    (hprop : jsm.isLambda = false → ∃ q, s.props p jsm.methodName = some (.object q true))
    {zs : List DukValue} (hX : jsArguments c jsm.toSignature javaArgs = .ok zs)
    (hsize : zs.length < UInt64.size) :
    jsm.invokeDuktape c dt (fun _ _ => Duk.javaFunction c jm jvm) (.object p f) (some javaArgs)
        awaitJsPromise s =
      match jm.callJava jvm javaArgs >>= fun ret =>
          (fun _ => ret) <$> c.fromJava jm.returnValueType ret with
      | .ok ret => .ok ret { s with calls := zs :: s.calls }
      | .error e => .error (.thrown (.jsException e.what)) { s with calls := zs :: s.calls } := by
  have hcall : Duk.callResult (fun _ _ => Duk.javaFunction c jm jvm) s.props jsm.toSignature
      (.object p f) zs = Duk.javaFunction c jm jvm zs := by
    unfold Duk.callResult
    cases hl : jsm.isLambda
    · obtain ⟨q, hq⟩ := hprop hl
      simp [hl, hq]
    · simp [hl]
  rw [invokeDuktape_returns_some c dt _ jsm hf javaArgs awaitJsPromise hfit s, hX]
  dsimp only
  rw [hcall, Duk.javaFunction_of_proxy c hjs hj jvm hfit hargs hX hsize,
    javaResult_of_javaMethod _ hawait hret]
  cases jm.callJava jvm javaArgs >>= fun ret => (fun _ => ret) <$> c.fromJava jm.returnValueType ret
  <;> rfl

/-- `fun f(a, vararg xs)` called from Java with `(1, [2, null])` through JS and back to a Java
method returning the reference `7`, over types that round trip every value: the caller gets
`7`. -/
theorem duktape_proxy_returns_f :
    let tp : TypeProvider Unit Unit := ⟨fun _ _ => .ok (), fun p => .ok p⟩
    let c : Codec Unit DukValue :=
      ⟨fun _ v => match v with
        | .number n => .ok (.ref n.toNat)
        | .null => .ok .null
        | _ => .error (.other "not a reference"),
       fun _ x => match x with
        | .ref n => .ok (.number n)
        | .null => .ok .null
        | .array _ => .error (.other "not an element")⟩
    let mi : MethodInterface Unit := ⟨"f", true, [(), ()], (), nofun⟩
    let jsm : JavaScriptMethod Unit Unit := ⟨⟨"f", false, true, [(), ()], nofun⟩, (), ()⟩
    let jm : JavaMethod Unit := ⟨⟨"f", false, true, [(), ()], nofun⟩, ()⟩
    let jvm : JavaCalls := ⟨fun _ => .ok .null, fun _ => .ok (.ref 7)⟩
    let javaArgs : List JValue := [.ref 1, .array [.ref 2, .null]]
    let s : DukState := ⟨[], fun _ _ => some (.object 1 true), []⟩
    tp.RoundTrips c ∧ JavaScriptMethod.new tp mi "f" false = .ok jsm ∧
      JavaMethod.new tp mi "f" false = .ok jm ∧ jsm.ArgsFit (some javaArgs) ∧
      jsArguments c jsm.toSignature javaArgs = .ok [.number 1, .number 2, .null] ∧
      jsm.invokeDuktape c ⟨fun _ => false, fun _ => ()⟩ (fun _ _ => Duk.javaFunction c jm jvm)
          (.object 0 false) (some javaArgs) false s =
        .ok (.ref 7) { s with calls := [[.number 1, .number 2, .null]] } := by
  intro tp c mi jsm jm jvm javaArgs s
  have hrt : tp.RoundTrips c := by
    intro _ _ _ _ _ _ _ x v h
    cases x <;> cases h <;> rfl
  have hjs : JavaScriptMethod.new tp mi "f" false = .ok jsm := rfl
  have hj : JavaMethod.new tp mi "f" false = .ok jm := rfl
  have hfit : jsm.ArgsFit (some javaArgs) := ⟨rfl, fun _ => rfl⟩
  have hX : jsArguments c jsm.toSignature javaArgs = .ok [.number 1, .number 2, .null] := rfl
  exact ⟨hrt, hjs, hj, hfit, hX, (duktape_proxy_returns c hjs hj _ jvm nofun javaArgs false nofun
    hfit (argsRoundTrip_of_roundTrips hrt hjs hj javaArgs)
    (fun ret _ => new_return_roundTrips hrt hjs hj ret) s (fun _ => ⟨1, rfl⟩) hX
    (by decide)).trans rfl⟩

/-- A Java call on the QuickJS backend through a JS function that is a Java method of the same
interface, whose arguments cross and come back through the two methods' types:
`JavaScriptMethod::invoke` reaches no undefined behaviour the model represents, makes one
`JS_Call` exactly when the arguments convert, and that call reaches the Java method's
`m_methodBody` through `JavaMethod::invoke` with exactly the caller's arguments, the varargs
array built on the way released. -/
theorem quickJs_proxy_round_trip (c : Codec T JSValue)
    (hjs : JavaScriptMethod.new tp mi name isLambda = .ok jsm)
    (hj : JavaMethod.new tp mi name' isLambda' = .ok jm) (dt : DeferredTypes P T)
    (callee : QjsCallee) (methodBody : List JValue → QjsM α) (jsMethod jsThis : JSValue)
    (javaArgs : List JValue) (awaitJsPromise : Bool) (hfit : jsm.ArgsFit (some javaArgs))
    (hargs : jsm.toSignature.ArgsRoundTrip c jm.toSignature javaArgs) (s : QjsState) :
    Exits (fun _ s' => Qjs.Relayed c jm methodBody javaArgs
        (jsArguments c jsm.toSignature javaArgs) s.calls s'.calls)
      (fun s' => Qjs.Relayed c jm methodBody javaArgs
        (jsArguments c jsm.toSignature javaArgs) s.calls s'.calls) False
      (jsm.invokeQuickJs c dt callee jsMethod jsThis (some javaArgs) awaitJsPromise s) := by
  have hrelay : ∀ zs, jsArguments c jsm.toSignature javaArgs = .ok zs → ∀ t : QjsState, t.Fresh →
      ∃ t', jm.invokeQuickJs c methodBody zs t = methodBody javaArgs t' ∧
        t'.owned = t.owned ∧ t'.stored = t.stored := by
    intro zs hX t hfresh
    obtain ⟨hcheck, -, hJ⟩ := javaArguments_of_proxy hjs hj hargs hfit hX
    have hrun := jm.invokeQuickJs_run c methodBody zs t hfresh hcheck
    rw [hJ] at hrun
    obtain ⟨t', h, hown, hstored, -⟩ := hrun
    exact ⟨t', h, hown, hstored⟩
  exact (invokeQuickJs_exits c dt callee jsm jsMethod jsThis (some javaArgs) awaitJsPromise hfit
    s).mono (fun _ _ h => ⟨h.2, hrelay⟩) (fun _ h => ⟨h.2, hrelay⟩) id

/-- `fun f(a, vararg xs)` called from Java with `(1, [2, null])` through JS and back, Java
references carried as JS integers that stop at `1000`: no round trip for every value, but one for
the values of this call. -/
theorem quickJs_proxy_round_trip_f :
    let tp : TypeProvider Unit Unit := ⟨fun _ _ => .ok (), fun p => .ok p⟩
    let c : Codec Unit JSValue :=
      ⟨fun _ v => match v with
        | .int n => .ok (.ref n.toNat)
        | .null => .ok .null
        | _ => .error (.other "not a reference"),
       fun _ x => match x with
        | .ref n => .ok (.int (min n 1000 : Nat))
        | .null => .ok .null
        | .array _ => .error (.other "not an element")⟩
    let mi : MethodInterface Unit := ⟨"f", true, [(), ()], (), nofun⟩
    let jsm : JavaScriptMethod Unit Unit := ⟨⟨"f", false, true, [(), ()], nofun⟩, (), ()⟩
    let jm : JavaMethod Unit := ⟨⟨"f", false, true, [(), ()], nofun⟩, ()⟩
    let javaArgs : List JValue := [.ref 1, .array [.ref 2, .null]]
    ¬ tp.RoundTrips c ∧ JavaScriptMethod.new tp mi "f" false = .ok jsm ∧
      JavaMethod.new tp mi "f" false = .ok jm ∧ jsm.ArgsFit (some javaArgs) ∧
      jsm.toSignature.ArgsRoundTrip c jm.toSignature javaArgs ∧
      ∀ s : QjsState,
        Exits (fun _ s' => Qjs.Relayed c jm (fun _ => pure ()) javaArgs
            (jsArguments c jsm.toSignature javaArgs) s.calls s'.calls)
          (fun s' => Qjs.Relayed c jm (fun _ => pure ()) javaArgs
            (jsArguments c jsm.toSignature javaArgs) s.calls s'.calls) False
          (jsm.invokeQuickJs c ⟨fun _ => false, fun _ => ()⟩ (fun _ _ _ => .ok .undefined)
            (.obj 0 true) .undefined (some javaArgs) false s) := by
  intro tp c mi jsm jm javaArgs
  have hlossy : ¬ tp.RoundTrips c := fun h =>
    absurd (JValue.ref.inj (Except.ok.inj (h () false false () () rfl rfl (.ref 2000) _ rfl)))
      (by decide)
  have hjs : JavaScriptMethod.new tp mi "f" false = .ok jsm := rfl
  have hj : JavaMethod.new tp mi "f" false = .ok jm := rfl
  have hfit : jsm.ArgsFit (some javaArgs) := ⟨rfl, fun _ => rfl⟩
  have hargs : jsm.toSignature.ArgsRoundTrip c jm.toSignature javaArgs :=
    argsRoundTrip_f (fun _ h => by cases h; rfl) (fun _ h => by cases h; rfl)
      (fun _ h => by cases h; rfl)
  exact ⟨hlossy, hjs, hj, hfit, hargs,
    quickJs_proxy_round_trip c hjs hj _ _ _ _ _ javaArgs false hfit hargs⟩

/-- The C function bound to `jm` on the QuickJS backend, called with the JS arguments a proxy of
the same interface made of `javaArgs`: the Java method's own outcome. -/
theorem Qjs.javaFunction_of_proxy (c : Codec T JSValue)
    (hjs : JavaScriptMethod.new tp mi name isLambda = .ok jsm)
    (hj : JavaMethod.new tp mi name' isLambda' = .ok jm) (jvm : JavaCalls)
    {javaArgs : List JValue} (hfit : jsm.ArgsFit (some javaArgs))
    (hargs : jsm.toSignature.ArgsRoundTrip c jm.toSignature javaArgs) {zs : List JSValue}
    (hexc : ∀ x v, c.fromJava jm.returnValueType x = .ok v → v.isException = false)
    (hX : jsArguments c jsm.toSignature javaArgs = .ok zs) :
    Qjs.javaFunction c jm jvm zs =
      (jm.callJava jvm javaArgs >>= c.fromJava jm.returnValueType).mapError Exn.what := by
  obtain ⟨hcheck, -, hJ⟩ := javaArguments_of_proxy hjs hj hargs hfit hX
  have hrun := jm.invokeQuickJs_run c (jm.methodBodyQuickJs c jvm) zs
    ⟨fun _ => [], fun _ _ => none, 0, [], [], []⟩ (by simp [QjsState.Fresh]) hcheck
  rw [hJ] at hrun
  obtain ⟨t, ht, -⟩ := hrun
  unfold Qjs.javaFunction
  rw [ht, JavaMethod.methodBodyQuickJs]
  cases hjv : jm.callJava jvm javaArgs with
  | error e => rw [bind_run_error (liftExn_error _ _)]; rfl
  | ok ret =>
    rw [bind_run_ok (liftExn_ok _ _)]
    cases hv : c.fromJava jm.returnValueType ret with
    | error e => rw [Qjs.fromJava_error hv]; simp [hv, Except.mapError]
    | ok v =>
      have hv' := hexc _ _ hv
      rw [Qjs.fromJava_ok hv]
      cases v <;> simp [hv, JSValue.isException, Except.mapError] at hv' ⊢

/-- A Java call on the QuickJS backend through a JS function that is a Java method of the same
interface, whose arguments and result cross and come back through the two methods' types: the
caller gets that method's own result, or a `JsException` with the message of what the Java side
threw; the references held at the end are those held at entry. -/
theorem quickJs_proxy_returns (c : Codec T JSValue)
    (hjs : JavaScriptMethod.new tp mi name isLambda = .ok jsm)
    (hj : JavaMethod.new tp mi name' isLambda' = .ok jm) (dt : DeferredTypes P T)
    (jvm : JavaCalls) (jsMethod jsThis : JSValue) (javaArgs : List JValue) (awaitJsPromise : Bool)
    (hawait : awaitJsPromise = true → dt.isDeferred jsm.returnValueType = true)
    (hfit : jsm.ArgsFit (some javaArgs))
    (hargs : jsm.toSignature.ArgsRoundTrip c jm.toSignature javaArgs)
    (hret : ∀ ret, jm.callJava jvm javaArgs = .ok ret →
      c.RoundTripsAt jm.returnValueType jsm.returnValueType ret)
    (hexc : ∀ x v, c.fromJava jm.returnValueType x = .ok v → v.isException = false)
    (s : QjsState) {zs : List JSValue} (hX : jsArguments c jsm.toSignature javaArgs = .ok zs) :
    ∃ s', jsm.invokeQuickJs c dt (fun _ _ => Qjs.javaFunction c jm jvm) jsMethod jsThis
        (some javaArgs) awaitJsPromise s =
      (match jm.callJava jvm javaArgs >>= fun ret =>
          (fun _ => ret) <$> c.fromJava jm.returnValueType ret with
        | .ok ret => .ok ret s'
        | .error e => .error (.thrown (.jsException e.what)) s') ∧
      s'.owned.Perm s.owned ∧ s'.calls = zs :: s.calls := by
  obtain ⟨s', h, hown, hcalls⟩ := invokeQuickJs_returns_some c dt
    (fun _ _ => Qjs.javaFunction c jm jvm) jsm jsMethod jsThis javaArgs awaitJsPromise hfit
    (Qjs.javaFunction_not_exception c jm jvm) s
  refine ⟨s', ?_, hown, by rw [hcalls, hX]; rfl⟩
  rw [h, hX]
  show liftExn (javaResult c dt jsm awaitJsPromise (Qjs.thenable s.props)
    (Qjs.javaFunction c jm jvm zs)) s' = _
  rw [Qjs.javaFunction_of_proxy c hjs hj jvm hfit hargs hexc hX,
    javaResult_of_javaMethod _ hawait hret]
  cases jm.callJava jvm javaArgs >>= fun ret => (fun _ => ret) <$> c.fromJava jm.returnValueType ret
  <;> rfl

/-- `fun f(a, vararg xs)` called from Java with `(1, [2, null])` through JS and back to a Java
method returning the reference `7`, over types that round trip every value: the caller gets
`7`. -/
theorem quickJs_proxy_returns_f :
    let tp : TypeProvider Unit Unit := ⟨fun _ _ => .ok (), fun p => .ok p⟩
    let c : Codec Unit JSValue :=
      ⟨fun _ v => match v with
        | .int n => .ok (.ref n.toNat)
        | .null => .ok .null
        | _ => .error (.other "not a reference"),
       fun _ x => match x with
        | .ref n => .ok (.int n)
        | .null => .ok .null
        | .array _ => .error (.other "not an element")⟩
    let mi : MethodInterface Unit := ⟨"f", true, [(), ()], (), nofun⟩
    let jsm : JavaScriptMethod Unit Unit := ⟨⟨"f", false, true, [(), ()], nofun⟩, (), ()⟩
    let jm : JavaMethod Unit := ⟨⟨"f", false, true, [(), ()], nofun⟩, ()⟩
    let jvm : JavaCalls := ⟨fun _ => .ok .null, fun _ => .ok (.ref 7)⟩
    let javaArgs : List JValue := [.ref 1, .array [.ref 2, .null]]
    tp.RoundTrips c ∧ JavaScriptMethod.new tp mi "f" false = .ok jsm ∧
      JavaMethod.new tp mi "f" false = .ok jm ∧ jsm.ArgsFit (some javaArgs) ∧
      (∀ x v, c.fromJava () x = .ok v → v.isException = false) ∧
      jsArguments c jsm.toSignature javaArgs = .ok [.int 1, .int 2, .null] ∧
      ∀ s : QjsState, ∃ s', jsm.invokeQuickJs c ⟨fun _ => false, fun _ => ()⟩
          (fun _ _ => Qjs.javaFunction c jm jvm) (.obj 0 true) .undefined (some javaArgs) false s =
        .ok (.ref 7) s' ∧ s'.owned.Perm s.owned ∧
          s'.calls = [.int 1, .int 2, .null] :: s.calls := by
  intro tp c mi jsm jm jvm javaArgs
  have hrt : tp.RoundTrips c := by
    intro _ _ _ _ _ _ _ x v h
    cases x <;> cases h <;> rfl
  have hjs : JavaScriptMethod.new tp mi "f" false = .ok jsm := rfl
  have hj : JavaMethod.new tp mi "f" false = .ok jm := rfl
  have hfit : jsm.ArgsFit (some javaArgs) := ⟨rfl, fun _ => rfl⟩
  have hexc : ∀ x v, c.fromJava () x = .ok v → v.isException = false := by
    intro x v h
    cases x <;> cases h <;> rfl
  have hX : jsArguments c jsm.toSignature javaArgs = .ok [.int 1, .int 2, .null] := rfl
  refine ⟨hrt, hjs, hj, hfit, hexc, hX, fun s => ?_⟩
  obtain ⟨s', h, hown, hcalls⟩ :=
    quickJs_proxy_returns c hjs hj _ jvm (.obj 0 true) .undefined javaArgs false nofun hfit
      (argsRoundTrip_of_roundTrips hrt hjs hj javaArgs)
      (fun ret _ => new_return_roundTrips hrt hjs hj ret) hexc s hX
  exact ⟨s', h.trans rfl, hown, hcalls⟩

end Backends

end JsBridge

import JsBridge.Method

/-!
# Marshalling, and what a call hands over

A `Codec` holds the element conversions of the `JavaType`s for an engine whose values are `V`;
both backends use one, with their own value type. The array conversions are built from the
element ones.

`javaArguments` and `jsArguments` are the abstract level: the argument vector spec §4.3 says a
call from JS hands to the Java method, and the argument sequence §4.4 says a call from Java hands
to the JS function. Each backend's `invoke` is proved to hand over exactly these. When the
element conversions round trip (`Codec.RoundTrips`), the two are inverse: a Java call passed to
JS and from there to Java arrives with its own arguments.
-/

namespace JsBridge

variable {T V : Type}

/-- The conversions of the `JavaType`s, which are not among the modelled sources. -/
structure Codec (T V : Type) where
  /-- `JavaType::toJava` (QuickJS) / `JavaType::pop` (Duktape): a script value to Java. -/
  toJava : T → V → Except Exn JValue
  /-- `JavaType::fromJava` (QuickJS) / `JavaType::push` (Duktape): a Java value to script. -/
  fromJava : T → JValue → Except Exn V

namespace Codec

/-- Modelled from the spec: `toJavaArray` / `popArray(count, true)` read script values into one
host array through the element type (an array marshaller "recursively delegates to its element
Marshaller"). -/
def toJavaArray (c : Codec T V) (t : T) (vs : List V) : Except Exn JValue :=
  JValue.array <$> vs.mapM (c.toJava t)

/-- Modelled from the spec: `fromJavaArray` / `pushArray(values, true)` write the elements of a
host array as script values through the element type. -/
def fromJavaArray (c : Codec T V) (t : T) (xs : List JValue) : Except Exn (List V) :=
  xs.mapM (c.fromJava t)

/-- What a Java value needs to cross to script through `t` and come back through `t'`: every
value `t` converts, `t'` converts back to the same value. The bridge's own code never checks
this; it is a property of the `JavaType`s. -/
def RoundTrips (c : Codec T V) (t t' : T) : Prop :=
  ∀ x v, c.fromJava t x = .ok v → c.toJava t' v = .ok x

/-- What the one Java value `x` needs to cross to script through `t` and come back through
`t'`: if `t` converts it, `t'` converts the result back to `x`. -/
def RoundTripsAt (c : Codec T V) (t t' : T) (x : JValue) : Prop :=
  ∀ v, c.fromJava t x = .ok v → c.toJava t' v = .ok x

end Codec

/-- The Java arguments of one call cross to script through the types of `sig` and come back
through those of `sig'`: each fixed argument through its parameter's two types, and, for a
varargs method, each element of the varargs array through the two element types. -/
def Signature.ArgsRoundTrip (c : Codec T V) (sig sig' : Signature T) (javaArgs : List JValue) :
    Prop :=
  (∀ i t t' x, i < sig.minArgs → sig.argumentTypes[i]? = some t →
    sig'.argumentTypes[i]? = some t' → javaArgs[i]? = some x → c.RoundTripsAt t t' x) ∧
  ∀ (hv : sig.isVarArgs = true) (hv' : sig'.isVarArgs = true),
    ∀ x ∈ (javaArgs.getLast?.bind JValue.arrayElements).getD [],
      c.RoundTripsAt (sig.varArgType hv) (sig'.varArgType hv') x

/-- Every two `JavaType`s the provider makes for one parameter, boxed or not, round trip. -/
def TypeProvider.RoundTrips {P : Type} (tp : TypeProvider P T) (c : Codec T V) : Prop :=
  ∀ p b b' t t', tp.makeUniqueType p b = .ok t → tp.makeUniqueType p b' = .ok t' →
    c.RoundTrips t t'

/-- Fixed parameter slot `i` of a call from JS: argument `i` converted by its type, or `null`
when the caller passed fewer arguments. -/
def fixedArgument (c : Codec T V) (argv : List V) (i : Nat) (t : T) : Except Exn JValue :=
  match argv[i]? with
  | some v => c.toJava t v
  | none => pure .null

/-- The fixed slots of a call from JS whose parameters have types `ts`: slot `i` per
`fixedArgument`. -/
def fixedJavaArguments (c : Codec T V) (argv : List V) (ts : List T) : Except Exn (List JValue) :=
  ts.enum.mapM fun p => fixedArgument c argv p.1 p.2

/-- The Java argument vector of a call from JS with arguments `argv` (spec §4.3): slot `i` of
the `minArgs` fixed ones per `fixedArgument`, and for a varargs method a last slot holding the
array of the trailing arguments `argv[minArgs..argc)`. The too-many check comes before. -/
def javaArguments (c : Codec T V) (sig : Signature T) (argv : List V) :
    Except Exn (List JValue) := do
  let fixed ← fixedJavaArguments c argv (sig.argumentTypes.take sig.minArgs)
  if h : sig.isVarArgs then
    let a ← c.toJavaArray (sig.varArgType h) (argv.drop sig.minArgs)
    pure (fixed ++ [a])
  else pure fixed

/-- The fixed (not varargs) arguments of a call from Java, each with its type. -/
def fixedArguments (sig : Signature T) (javaArgs : List JValue) : List (T × JValue) :=
  if sig.isVarArgs then sig.argumentTypes.dropLast.zip javaArgs.dropLast
  else sig.argumentTypes.zip javaArgs

/-- The elements of the varargs array converted by the element type; none for a method that is
not varargs. -/
def varArgElements (c : Codec T V) (sig : Signature T) (javaArgs : List JValue) :
    Except Exn (List V) :=
  if h : sig.isVarArgs then
    c.fromJavaArray (sig.varArgType h) ((javaArgs.getLast?.bind JValue.arrayElements).getD [])
  else pure []

/-- The JS arguments of a call from Java with arguments `javaArgs` (spec §4.4): each fixed
argument converted by its type, then for a varargs method the elements of the last (array)
argument converted by the element type and spread. -/
def jsArguments (c : Codec T V) (sig : Signature T) (javaArgs : List JValue) :
    Except Exn (List V) := do
  let fixed ← (fixedArguments sig javaArgs).mapM fun p => c.fromJava p.1 p.2
  let tail ← varArgElements c sig javaArgs
  pure (fixed ++ tail)

/-- What Java gets back from a call whose JS function returned `r` (spec §4.4, with §7 for a
JS error): a `JsException` carrying the error's message, or the value converted by the
`Deferred` type of the return parameter when awaiting a thenable and the declared return type is
not `Deferred` already (§4.5), by the declared return type otherwise. -/
def javaResult {P : Type} (c : Codec T V) (dt : DeferredTypes P T) (m : JavaScriptMethod P T)
    (awaitJsPromise : Bool) (thenable : V → Bool) (r : Except String V) : Except Exn JValue :=
  match r with
  | .error msg => .error (.jsException msg)
  | .ok v =>
    if awaitJsPromise && thenable v && !dt.isDeferred m.returnValueType then
      c.toJava (dt.getDeferredType m.returnValueParameter) v
    else c.toJava m.returnValueType v

/-- The arguments handed to JS, latest first, after one call from Java whose argument
conversion gave `args`: one more call with them, or none when a conversion failed. -/
def callsAfter (args : Except Exn (List V)) (calls : List (List V)) : List (List V) :=
  match args with
  | .ok zs => zs :: calls
  | .error _ => calls

/-! ## Walking the arguments in order

Both argument loops convert the fixed arguments one by one and then the varargs elements;
`restArguments` is what is left from fixed argument `i` on. -/

/-- The JS arguments still to be produced from fixed argument `i` on. -/
def restArguments (c : Codec T V) (sig : Signature T) (javaArgs : List JValue) (i : Nat) :
    Except Exn (List V) := do
  let fixed ← ((fixedArguments sig javaArgs).drop i).mapM fun p => c.fromJava p.1 p.2
  let tail ← varArgElements c sig javaArgs
  pure (fixed ++ tail)

section Rest

variable {c : Codec T V} {sig : Signature T} {javaArgs : List JValue} {i : Nat}

theorem restArguments_zero : restArguments c sig javaArgs 0 = jsArguments c sig javaArgs := rfl

theorem restArguments_step (h : i < (fixedArguments sig javaArgs).length) :
    restArguments c sig javaArgs i =
      (do
        let v ← c.fromJava (fixedArguments sig javaArgs)[i].1 (fixedArguments sig javaArgs)[i].2
        let r ← restArguments c sig javaArgs (i + 1)
        pure (v :: r)) := by
  simp only [restArguments, List.drop_eq_getElem_cons h, List.mapM_cons, bind_assoc, pure_bind]
  rfl

theorem restArguments_end (h : (fixedArguments sig javaArgs).length ≤ i) :
    restArguments c sig javaArgs i = varArgElements c sig javaArgs := by
  simp only [restArguments, List.drop_eq_nil_of_le h, List.mapM_nil, pure_bind, List.nil_append,
    bind_pure]

/-- One element converted, then the rest. -/
theorem mapM_cons_ok {α β : Type} {f : α → Except Exn β} {x : α} {xs : List α} {ys : List β}
    (h : (x :: xs).mapM f = .ok ys) :
    ∃ y ys', f x = .ok y ∧ xs.mapM f = .ok ys' ∧ ys = y :: ys' := by
  rw [List.mapM_cons] at h
  obtain ⟨y, hy, h⟩ := except_bind_eq_ok h
  obtain ⟨ys', hys', h⟩ := except_bind_eq_ok h
  exact ⟨y, ys', hy, hys', (Except.ok.inj h).symm⟩

theorem length_of_mapM_ok {α β : Type} {f : α → Except Exn β} :
    ∀ {xs : List α} {ys : List β}, xs.mapM f = .ok ys → ys.length = xs.length
  | [], ys, h => by cases h; rfl
  | x :: xs, ys, h => by
    obtain ⟨_, _, -, hrest, rfl⟩ := mapM_cons_ok h
    simp [length_of_mapM_ok hrest]

end Rest

section Fixed

variable {c : Codec T V} {argv : List V}

/-- The fixed slots are filled in order: one more parameter adds one slot at the end. -/
theorem fixedJavaArguments_concat (ts : List T) (t : T) :
    fixedJavaArguments c argv (ts ++ [t]) = (do
      let pre ← fixedJavaArguments c argv ts
      let v ← fixedArgument c argv ts.length t
      pure (pre ++ [v])) := by
  simp only [fixedJavaArguments, List.enum_append, List.enumFrom_singleton, List.mapM_append,
    List.mapM_cons, List.mapM_nil, bind_pure, bind_assoc, pure_bind]

/-- A failing slot fails the whole vector. -/
theorem fixedJavaArguments_append_error {ts : List T} {e : Exn} (ts' : List T)
    (h : fixedJavaArguments c argv ts = .error e) :
    fixedJavaArguments c argv (ts ++ ts') = .error e := by
  simp only [fixedJavaArguments, List.enum_append, List.mapM_append] at h ⊢
  rw [h]
  rfl

end Fixed

section Fit

variable {sig : Signature T} {javaArgs : List JValue}

theorem fixedArguments_length (hn : javaArgs.length = sig.argumentTypes.length) :
    (fixedArguments sig javaArgs).length = sig.minArgs := by
  unfold fixedArguments Signature.minArgs
  split <;> simp [hn]

theorem fixedArguments_getElem {i : Nat} (h : i < (fixedArguments sig javaArgs).length) (ht : i < sig.argumentTypes.length)
    (ha : i < javaArgs.length) :
    (fixedArguments sig javaArgs)[i] = (sig.argumentTypes[i], javaArgs[i]) := by
  unfold fixedArguments
  split <;> simp [List.getElem_dropLast]

/-- For a fitting argument array, a varargs method's last argument is a Java array. -/
theorem varArgs_elements {sig : Signature T} {javaArgs : List JValue}
    (hfit : sig.ArgsFit (some javaArgs)) (hv : sig.isVarArgs = true) :
    ∃ x es, javaArgs.getLast? = some x ∧ x.arrayElements = some es := by
  have h := hfit.2 hv
  cases hl : javaArgs.getLast? with
  | none => simp [hl] at h
  | some x =>
    cases he : x.arrayElements with
    | none => simp [hl, he] at h
    | some es => exact ⟨x, es, rfl, he⟩

/-- The number of JS arguments: the fixed ones and the varargs elements. -/
theorem jsArguments_length {c : Codec T V} {sig : Signature T} {javaArgs : List JValue}
    {zs : List V} (h : jsArguments c sig javaArgs = .ok zs) :
    zs.length = (fixedArguments sig javaArgs).length +
      if sig.isVarArgs then ((javaArgs.getLast?.bind JValue.arrayElements).getD []).length
      else 0 := by
  simp only [jsArguments, bind, Except.bind] at h
  split at h
  · cases h
  · rename_i fixed hfixed
    split at h
    · cases h
    · rename_i tail htail
      cases h
      rw [List.length_append, length_of_mapM_ok hfixed]
      unfold varArgElements at htail
      split at htail
      · next hv => simp [hv, length_of_mapM_ok htail]
      · next hv => cases htail; simp [hv]

end Fit

end JsBridge

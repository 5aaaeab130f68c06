import JetKvm.Library.Outcome
import JetKvm.Rpc.Conversion

/-!
# Calls of JSON-RPC handlers

A call takes the parameters of a handler from the parameters of a request by their names, one
after the other, and converts each of them. A parameter that is missing or cannot be converted
ends the call with an error, and null ends it with a panic. The check of the range of the elements
of a slice is never reached, as every number converts to every integer type, so that a number that
does not fit is altered without an error.
-/

namespace JetKvm.Rpc

/-- A handler: the types of the parameters of its function, or none when it is not a function,
and the names of its parameters. -/
structure RPCHandler (Struct : Type*) where
  func : Option (List (ParamType Struct))
  params : List String
  optionalParams : List String

/-- How structs are decoded: the zero value of a struct type, and the value that the fields of an
object are unmarshalled into. -/
structure StructCodec (Struct Value : Type*) where
  zero : Struct → Value
  unmarshal : Struct → List (String × Json) → Except String Value

variable {Struct Value : Type*}

/-- The zero value of a type. -/
def zeroArg (codec : StructCodec Struct Value) : ParamType Struct → Arg Value
  | .int _ => .int 0
  | .float32 | .float64 => .float 0
  | .bool => .bool false
  | .string => .string ""
  | .slice _ => .slice []
  | .struct type => .struct (codec.zero type)

/-- Converts an element of an array for a slice. -/
def sliceElement (p : Platform) (kind : IntKind) (paramName : String) : Json → Outcome Int
  | .null => .fault
  | elem =>
      match convertElement p kind elem with
      | some value => .value value
      | none =>
          match elem, kind with
          | .number x, .uint8 =>
              -- Not reached, as a number is convertible.
              let intValue := p.int x
              if intValue < 0 ∨ 255 < intValue then
                .error s!"value out of range for uint8: {intValue} for parameter {paramName}"
              else .value intValue
          | elem, kind =>
              .error (s!"invalid element type in slice for parameter {paramName}: " ++
                s!"from {elem.typeText} to {kind.text}")

/-- Converts a parameter to its type. -/
def convertParam (p : Platform) (codec : StructCodec Struct Value) (paramName : String)
    (paramType : ParamType Struct) : Json → Outcome (Arg Value)
  | .null => .fault
  | value =>
      match convert p value paramType with
      | some arg => .value arg
      | none =>
          match paramType, value with
          | .slice kind, .array elements =>
              (Outcome.traverse (sliceElement p kind paramName) elements).bind fun ns =>
                .value (.slice ns)
          | .struct type, .object fields =>
              match codec.unmarshal type fields with
              | .ok v => .value (.struct v)
              | .error err =>
                  .error s!"failed to unmarshal JSON into struct: {err} for parameter {paramName}"
          | paramType, _ =>
              .error s!"invalid parameter type for: {paramName}, type: {paramType.kind}"

/-- The argument for a parameter. -/
def paramArg (p : Platform) (codec : StructCodec Struct Value) (optionalParams : List String)
    (params : List (String × Json)) (q : ParamType Struct × String) : Outcome (Arg Value) :=
  match params.lookup q.2 with
  | some value => convertParam p codec q.2 q.1 value
  | none =>
      if q.2 ∈ optionalParams then .value (zeroArg codec q.1)
      else .error s!"missing parameter: {q.2}"

/-- The types of the parameters with their names. -/
def namedParams (handler : RPCHandler Struct) (types : List (ParamType Struct)) :
    List (ParamType Struct × String) :=
  types.zip (handler.params ++ handler.optionalParams)

/-- Calls a handler. The result has the arguments that the handler is called with; a fault is a
panic. -/
def riskyCallRPCHandler (p : Platform) (codec : StructCodec Struct Value)
    (handler : RPCHandler Struct) (params : List (String × Json)) : Outcome (List (Arg Value)) :=
  match handler.func with
  | none => .error "handler is not a function"
  | some types =>
      let allParamNames := handler.params ++ handler.optionalParams
      if allParamNames.length ≠ types.length then
        .error (s!"mismatch between handler parameters ({types.length}) " ++
          s!"and defined parameter names ({allParamNames.length})")
      else
        Outcome.traverse (paramArg p codec handler.optionalParams params)
          (namedParams handler types)

/-- Calls a handler and turns a panic into an error. -/
def callRPCHandler (p : Platform) (codec : StructCodec Struct Value)
    (handler : RPCHandler Struct) (params : List (String × Json)) : Outcome (List (Arg Value)) :=
  match riskyCallRPCHandler p codec handler params with
  | .fault => .error "reflect: call of reflect.Value.Type on zero Value"
  | outcome => outcome

/-! ### What is passed -/

/-- The argument is the number that was given, if its type is an integer type, and each element of
the argument is the number at its position, if its type is a slice. -/
def PassesGiven : ParamType Struct → Json → Arg Value → Prop
  | .int _, value, .int n => value = .number n
  | .int _, _, _ => False
  | .slice _, value, .slice ns =>
      ∀ (i : Nat) (n : Int), ns[i]? = some n →
        ∃ elements, value = .array elements ∧ elements[i]? = some (.number n)
  | .slice _, _, _ => False
  | _, _, _ => True

/-- The argument is what was given for a parameter, if its type has integers. -/
def PassesParam (params : List (String × Json)) (q : ParamType Struct × String)
    (arg : Arg Value) : Prop :=
  ∀ value, params.lookup q.2 = some value → PassesGiven q.1 value arg

/-- A call returns an error, or passes every number that was given for an integer parameter or for
an element of a slice. -/
def NeverAlters (handler : RPCHandler Struct) (params : List (String × Json)) :
    Outcome (List (Arg Value)) → Prop
  | .error _ => True
  | .fault => False
  | .value args =>
      ∀ types ∈ handler.func, List.Forall₂ (PassesParam params) (namedParams handler types) args

/-! ### What is given -/

/-- A value is of a JSON type that is converted to the type of a parameter. -/
def Converts (codec : StructCodec Struct Value) : ParamType Struct → Json → Prop
  | .int _, .number _ | .float32, .number _ | .float64, .number _ => True
  | .bool, .bool _ | .string, .string _ => True
  | .slice kind, .string _ => kind = .uint8 ∨ kind = .int32
  | .slice _, .array elements => ∀ e ∈ elements, ∃ x, e = .number x
  | .struct type, .object fields => ∃ v, codec.unmarshal type fields = .ok v
  | _, _ => False

/-- A value is null, or an array for a slice whose first element that is not a number is null. -/
def HitsNull : ParamType Struct → Json → Prop
  | _, .null => True
  | .slice _, .array elements =>
      ∃ numbers rest, elements = List.map Json.number numbers ++ .null :: rest
  | _, _ => False

/-- The numbers of a value fit into the type of a parameter. A string that is given for a slice
has no characters. -/
def NumbersFit (p : Platform) : ParamType Struct → Json → Prop
  | .int kind, .number x => Fits p kind x
  | .slice _, .string s => s = ""
  | .slice kind, .array elements => ∀ x, .number x ∈ elements → Fits p kind x
  | _, _ => True

/-- A parameter is converted, or missing and optional. -/
def Takes (codec : StructCodec Struct Value) (optionalParams : List String)
    (params : List (String × Json)) (q : ParamType Struct × String) : Prop :=
  match params.lookup q.2 with
  | some value => Converts codec q.1 value
  | none => q.2 ∈ optionalParams

/-- The conversion of a parameter meets null. -/
def MeetsNull (params : List (String × Json)) (q : ParamType Struct × String) : Prop :=
  ∃ value, params.lookup q.2 = some value ∧ HitsNull q.1 value

/-- A parameter is missing and not optional, or it has a value of another type. -/
def Refused (codec : StructCodec Struct Value) (optionalParams : List String)
    (params : List (String × Json)) (q : ParamType Struct × String) : Prop :=
  ¬ Takes codec optionalParams params q ∧ ¬ MeetsNull params q

/-- The numbers given for a parameter fit. -/
def ParamFits (p : Platform) (params : List (String × Json)) (q : ParamType Struct × String) :
    Prop :=
  ∀ value, params.lookup q.2 = some value → NumbersFit p q.1 value

/-- A call of a handler is refused for one of its parameters before it meets null, or it meets no
null and all numbers that are given fit. -/
def RefusedOrFit (p : Platform) (codec : StructCodec Struct Value) (handler : RPCHandler Struct)
    (params : List (String × Json)) : Prop :=
  ∀ types ∈ handler.func,
    (handler.params ++ handler.optionalParams).length = types.length →
    (∃ before q rest, namedParams handler types = before ++ q :: rest ∧
      Refused codec handler.optionalParams params q ∧ ∀ r ∈ before, ¬ MeetsNull params r) ∨
    ∀ q ∈ namedParams handler types, ¬ MeetsNull params q ∧ ParamFits p params q

variable {p : Platform} {codec : StructCodec Struct Value} {kind : IntKind} {paramName : String}
  {x : Rat} {e : Json} {elements : List Json} {optionalParams : List String}
  {params : List (String × Json)} {q : ParamType Struct × String} {handler : RPCHandler Struct}

/-! ### Elements of a slice -/

/-- A number is converted, whatever its value. -/
theorem sliceElement_number :
  sliceElement p kind paramName (.number x) = .value (convertInt p kind x)
  := rfl

theorem sliceElement_other (hnull : e ≠ .null) (hnumber : ∀ x, e ≠ .number x) :
  ∃ message, sliceElement p kind paramName e = .error message
  := by
  cases e with
  | null => exact absurd rfl hnull
  | number x => exact absurd rfl (hnumber x)
  | bool | string | array | object => exact ⟨_, rfl⟩

/-- An array consists of numbers, or it has a first element that is not a number. -/
theorem elements_cases (elements : List Json) :
  (∃ numbers, elements = List.map Json.number numbers) ∨
    ∃ numbers e rest, elements = List.map Json.number numbers ++ e :: rest ∧ ∀ x, e ≠ .number x
  := by
  induction elements with
  | nil => exact Or.inl ⟨[], rfl⟩
  | cons e rest ih =>
      cases e with
      | number x =>
          rcases ih with ⟨numbers, rfl⟩ | ⟨numbers, e, back, rfl, he⟩
          · exact Or.inl ⟨x :: numbers, rfl⟩
          · exact Or.inr ⟨x :: numbers, e, back, rfl, he⟩
      | null | bool | string | array | object =>
          right
          refine ⟨[], _, rest, rfl, ?_⟩
          intro x hx
          cases hx

/-- Numbers do not end the conversion of an array. -/
theorem sliceElement_numbers (numbers : List Rat) :
  ∀ c ∈ List.map Json.number numbers, ∃ n, sliceElement p kind paramName c = .value n
  := by
  intro c hc
  obtain ⟨x, -, rfl⟩ := List.mem_map.mp hc
  exact ⟨_, sliceElement_number⟩

theorem traverse_numbers (numbers : List Rat) :
  Outcome.traverse (sliceElement p kind paramName) (List.map Json.number numbers)
    = .value (numbers.map (convertInt p kind))
  := by
  induction numbers with
  | nil => rfl
  | cons x numbers ih =>
      rw [List.map_cons, Outcome.traverse, sliceElement_number, ih]
      rfl

/-- The numbers of an array are passed as given exactly when they fit. -/
theorem passesGiven_numbers (numbers : List Rat) :
  PassesGiven (.slice kind : ParamType Struct) (.array (List.map Json.number numbers))
      (.slice (numbers.map (convertInt p kind)) : Arg Value) ↔
    ∀ x, Json.number x ∈ List.map Json.number numbers → Fits p kind x
  := by
  simp only [PassesGiven, Json.array.injEq, exists_eq_left', List.getElem?_map]
  constructor
  · intro h x hx
    obtain ⟨y, hy, heq⟩ := List.mem_map.mp hx
    obtain rfl := Json.number.inj heq
    obtain ⟨i, hi⟩ := List.getElem?_of_mem hy
    have hpassed := h i (convertInt p kind y)
    rw [hi] at hpassed
    have hnumber := Option.some.inj (hpassed rfl)
    rw [← convertInt_eq_iff]
    exact (Json.number.inj hnumber).symm
  · intro h i n hn
    obtain ⟨x, hx, rfl⟩ := Option.map_eq_some_iff.mp hn
    have hfits := h x (List.mem_map_of_mem (List.mem_of_getElem? hx))
    rw [hx, Option.map_some, convertInt_eq_iff.mpr hfits]

/-! ### One parameter -/

/-- The slice of a string without characters has no elements. -/
theorem passesGiven_string {s : String} {ns : List Int} (h : ns = [] ↔ s = "") :
  PassesGiven (.slice kind : ParamType Struct) (.string s) (.slice ns : Arg Value) ↔ s = ""
  := by
  rw [← h]
  constructor
  · intro hpassed
    cases ns with
    | nil => rfl
    | cons n ns =>
        obtain ⟨elements, hstring, -⟩ := hpassed 0 n rfl
        cases hstring
  · rintro rfl i n hn
    cases hn

theorem toList_eq_nil_iff {s : String} :
  s.toList = [] ↔ s = ""
  := by
  simp

/-- Every character has bytes. -/
theorem bytes_eq_nil_iff {s : String} :
  s.toList.flatMap String.utf8EncodeChar = [] ↔ s = ""
  := by
  rw [List.flatMap_eq_nil_iff, ← toList_eq_nil_iff, List.eq_nil_iff_forall_not_mem]
  apply forall₂_congr
  intro c _
  apply iff_of_false
  · apply String.utf8EncodeChar_ne_nil
  · apply not_false

/-- A value of a type that is converted is passed as it was given exactly when its numbers fit. -/
theorem convertParam_of_converts {t : ParamType Struct} {value : Json}
    (h : Converts codec t value) :
  ∃ arg, convertParam p codec paramName t value = .value arg ∧
    (PassesGiven t value arg ↔ NumbersFit p t value)
  := by
  cases t with
  | int kind =>
      cases value with
      | number x =>
          refine ⟨_, rfl, ?_⟩
          rw [NumbersFit, ← convertInt_eq_iff, eq_comm, PassesGiven, Json.number.injEq]
      | null | bool | string | array | object => cases h
  | float32 | float64 =>
      cases value with
      | number x => exact ⟨_, rfl, Iff.rfl⟩
      | null | bool | string | array | object => cases h
  | bool =>
      cases value with
      | bool b => exact ⟨_, rfl, Iff.rfl⟩
      | null | number | string | array | object => cases h
  | string =>
      cases value with
      | string s => exact ⟨_, rfl, Iff.rfl⟩
      | null | number | bool | array | object => cases h
  | slice kind =>
      cases value with
      | string s =>
          rcases h with rfl | rfl
          · refine ⟨_, rfl, passesGiven_string ?_⟩
            rw [List.map_eq_nil_iff, bytes_eq_nil_iff]
          · refine ⟨_, rfl, passesGiven_string ?_⟩
            rw [List.map_eq_nil_iff, toList_eq_nil_iff]
      | array elements =>
          rcases elements_cases elements with ⟨numbers, rfl⟩ | ⟨numbers, e, rest, rfl, he⟩
          · refine ⟨_, ?_, passesGiven_numbers numbers⟩
            simp only [convertParam, convert, traverse_numbers]
            rfl
          · obtain ⟨x, hx⟩ := h e (by simp)
            exact absurd hx (he x)
      | null | number | bool | object => cases h
  | struct type =>
      cases value with
      | object fields =>
          obtain ⟨v, hv⟩ := h
          use .struct v
          simp only [convertParam, convert, hv]
          exact ⟨trivial, Iff.rfl⟩
      | null | number | bool | string | array => cases h

/-- Null ends the conversion with a panic. -/
theorem convertParam_of_hitsNull {t : ParamType Struct} {value : Json} (h : HitsNull t value) :
  convertParam p codec paramName t value = .fault
  := by
  cases value with
  | null => rfl
  | array elements =>
      cases t with
      | slice kind =>
          obtain ⟨numbers, rest, rfl⟩ := h
          have hfault : Outcome.traverse (sliceElement p kind paramName)
              (List.map Json.number numbers ++ .null :: rest) = .fault :=
            Outcome.traverse_of_fault (sliceElement_numbers numbers) rfl
          simp only [convertParam, convert, hfault]
          rfl
      | int | float32 | float64 | bool | string | struct => cases h
  | bool | number | string | object => cases h

/-- The first element of an array that is no number, nor null, ends the conversion with an
error. -/
theorem convertParam_slice_other {kind : IntKind} {numbers : List Rat} {e : Json}
    {rest : List Json} (hnull : e ≠ .null) (hnumber : ∀ x, e ≠ .number x) :
  ∃ message, convertParam p codec paramName (.slice kind)
    (.array (numbers.map Json.number ++ e :: rest)) = .error message
  := by
  obtain ⟨message, hmessage⟩ := sliceElement_other hnull hnumber
  have hnumbers : ∀ c ∈ numbers.map Json.number, sliceElement p kind paramName c ≠ .fault := by
    intro c hc
    obtain ⟨n, hn⟩ := sliceElement_numbers numbers c hc
    rw [hn]
    apply Outcome.safe_value
  have herror : ∃ first, Outcome.traverse (sliceElement p kind paramName)
      (numbers.map Json.number ++ e :: rest) = .error first :=
    Outcome.traverse_of_error hnumbers hmessage
  obtain ⟨first, hfirst⟩ := herror
  use first
  simp only [convertParam, convert, hfirst]
  rfl

/-- Every other value ends it with an error. -/
theorem convertParam_of_not {t : ParamType Struct} {value : Json}
    (hconverts : ¬ Converts codec t value) (hnull : ¬ HitsNull t value) :
  ∃ message, convertParam p codec paramName t value = .error message
  := by
  cases t with
  | int kind =>
      cases value with
      | null => exact absurd trivial hnull
      | number x => exact absurd trivial hconverts
      | bool | string | array | object => exact ⟨_, rfl⟩
  | float32 | float64 =>
      cases value with
      | null => exact absurd trivial hnull
      | number x => exact absurd trivial hconverts
      | bool | string | array | object => exact ⟨_, rfl⟩
  | bool =>
      cases value with
      | null => exact absurd trivial hnull
      | bool b => exact absurd trivial hconverts
      | number | string | array | object => exact ⟨_, rfl⟩
  | string =>
      cases value with
      | null => exact absurd trivial hnull
      | string s => exact absurd trivial hconverts
      | number | bool | array | object => exact ⟨_, rfl⟩
  | slice kind =>
      cases value with
      | null => exact absurd trivial hnull
      | number | bool | object => exact ⟨_, rfl⟩
      | string s =>
          cases kind with
          | uint8 => exact absurd (Or.inl rfl) hconverts
          | int32 => exact absurd (Or.inr rfl) hconverts
          | _ => exact ⟨_, rfl⟩
      | array elements =>
          rcases elements_cases elements with ⟨numbers, rfl⟩ | ⟨numbers, e, rest, rfl, he⟩
          · apply absurd _ hconverts
            intro e he
            obtain ⟨x, -, rfl⟩ := List.mem_map.mp he
            exact ⟨x, rfl⟩
          · have hother : e ≠ .null := by
              rintro rfl
              exact hnull ⟨numbers, rest, rfl⟩
            apply convertParam_slice_other hother he
  | struct type =>
      cases value with
      | null => exact absurd trivial hnull
      | object fields =>
          cases hdecoded : codec.unmarshal type fields with
          | ok v => exact absurd ⟨v, hdecoded⟩ hconverts
          | error err =>
              simp only [convertParam, convert, hdecoded]
              exact ⟨_, rfl⟩
      | number | bool | string | array => exact ⟨_, rfl⟩

/-- The argument for a parameter that is taken is what was given exactly when its numbers fit. -/
theorem paramArg_of_takes (h : Takes codec optionalParams params q) :
  ∃ arg, paramArg p codec optionalParams params q = .value arg ∧
    (PassesParam params q arg ↔ ParamFits p params q)
  := by
  rw [Takes] at h
  simp only [paramArg, PassesParam, ParamFits]
  cases hvalue : params.lookup q.2 with
  | none =>
      rw [hvalue] at h
      use zeroArg codec q.1
      dsimp only at h ⊢
      rw [if_pos h]
      simp
  | some value =>
      rw [hvalue] at h
      have hconverted : ∃ arg, convertParam p codec q.2 q.1 value = .value arg ∧
          (PassesGiven q.1 value arg ↔ NumbersFit p q.1 value) := convertParam_of_converts h
      obtain ⟨arg, harg, hpasses⟩ := hconverted
      use arg, harg
      simp only [Option.some.injEq, forall_eq']
      apply hpasses

theorem paramArg_of_meetsNull (h : MeetsNull params q) :
  paramArg p codec optionalParams params q = .fault
  := by
  obtain ⟨value, hvalue, hnull⟩ := h
  rw [paramArg, hvalue]
  apply convertParam_of_hitsNull hnull

theorem paramArg_of_refused (h : Refused codec optionalParams params q) :
  ∃ message, paramArg p codec optionalParams params q = .error message
  := by
  obtain ⟨htakes, hnull⟩ := h
  rw [Takes] at htakes
  rw [paramArg]
  cases hvalue : params.lookup q.2 with
  | none =>
      rw [hvalue] at htakes
      dsimp only at htakes ⊢
      rw [if_neg htakes]
      exact ⟨_, rfl⟩
  | some value =>
      rw [hvalue] at htakes
      apply convertParam_of_not htakes
      intro hits
      exact hnull ⟨value, hvalue, hits⟩

/-- A parameter meets null exactly when its conversion panics. -/
theorem paramArg_eq_fault_iff :
  paramArg p codec optionalParams params q = .fault ↔ MeetsNull params q
  := by
  constructor
  · intro hfault
    by_contra hnull
    by_cases htakes : Takes codec optionalParams params q
    · obtain ⟨arg, harg, -⟩ := paramArg_of_takes (p := p) htakes
      rw [hfault] at harg
      cases harg
    · obtain ⟨message, hmessage⟩ := paramArg_of_refused (p := p) ⟨htakes, hnull⟩
      rw [hfault] at hmessage
      cases hmessage
  · apply paramArg_of_meetsNull

/-! ### The call -/

/-- The arguments for parameters that are all converted are what was given exactly when all
numbers fit. -/
theorem forall₂_passes_iff {named : List (ParamType Struct × String)} {args : List (Arg Value)}
    (h : List.Forall₂ (fun q arg => paramArg p codec optionalParams params q = .value arg)
      named args) :
  List.Forall₂ (PassesParam params) named args ↔ ∀ q ∈ named, ParamFits p params q
  := by
  induction h with
  | nil => simp
  | @cons q arg named args harg _ ih =>
      have hfits : PassesParam params q arg ↔ ParamFits p params q := by
        by_cases htakes : Takes codec optionalParams params q
        · obtain ⟨arg', harg', hiff⟩ := paramArg_of_takes (p := p) htakes
          rw [harg] at harg'
          obtain rfl := Outcome.value.inj harg'
          apply hiff
        · by_cases hnull : MeetsNull params q
          · rw [paramArg_of_meetsNull hnull] at harg
            cases harg
          · obtain ⟨message, hmessage⟩ := paramArg_of_refused (p := p) ⟨htakes, hnull⟩
            rw [hmessage] at harg
            cases harg
      rw [List.forall₂_cons, List.forall_mem_cons, hfits, ih]

/-- A parameter that ends the conversion with an error is refused. -/
theorem refused_of_error {message : String}
    (h : paramArg p codec optionalParams params q = .error message) :
  Refused codec optionalParams params q
  := by
  constructor
  · intro htakes
    obtain ⟨arg, harg, -⟩ := paramArg_of_takes (p := p) htakes
    rw [h] at harg
    cases harg
  · intro hnull
    rw [paramArg_of_meetsNull hnull] at h
    cases h

/-- A parameter that is refused ends the conversion with an error when no parameter before it
meets null. -/
theorem traverse_of_refused {before rest : List (ParamType Struct × String)}
    (hrefused : Refused codec optionalParams params q)
    (hbefore : ∀ r ∈ before, ¬ MeetsNull params r) :
  ∃ message, Outcome.traverse (paramArg p codec optionalParams params) (before ++ q :: rest)
    = .error message
  := by
  obtain ⟨message, hmessage⟩ := paramArg_of_refused (p := p) hrefused
  apply Outcome.traverse_of_error _ hmessage
  intro r hr hfault
  exact hbefore r hr (paramArg_eq_fault_iff.mp hfault)

/-- What becomes of the conversion of the parameters in turn. -/
theorem traverse_iff (named : List (ParamType Struct × String)) :
  (match Outcome.traverse (paramArg p codec optionalParams params) named with
    | .error _ => True
    | .fault => False
    | .value args => List.Forall₂ (PassesParam params) named args) ↔
    (∃ before q rest, named = before ++ q :: rest ∧ Refused codec optionalParams params q ∧
        ∀ r ∈ before, ¬ MeetsNull params r) ∨
      ∀ q ∈ named, ¬ MeetsNull params q ∧ ParamFits p params q
  := by
  cases houtcome : Outcome.traverse (paramArg p codec optionalParams params) named with
  | value args =>
      have hnull : ∀ q ∈ named, ¬ MeetsNull params q := by
        intro q hq hmeets
        obtain ⟨arg, harg⟩ := Outcome.exists_value_of_traverse houtcome q hq
        rw [paramArg_of_meetsNull hmeets] at harg
        cases harg
      dsimp only
      rw [forall₂_passes_iff (Outcome.traverse_eq_value houtcome)]
      constructor
      · intro hfits
        right
        intro q hq
        exact ⟨hnull q hq, hfits q hq⟩
      · rintro (⟨before, q, rest, rfl, hrefused, hbefore⟩ | hall)
        · obtain ⟨message, hmessage⟩ := traverse_of_refused (p := p) hrefused hbefore
          rw [hmessage] at houtcome
          cases houtcome
        · exact fun q hq => (hall q hq).2
  | error message =>
      apply iff_of_true trivial
      obtain ⟨before, q, rest, rfl, hbefore, hq⟩ := Outcome.traverse_eq_error houtcome
      left
      refine ⟨before, q, rest, rfl, refused_of_error hq, ?_⟩
      intro r hr hmeets
      exact hbefore r hr (paramArg_of_meetsNull hmeets)
  | fault =>
      apply iff_of_false not_false
      obtain ⟨q, hq, hfault⟩ := Outcome.traverse_eq_fault houtcome
      rintro (⟨before, q', rest, rfl, hrefused, hbefore⟩ | hall)
      · obtain ⟨message, hmessage⟩ := traverse_of_refused (p := p) hrefused hbefore
        rw [hmessage] at houtcome
        cases houtcome
      · exact (hall q hq).1 (paramArg_eq_fault_iff.mp hfault)

/-- A call passes the numbers that are given, or returns an error, exactly when it is refused
before it meets null, or it meets no null and all numbers fit. -/
theorem neverAlters_iff (p : Platform) (codec : StructCodec Struct Value)
    (handler : RPCHandler Struct) (params : List (String × Json)) :
  NeverAlters handler params (riskyCallRPCHandler p codec handler params) ↔
    RefusedOrFit p codec handler params
  := by
  rw [riskyCallRPCHandler, RefusedOrFit]
  cases hfunc : handler.func with
  | none =>
      apply iff_of_true trivial
      intro types htypes
      cases htypes
  | some types =>
      simp only [Option.mem_some_iff, forall_eq']
      by_cases hlength : (handler.params ++ handler.optionalParams).length = types.length
      · rw [if_neg (not_not_intro hlength), imp_iff_right hlength, ← traverse_iff]
        cases houtcome : Outcome.traverse (paramArg p codec handler.optionalParams params)
            (namedParams handler types) with
        | value args => simp [NeverAlters, hfunc]
        | error message => exact Iff.rfl
        | fault => exact Iff.rfl
      · rw [if_pos hlength]
        exact iff_of_true trivial fun hsame => absurd hsame hlength

/-- A panic does not leave `callRPCHandler`. -/
theorem safe_callRPCHandler (p : Platform) (codec : StructCodec Struct Value)
    (handler : RPCHandler Struct) (params : List (String × Json)) :
  (callRPCHandler p codec handler params).Safe
  := by
  rw [callRPCHandler]
  cases riskyCallRPCHandler p codec handler params with
  | value args => apply Outcome.safe_value
  | error message => apply Outcome.safe_error
  | fault => apply Outcome.safe_error

/-! ### The dispatch table -/

def keypressReport : RPCHandler Empty where
  func := some [.int .uint8, .bool]
  params := ["key", "press"]
  optionalParams := []

/-- The entries of the table of handlers that take integers. -/
def rpcHandlers : List (String × RPCHandler Empty) :=
  [("keyboardReport", ⟨some [.int .uint8, .slice .uint8], ["modifier", "keys"], []⟩),
    ("keypressReport", keypressReport),
    ("absMouseReport", ⟨some [.int .int, .int .int, .int .uint8], ["x", "y", "buttons"], []⟩),
    ("relMouseReport", ⟨some [.int .int8, .int .int8, .int .uint8], ["dx", "dy", "buttons"], []⟩),
    ("wheelReport", ⟨some [.int .int8, .int .int8], ["wheelY", "wheelX"], []⟩),
    ("setVideoSleepMode", ⟨some [.int .int], ["duration"], []⟩),
    ("startStorageFileUpload", ⟨some [.string, .int .int64], ["filename", "size"], []⟩),
    ("setDCRestoreState", ⟨some [.int .int], ["state"], []⟩)]

/-- Every entry names the parameters of its function. -/
theorem rpcHandlers_named :
  ∀ e ∈ rpcHandlers, e.2.func.map List.length = some (e.2.params ++ e.2.optionalParams).length
  := by
  simp [rpcHandlers, keypressReport]

/-- A platform on which integers that do not fit into 64 bits wrap around. -/
def Platform.wrapping : Platform where
  intBits := 32
  intBits_eq := Or.inl rfl
  int64 x := BitVec.ofInt 64 (truncate x)
  uint64 x := BitVec.ofInt 64 (truncate x)
  int64_eq x h := BitVec.toInt_ofInt_eq_self (by decide) h.1 h.2
  uint64_eq x h := by
    obtain ⟨hlow, hhigh⟩ := h
    rw [BitVec.toNat_ofInt]
    omega
  int := truncate
  float32 x := x

/-- The key 300 is passed to `keypressReport` as the key 44. -/
theorem key_altered :
  ¬ ∀ (p : Platform) (codec : StructCodec Empty Empty) (handler : RPCHandler Empty)
      (params : List (String × Json)),
    NeverAlters handler params (riskyCallRPCHandler p codec handler params)
  := by
  intro claim
  let codec : StructCodec Empty Empty := ⟨id, fun type => type.elim⟩
  let params : List (String × Json) := [("key", .number 300), ("press", .bool true)]
  have hpassed := claim Platform.wrapping codec keypressReport params
  have hcall : riskyCallRPCHandler Platform.wrapping codec keypressReport params
      = .value [.int 44, .bool true] := rfl
  rw [hcall] at hpassed
  obtain ⟨hkey, -⟩ := List.forall₂_cons.mp (hpassed _ rfl)
  have hnumber := Json.number.inj (hkey (.number 300) rfl)
  revert hnumber
  decide

end JetKvm.Rpc

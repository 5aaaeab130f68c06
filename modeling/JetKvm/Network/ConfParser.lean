import JetKvm.Library.Outcome
import JetKvm.Network.ParseAddr

/-!
# Defaults and checks of configurations

The package `confparser`, an interpreter of the tags of a struct. Reflection gives a struct as the
list of its fields, each with its name, its type, its tags and its value. A pointer of the struct
points at a struct of the type `P`, whose own checks are a parameter of the interpreter. Go ranges
over its maps in any order. A fault is a panic of the runtime. What is left of a struct that does
not pass is not modelled.
-/

namespace JetKvm.ConfParser

open Network

/-- `null.String`. -/
structure NullString where
  string : String
  valid : Bool
deriving DecidableEq

/-- `null.Int`. -/
structure NullInt where
  int64 : ℤ
  valid : Bool
deriving DecidableEq

/-- `null.Bool`. -/
structure NullBool where
  bool : Bool
  valid : Bool
deriving DecidableEq

/-- The value of a field, by its type. -/
inductive Value (P : Type) where
  | string (s : String)
  | nullString (s : NullString)
  | strings (slice : List String)
  | int (n : ℤ)
  | nullInt (n : NullInt)
  | bool (b : Bool)
  | nullBool (b : NullBool)
  | pointer (target : Option P)
deriving DecidableEq

/-- The tags of a field, each empty when the field does not have it. -/
structure Tag where
  default : String := ""
  oneOf : String := ""
  validateType : String := ""
  required : String := ""
  requiredIf : String := ""
deriving DecidableEq

/-- What reflection gives of one field of a struct. -/
structure Field (P : Type) where
  name : String
  type : String
  value : Value P
  tag : Tag := {}
deriving DecidableEq

/-- A struct, the list of its fields. -/
abbrev Struct (P : Type) : Type :=
  List (Field P)

structure FieldConfig (P : Type) where
  name : String
  required : Bool
  requiredIf : List (String × String)
  oneOf : List String
  validateTypes : List String
  defaults : Option (Value P)
  isEmpty : Bool
  currentValue : Value P
  typeString : String
  delegated : Bool
  shouldUpdateValue : Bool

/-- The functions that read other texts, none of which matters for addresses: `idna.Lookup.ToASCII`,
`net.ParseMAC` and `url.Parse`, the last with the scheme and the host of the result. -/
structure TextParsers where
  toASCII : String → Bool
  parseMAC : String → Bool
  parseURL : String → Option (String × String)

/-- The orders in which Go ranges over maps. -/
structure RangeOrder where
  range {α : Type} : List α → List α
  perm {α : Type} (entries : List α) : (range entries).Perm entries

/-! ### Texts -/

/-- `strings.Split` at commas. -/
def splitComma (s : String) : List String :=
  (s.toList.splitOn ',').map String.ofList

def splitString (s : String) : List String :=
  if s = "" then [] else splitComma s

/-- `strings.SplitN` at an equality sign, into two parts at most. -/
def splitEq (s : String) : Option (String × String) :=
  match s.toList.dropWhile (· ≠ '=') with
  | [] => none
  | _ :: value => some (String.ofList (s.toList.takeWhile (· ≠ '=')), String.ofList value)

/-- `strconv.ParseBool`. -/
def parseBool (s : String) : Option Bool :=
  if s ∈ ["1", "t", "T", "true", "TRUE", "True"] then some true
  else if s ∈ ["0", "f", "F", "false", "FALSE", "False"] then some false
  else none

/-- `strconv.Atoi`, of 64 bits. -/
def atoi (s : String) : Option ℤ :=
  let (negative, digits) :=
    match s.toList with
    | '-' :: rest => (true, rest)
    | '+' :: rest => (false, rest)
    | rest => (false, rest)
  let n : ℤ := digits.foldl (fun n c => n * 10 + digitValue c) 0
  let n := if negative then -n else n
  if digits = [] ∨ ¬ digits.all Char.isDigit then none
  else if n < -9223372036854775808 ∨ 9223372036854775807 < n then none
  else some n

/-! ### The fields of a struct -/

variable {P : Type}

/-- The default value of a field, if it has one. -/
def fieldDefaults (field : Field P) : Outcome (Option (Value P)) :=
  if field.tag.default = "" then .value none
  else
    match field.value with
    | .string _ | .nullString _ => .value (some (.string field.tag.default))
    | .strings _ => .value (some (.strings (splitComma field.tag.default)))
    | .int _ | .nullInt _ =>
        match atoi field.tag.default with
        | some n => .value (some (.int n))
        | none =>
            .error s!"invalid default value for field `{field.name}`: {field.tag.default}"
    | .bool _ | .nullBool _ =>
        match parseBool field.tag.default with
        | some b => .value (some (.bool b))
        | none =>
            .error s!"invalid default value for field `{field.name}`: {field.tag.default}"
    | .pointer _ =>
        .error s!"field `{field.name}` cannot use default value: unsupported type: {field.type}"

/-- A null value that is not valid, an empty list or a nil pointer. -/
def Value.isEmpty : Value P → Bool
  | .nullString s => !s.valid
  | .nullInt n => !n.valid
  | .nullBool b => !b.valid
  | .strings slice => slice = []
  | .pointer target => target.isNone
  | .string _ | .int _ | .bool _ => false

def Value.isDelegated : Value P → Bool
  | .pointer target => target.isSome
  | _ => false

def Value.canUseOneOf : Value P → Bool
  | .string _ | .nullString _ | .strings _ => true
  | _ => false

/-- Writing an entry of a map. -/
def insertEntry (entries : List (String × String)) (entry : String × String) :
    List (String × String) :=
  entries.filter (fun other => other.1 ≠ entry.1) ++ [entry]

/-- The entries of the tag `required_if`. -/
def fieldRequiredIf (field : Field P) : Outcome (List (String × String)) :=
  if field.tag.requiredIf = "" then .value []
  else
    match (splitComma field.tag.requiredIf).mapM splitEq with
    | some parts => .value (parts.foldl insertEntry [])
    | none =>
        .error s!"invalid required_if for field `{field.name}`: {field.tag.requiredIf}"

/-- The configuration of a field, of which the first loop of `setDefaultsAndValidate` makes a
map. -/
def fieldConfig (field : Field P) : Outcome (FieldConfig P) := do
  let defaults ← fieldDefaults field
  let requiredIf ← fieldRequiredIf field
  if ¬ field.value.canUseOneOf ∧ splitString field.tag.oneOf ≠ [] then
    .error s!"field `{field.name}` cannot use one_of: unsupported type: {field.type}"
  else
    .value
      { name := field.name
        required := (parseBool field.tag.required).getD false
        requiredIf := requiredIf
        oneOf := splitString field.tag.oneOf
        validateTypes := splitString field.tag.validateType
        defaults := defaults
        isEmpty := field.value.isEmpty
        currentValue := field.value
        typeString := field.type
        delegated := field.value.isDelegated
        shouldUpdateValue := false }

namespace FieldConfig

variable (f : FieldConfig P) (fields : List (FieldConfig P)) (parsers : TextParsers)
  (order : RangeOrder)

/-- The value of a field is the one that an entry of `required_if` names. The texts of the tag are
no numbers, so that comparing a number with one is a panic. -/
def matchesRequiredIf (currentValue : Value P) (value : String) : Outcome Bool :=
  match currentValue with
  | .string s => .value (s = value)
  | .int _ => .fault
  | .nullString s => .value (s.valid && s.string = value)
  | .nullInt n => if n.valid then .fault else .value false
  | _ => .value false

/-- The loop over the entries of `required_if`, up to the first that matches. -/
def requiredByEntries : List (String × String) → Outcome Bool
  | [] => .value false
  | (key, value) :: rest =>
      match fields.find? fun other => other.name = key with
      | none => .error s!"required_if field `{key}` not found"
      | some requiredField => do
          let required ← matchesRequiredIf requiredField.currentValue value
          if required then .value true else requiredByEntries rest

/-- The tag `required`, else the entries of `required_if`. -/
def isRequired : Outcome Bool :=
  if f.required then .value true else requiredByEntries fields (order.range f.requiredIf)

def validateRequired : Outcome Bool := do
  let required ← f.isRequired fields order
  if required && f.isEmpty then .error s!"field `{f.name}` is required"
  else .value required

/-- An empty field that has a default is given it. -/
def checkIfFieldNeedsUpdate : Outcome (FieldConfig P) :=
  if ¬ f.isEmpty then .value f
  else
    match f.defaults with
    | none => .value f
    | some defaults =>
        let update (value : Value P) : Outcome (FieldConfig P) :=
          .value { f with currentValue := value, shouldUpdateValue := true }
        match f.currentValue, defaults with
        | .nullString _, .string s => update (.nullString ⟨s, true⟩)
        | .nullInt _, .int n => update (.nullInt ⟨n, true⟩)
        | .nullBool _, .bool b => update (.nullBool ⟨b, true⟩)
        | .string _, .string s => update (.string s)
        | .int _, .int n => update (.int n)
        | .bool _, .bool b => update (.bool b)
        | .strings _, .strings slice => update (.strings slice)
        | _, _ =>
            .error s!"field `{f.name}` cannot use default value: unsupported type: {f.typeString}"

/-- One of the allowed values is in the slice. -/
def checkIfSliceContains (slice oneOf : List String) : Bool :=
  oneOf.any fun value => value ∈ slice

def validateOneOf : Outcome Unit :=
  if f.oneOf = [] then .value ()
  else
    let check (val : List String) : Outcome Unit :=
      if checkIfSliceContains val f.oneOf then .value ()
      else
        let allowed := ", ".intercalate f.oneOf
        let current := ", ".intercalate val
        .error s!"field `{f.name}` is not one of the allowed values: {allowed}, current value: {current}"
    match f.currentValue with
    | .string s => check [s]
    | .nullString s => check [s.string]
    | .strings slice => check slice
    | _ => .error s!"field `{f.name}` cannot use one_of: unsupported type: {f.typeString}"

/-- One case of `validateSingleValue`. -/
def validateType (fieldRef val validateType : String) : Outcome Unit :=
  let check (passes : Bool) (message : String) : Outcome Unit :=
    if passes then .value () else .error message
  match validateType with
  | "int" =>
      check (atoi val).isSome s!"field `{fieldRef}` is not a valid integer: {val}"
  | "ipv6_prefix_length" =>
      check ((atoi val).any fun n => 0 ≤ n ∧ n ≤ 128)
        s!"field `{fieldRef}` is not a valid IPv6 prefix length: {val}"
  | "ipv4" =>
      check ((parseIP val.toList).bind IP.to4).isSome
        s!"field `{fieldRef}` is not a valid IPv4 address: {val}"
  | "ipv6" =>
      check ((parseIP val.toList).bind IP.to16).isSome
        s!"field `{fieldRef}` is not a valid IPv6 address: {val}"
  | "ipv6_prefix" =>
      -- no address is returned with an error, so that there is none of sixteen bytes
      check (parseCIDR val.toList).isSome
        s!"field `{fieldRef}` is not a valid IPv6 prefix: {val}"
  | "ipv4_or_ipv6" =>
      check (parseIP val.toList).isSome
        s!"{fieldRef} is not a valid IPv4 or IPv6 address: {val}"
  | "hwaddr" =>
      check (parsers.parseMAC val) s!"{fieldRef} is not a valid MAC address: {val}"
  | "hostname_or_ipv4_or_ipv6" =>
      check ((parseIP val.toList).isSome || parsers.toASCII val)
        s!"{fieldRef} is not a valid hostname, IPv4 or IPv6 address: {val}"
  | "hostname" =>
      check (parsers.toASCII val) s!"{fieldRef} is not a valid hostname: {val}"
  | "proxy" =>
      check ((parsers.parseURL val).any fun url =>
        (url.1 = "http" ∨ url.1 = "https") ∧ url.2 ≠ "")
        s!"{fieldRef} is not a valid HTTP proxy URL: {val}"
  | "url" =>
      check (parsers.parseURL val).isSome s!"{fieldRef} is not a valid URL: {val}"
  | "cidr" =>
      check (parseCIDR val.toList).isSome s!"{fieldRef} is not a valid CIDR notation: {val}"
  | _ =>
      .error
        s!"field `{fieldRef}` cannot use validate_type: unsupported validator: {validateType}"

/-- The steps on the items of a list, up to the first that fails. -/
def forEach {α : Type} (step : α → Outcome Unit) : List α → Outcome Unit
  | [] => .value ()
  | item :: rest => do
      step item
      forEach step rest

/-- The index is that of an item of a list. -/
def fieldRef (index : Option ℕ) : String :=
  match index with
  | some i => s!"field `{f.name}[{i}]`"
  | none => s!"field `{f.name}`"

def validateSingleValue (val : String) (index : Option ℕ) : Outcome Unit :=
  forEach (validateType parsers (f.fieldRef index) val) f.validateTypes

def validateField : Outcome Unit :=
  if f.validateTypes = [] ∨ f.isEmpty then .value ()
  else
    match f.currentValue with
    | .strings slice =>
        forEach (fun item => f.validateSingleValue parsers item.1 (some item.2)) slice.zipIdx
    | .string val | .nullString ⟨val, _⟩ =>
        if val = "" then .value () else f.validateSingleValue parsers val none
    | _ =>
        .error s!"field `{f.name}` cannot use validate_type: unsupported type: {f.typeString}"

/-- The struct of a pointer that is required is validated in place. -/
def validateDelegated (nested : P → Outcome P) (required : Bool) : Outcome (FieldConfig P) :=
  match f.currentValue with
  | .pointer (some target) =>
      if required && f.delegated then do
        let target' ← nested target
        .value { f with currentValue := .pointer (some target') }
      else .value f
  | _ => .value f

def validate (nested : P → Outcome P) : Outcome (FieldConfig P) := do
  let required ← f.validateRequired fields order
  let f ← f.checkIfFieldNeedsUpdate
  f.validateOneOf
  f.validateField parsers
  f.validateDelegated nested required

/-- The value is written to the field of its name, if it has been updated. The struct of a pointer
has been updated in place. -/
def populate (config : Struct P) : Struct P :=
  if f.shouldUpdateValue || f.delegated then
    config.map fun field =>
      if field.name = f.name then { field with value := f.currentValue } else field
  else config

end FieldConfig

/-- The loop over the fields. -/
def validateFields (parsers : TextParsers) (order : RangeOrder) (nested : P → Outcome P)
    (fields : List (FieldConfig P)) :
    List (FieldConfig P) → Struct P → Outcome (Struct P)
  | [], config => .value config
  | f :: rest, config => do
      let f ← f.validate fields parsers order nested
      validateFields parsers order nested fields rest (f.populate config)

/-- The struct after its defaults are set, if it is valid. -/
def setDefaultsAndValidate (parsers : TextParsers) (order : RangeOrder) (nested : P → Outcome P)
    (config : Struct P) : Outcome (Struct P) := do
  let fields ← Outcome.traverse fieldConfig config
  validateFields parsers order nested fields (order.range fields) config

/-! ### Reading a struct by the names of its fields -/

/-- The value of the field of a name. -/
def lookup (config : Struct P) (name : String) : Option (Value P) :=
  (config.find? fun field => field.name = name).map fun field => field.value

def stringAt (config : Struct P) (name : String) : NullString :=
  match lookup config name with
  | some (.nullString s) => s
  | _ => ⟨"", false⟩

def intAt (config : Struct P) (name : String) : NullInt :=
  match lookup config name with
  | some (.nullInt n) => n
  | _ => ⟨0, false⟩

def boolAt (config : Struct P) (name : String) : NullBool :=
  match lookup config name with
  | some (.nullBool b) => b
  | _ => ⟨false, false⟩

def stringsAt (config : Struct P) (name : String) : List String :=
  match lookup config name with
  | some (.strings slice) => slice
  | _ => []

def targetAt (config : Struct P) (name : String) : Option P :=
  match lookup config name with
  | some (.pointer target) => target
  | _ => none

/-! ### What passes -/

variable {parsers : TextParsers} {order : RangeOrder} {nested : P → Outcome P}
  {fields : List (FieldConfig P)}

/-- Every step on a list has passed. -/
theorem forEach_eq_value {α : Type} {step : α → Outcome Unit} {items : List α} :
  FieldConfig.forEach step items = .value () ↔ ∀ item ∈ items, step item = .value ()
  := by
  induction items with
  | nil => simp [FieldConfig.forEach]
  | cons item rest ih =>
      rw [FieldConfig.forEach, Outcome.bind_eq_value, List.forall_mem_cons, ← ih]
      constructor
      · rintro ⟨_, hitem, hrest⟩
        exact ⟨hitem, hrest⟩
      · rintro ⟨hitem, hrest⟩
        exact ⟨(), hitem, hrest⟩

/-- The configuration of a field, when there is one. -/
theorem fieldConfig_eq_value {field : Field P} {f : FieldConfig P}
    (h : fieldConfig field = .value f) :
  f.name = field.name ∧ f.required = (parseBool field.tag.required).getD false ∧
    fieldRequiredIf field = .value f.requiredIf ∧ f.oneOf = splitString field.tag.oneOf ∧
    f.validateTypes = splitString field.tag.validateType ∧
    fieldDefaults field = .value f.defaults ∧ f.isEmpty = field.value.isEmpty ∧
    f.currentValue = field.value ∧ f.delegated = field.value.isDelegated ∧
    f.shouldUpdateValue = false
  := by
  rw [fieldConfig] at h
  obtain ⟨defaults, hdefaults, h⟩ := Outcome.bind_eq_value.mp h
  obtain ⟨requiredIf, hrequiredIf, h⟩ := Outcome.bind_eq_value.mp h
  split at h
  · cases h
  · obtain rfl := Outcome.value.inj h
    exact ⟨rfl, rfl, hrequiredIf, rfl, rfl, hdefaults, rfl, rfl, rfl, rfl⟩

namespace FieldConfig

variable {f f' g : FieldConfig P}

/-- A field that passes has passed every check. -/
theorem validate_eq_value :
  f.validate fields parsers order nested = .value f' ↔
    ∃ required g, f.validateRequired fields order = .value required ∧
      f.checkIfFieldNeedsUpdate = .value g ∧ g.validateOneOf = .value () ∧
      g.validateField parsers = .value () ∧ g.validateDelegated nested required = .value f'
  := by
  simp only [validate, Outcome.bind_eq_value]
  constructor
  · rintro ⟨required, hrequired, g, hg, _, honeOf, _, hfield, hdelegated⟩
    exact ⟨required, g, hrequired, hg, honeOf, hfield, hdelegated⟩
  · rintro ⟨required, g, hrequired, hg, honeOf, hfield, hdelegated⟩
    exact ⟨required, hrequired, g, hg, (), honeOf, (), hfield, hdelegated⟩

/-- An update leaves everything but the value as it was. -/
theorem checkIfFieldNeedsUpdate_eq_value (h : f.checkIfFieldNeedsUpdate = .value g) :
  g = f ∨ f.isEmpty = true ∧ g =
    { f with currentValue := g.currentValue, shouldUpdateValue := true }
  := by
  rw [checkIfFieldNeedsUpdate] at h
  split at h
  · left
    exact (Outcome.value.inj h).symm
  · rename_i hempty
    split at h
    · left
      exact (Outcome.value.inj h).symm
    · right
      use by simpa using hempty
      dsimp only at h
      split at h <;> cases h <;> rfl

/-- Validating a struct in place leaves everything but the value of a delegated field as it was. -/
theorem validateDelegated_eq_value {required : Bool}
    (h : f.validateDelegated nested required = .value f') :
  f' = { f with currentValue := f'.currentValue } ∧
    (f.delegated = false → f'.currentValue = f.currentValue)
  := by
  rw [validateDelegated] at h
  split at h
  · split at h
    · rename_i hrequired
      obtain ⟨target, -, h⟩ := Outcome.bind_eq_value.mp h
      obtain rfl := Outcome.value.inj h
      use rfl
      intro hdelegated
      rw [hdelegated, Bool.and_false] at hrequired
      cases hrequired
    · obtain rfl := Outcome.value.inj h
      exact ⟨rfl, fun _ => rfl⟩
  · obtain rfl := Outcome.value.inj h
    exact ⟨rfl, fun _ => rfl⟩

/-- A field that passes keeps its name, and its value as far as it is not written back. -/
theorem validate_keeps (h : f.validate fields parsers order nested = .value f') :
  f'.name = f.name ∧
    (f'.shouldUpdateValue = false → f'.delegated = false → f'.currentValue = f.currentValue)
  := by
  obtain ⟨required, g, -, hg, -, -, hdelegated⟩ := validate_eq_value.mp h
  obtain ⟨hf', hvalue⟩ := validateDelegated_eq_value hdelegated
  rcases checkIfFieldNeedsUpdate_eq_value hg with rfl | ⟨-, hg⟩
  · rw [hf']
    exact ⟨rfl, fun _ => hvalue⟩
  · rw [hf', hg]
    exact ⟨rfl, nofun⟩

theorem lookup_populate_of_ne {config : Struct P} {name : String} (hname : name ≠ f.name) :
  lookup (f.populate config) name = lookup config name
  := by
  rw [populate]
  split
  · rw [lookup, lookup, List.find?_map, Option.map_map]
    have hsame : (fun field : Field P => decide (field.name = name)) ∘
        (fun field => if field.name = f.name then { field with value := f.currentValue } else field) =
        fun field => decide (field.name = name) := by
      funext field
      dsimp only [Function.comp_apply]
      split <;> rfl
    rw [hsame]
    cases hfind : config.find? fun field => field.name = name with
    | none => rfl
    | some field =>
        have hfield : field.name = name := by simpa using List.find?_some hfind
        have hne : field.name ≠ f.name := by
          rw [hfield]
          exact hname
        simp [hne]
  · rfl

theorem lookup_populate_self {config : Struct P} {value : Value P}
    (hlookup : lookup config f.name = some value)
    (hvalue : f.shouldUpdateValue = false → f.delegated = false → f.currentValue = value) :
  lookup (f.populate config) f.name = some f.currentValue
  := by
  rw [populate]
  split
  · rw [lookup] at hlookup
    obtain ⟨field, hfind, -⟩ := Option.map_eq_some_iff.mp hlookup
    have hfield : field.name = f.name := by simpa using List.find?_some hfind
    rw [lookup, List.find?_map, Option.map_map]
    have hsame : (fun field : Field P => decide (field.name = f.name)) ∘
        (fun field => if field.name = f.name then { field with value := f.currentValue } else field) =
        fun field => decide (field.name = f.name) := by
      funext field
      dsimp only [Function.comp_apply]
      split <;> rfl
    rw [hsame, hfind]
    simp [hfield]
  · rename_i hkeeps
    rw [Bool.or_eq_true, not_or, Bool.not_eq_true, Bool.not_eq_true] at hkeeps
    rw [hlookup, hvalue hkeeps.1 hkeeps.2]

end FieldConfig

/-- When the loop over fields of different names passes, each of them has passed, and the struct
holds the values that were validated. -/
theorem validateFields_eq_value {l : List (FieldConfig P)} {config config' : Struct P}
    (hnames : (l.map fun f => f.name).Nodup)
    (h : validateFields parsers order nested fields l config = .value config') :
  (∀ f ∈ l, lookup config f.name = some f.currentValue →
    ∃ f', f.validate fields parsers order nested = .value f' ∧
      lookup config' f.name = some f'.currentValue) ∧
    ∀ name, name ∉ l.map (fun f => f.name) → lookup config' name = lookup config name
  := by
  induction l generalizing config with
  | nil =>
      obtain rfl := Outcome.value.inj h
      exact ⟨fun f hf => absurd hf List.not_mem_nil, fun _ _ => rfl⟩
  | cons g rest ih =>
      rw [List.map_cons, List.nodup_cons] at hnames
      rw [validateFields] at h
      obtain ⟨g', hg, h⟩ := Outcome.bind_eq_value.mp h
      obtain ⟨hname, hkeeps⟩ := FieldConfig.validate_keeps hg
      obtain ⟨hrest, hother⟩ := ih hnames.2 h
      constructor
      · intro f hf hlookup
        rcases List.mem_cons.mp hf with rfl | hf
        · use g', hg
          rw [hother f.name hnames.1, ← hname]
          rw [← hname] at hlookup
          apply FieldConfig.lookup_populate_self hlookup hkeeps
        · apply hrest f hf
          rw [FieldConfig.lookup_populate_of_ne, hlookup]
          intro heq
          rw [hname] at heq
          apply hnames.1
          rw [← heq]
          apply List.mem_map_of_mem hf
      · intro name hmem
        rw [List.map_cons, List.mem_cons, not_or] at hmem
        rw [hother name hmem.2, FieldConfig.lookup_populate_of_ne]
        rw [hname]
        exact hmem.1

/-- The fields that a field refers to by their names. -/
theorem find?_of_traverse {config : Struct P} {name : String} {field : Field P}
    (h : Outcome.traverse fieldConfig config = .value fields)
    (hfield : config.find? (fun field => field.name = name) = some field) :
  ∃ f, fields.find? (fun f => f.name = name) = some f ∧ fieldConfig field = .value f
  := by
  have hvalues := Outcome.traverse_eq_value h
  clear h
  induction hvalues with
  | nil => cases hfield
  | @cons first f rest others hfirst _ ih =>
      have hname := (fieldConfig_eq_value hfirst).1
      by_cases heq : first.name = name
      · rw [List.find?_cons_of_pos (by simpa using heq)] at hfield
        obtain rfl := Option.some.inj hfield
        refine ⟨f, ?_, hfirst⟩
        apply List.find?_cons_of_pos
        simpa [hname] using heq
      · rw [List.find?_cons_of_neg (by simpa using heq)] at hfield
        obtain ⟨f', hfind, hf'⟩ := ih hfield
        refine ⟨f', ?_, hf'⟩
        rw [List.find?_cons_of_neg, hfind]
        simpa [hname] using heq

theorem names_of_traverse {config : Struct P}
    (h : Outcome.traverse fieldConfig config = .value fields) :
  fields.map (fun f => f.name) = config.map fun field => field.name
  := by
  have hvalues := Outcome.traverse_eq_value h
  clear h
  induction hvalues with
  | nil => rfl
  | cons hfirst _ ih => rw [List.map_cons, List.map_cons, ih, (fieldConfig_eq_value hfirst).1]

/-- When a struct passes, each of its fields has passed, and holds the value that was validated. -/
theorem validated_of_value {config config' : Struct P} {name : String} {field : Field P}
    (hnames : (config.map fun field => field.name).Nodup)
    (h : setDefaultsAndValidate parsers order nested config = .value config')
    (hfield : config.find? (fun field => field.name = name) = some field) :
  ∃ fields f f', Outcome.traverse fieldConfig config = .value fields ∧
    fieldConfig field = .value f ∧ f.validate fields parsers order nested = .value f' ∧
    lookup config' name = some f'.currentValue
  := by
  rw [setDefaultsAndValidate] at h
  obtain ⟨fields, htraverse, h⟩ := Outcome.bind_eq_value.mp h
  obtain ⟨f, hfind, hf⟩ := find?_of_traverse htraverse hfield
  obtain ⟨hname, -, -, -, -, -, -, hcurrent, -⟩ := fieldConfig_eq_value hf
  have hsame : field.name = name := by simpa using List.find?_some hfield
  have hnodup : ((order.range fields).map fun f => f.name).Nodup := by
    rw [((order.perm fields).map _).nodup_iff, names_of_traverse htraverse]
    exact hnames
  have hmem : f ∈ order.range fields := by
    apply (order.perm fields).mem_iff.mpr
    apply List.mem_of_find?_eq_some hfind
  obtain ⟨f', hvalidate, hlookup⟩ := (validateFields_eq_value hnodup h).1 f hmem (by
    rw [hname, hsame, lookup, hfield, hcurrent]
    rfl)
  rw [hname, hsame] at hlookup
  exact ⟨fields, f, f', htraverse, hf, hvalidate, hlookup⟩

/-! ### What passes, by the type of the field -/

section Kinds

variable {field : Field P} {f f' g : FieldConfig P}

/-- A field that is required is not empty. With one entry of `required_if`, it is required exactly
when the value it refers to matches. -/
theorem required_of_validated {required : Bool}
    (h : f.validateRequired fields order = .value required) :
  (required = true → f.isEmpty = false) ∧ (f.required = true → required = true) ∧
    ∀ key text, f.required = false → f.requiredIf = [(key, text)] →
      ∃ g, fields.find? (fun g => g.name = key) = some g ∧
        FieldConfig.matchesRequiredIf g.currentValue text = .value required
  := by
  rw [FieldConfig.validateRequired] at h
  obtain ⟨entries, hentries, h⟩ := Outcome.bind_eq_value.mp h
  rw [FieldConfig.isRequired] at hentries
  split at h
  · cases h
  · rename_i hempty
    obtain rfl := Outcome.value.inj h
    refine ⟨?_, ?_, ?_⟩
    · rintro rfl
      simpa using hempty
    · intro hrequired
      rw [if_pos hrequired] at hentries
      exact (Outcome.value.inj hentries).symm
    · intro key text hrequired hsingle
      have hrange : order.range [(key, text)] = [(key, text)] :=
        List.perm_singleton.mp (order.perm _)
      rw [if_neg (by simp [hrequired]), hsingle, hrange, FieldConfig.requiredByEntries] at hentries
      split at hentries
      · cases hentries
      · rename_i g hfind
        refine ⟨g, hfind, ?_⟩
        obtain ⟨matched, hmatched, hentries⟩ := Outcome.bind_eq_value.mp hentries
        rw [hmatched]
        cases matched with
        | true => exact hentries
        | false => exact hentries

/-- A field that is not empty, or has no default, keeps its value. -/
theorem update_keeps (hf : fieldConfig field = .value f) (hg : f.checkIfFieldNeedsUpdate = .value g)
    (h : field.value.isEmpty = false ∨ field.tag.default = "") :
  g = f
  := by
  obtain ⟨-, -, -, -, -, hdefaults, hempty, -⟩ := fieldConfig_eq_value hf
  rw [FieldConfig.checkIfFieldNeedsUpdate] at hg
  split at hg
  · exact (Outcome.value.inj hg).symm
  · rename_i hne
    rcases h with h | h
    · rw [hempty, h] at hne
      exact absurd Bool.false_ne_true hne
    · rw [fieldDefaults, if_pos h] at hdefaults
      rw [← Outcome.value.inj hdefaults] at hg
      exact (Outcome.value.inj hg).symm

/-- The value that was validated passes the check of the allowed values. -/
theorem oneOf_of_validated {slice : List String} (h : g.validateOneOf = .value ())
    (hf : fieldConfig field = .value f) (honeOf : g.oneOf = f.oneOf)
    (hvalue : g.currentValue = .strings slice) (hne : splitString field.tag.oneOf ≠ []) :
  ∃ value ∈ splitString field.tag.oneOf, value ∈ slice
  := by
  obtain ⟨-, -, -, htag, -⟩ := fieldConfig_eq_value hf
  rw [← htag, ← honeOf] at hne ⊢
  rw [FieldConfig.validateOneOf, hvalue, if_neg hne] at h
  dsimp only at h
  split at h
  · rename_i hcontains
    rw [FieldConfig.checkIfSliceContains, List.any_eq_true] at hcontains
    simpa using hcontains
  · cases h

/-- What holds of a list that has passed. -/
structure ValidStrings (parsers : TextParsers) (tag : Tag) (slice slice' : List String) :
    Prop where
  default : slice = [] → tag.default ≠ "" → slice' = splitComma tag.default
  keeps : slice ≠ [] ∨ tag.default = "" → slice' = slice
  oneOf : splitString tag.oneOf ≠ [] → ∃ value ∈ splitString tag.oneOf, value ∈ slice'
  types : ∀ item ∈ slice, ∀ type ∈ splitString tag.validateType,
    ∃ ref, FieldConfig.validateType parsers ref item type = .value ()

theorem validStrings_of_validated {slice : List String} (hf : fieldConfig field = .value f)
    (hvalue : field.value = .strings slice)
    (h : f.validate fields parsers order nested = .value f') :
  ∃ slice', f'.currentValue = .strings slice' ∧ ValidStrings parsers field.tag slice slice'
  := by
  obtain ⟨required, g, -, hg, honeOf, htypes, hdelegated⟩ := FieldConfig.validate_eq_value.mp h
  obtain ⟨-, -, -, -, htag, hdefaults, hempty, hcurrent, hdelegates, -⟩ := fieldConfig_eq_value hf
  obtain ⟨-, hsame⟩ := FieldConfig.validateDelegated_eq_value hdelegated
  have hkeeps := update_keeps hf hg
  rw [hvalue] at hempty hcurrent hdelegates hkeeps
  by_cases hupdate : slice ≠ [] ∨ field.tag.default = ""
  · have hgf : g = f := by
      apply hkeeps
      apply hupdate.imp_left
      exact decide_eq_false
    subst hgf
    use slice, (hsame hdelegates).trans hcurrent
    constructor
    · intro hnil hne
      rcases hupdate with hslice | hnone
      · exact absurd hnil hslice
      · exact absurd hnone hne
    · exact fun _ => rfl
    · apply oneOf_of_validated honeOf hf rfl hcurrent
    · intro item hitem type htype
      rw [FieldConfig.validateField, hcurrent, if_neg, forEach_eq_value] at htypes
      · obtain ⟨i, hi, rfl⟩ := List.mem_iff_getElem.mp hitem
        have hsingle := htypes (slice[i], i) (by
          apply List.mem_zipIdx_iff_getElem?.mpr
          apply List.getElem?_eq_getElem hi)
        rw [FieldConfig.validateSingleValue, forEach_eq_value, htag] at hsingle
        exact ⟨_, hsingle type htype⟩
      · rintro (hnil | hnil)
        · rw [← htag, hnil] at htype
          exact absurd htype List.not_mem_nil
        · rw [hempty, Value.isEmpty, decide_eq_true_iff] at hnil
          exact List.ne_nil_of_mem hitem hnil
  · obtain ⟨hslice, hdefault⟩ := not_or.mp hupdate
    rw [fieldDefaults, if_neg hdefault, hvalue] at hdefaults
    have hslice := not_not.mp hslice
    rw [FieldConfig.checkIfFieldNeedsUpdate, hcurrent, ← Outcome.value.inj hdefaults,
      if_neg (by simp [hempty, Value.isEmpty, hslice])] at hg
    obtain rfl := Outcome.value.inj hg
    use splitComma field.tag.default, hsame hdelegates
    constructor
    · exact fun _ _ => rfl
    · exact fun hor => absurd hor hupdate
    · apply oneOf_of_validated honeOf hf rfl rfl
    · intro item hitem
      rw [hslice] at hitem
      exact absurd hitem List.not_mem_nil

/-- What holds of a null string that has passed. -/
structure ValidString (parsers : TextParsers) (tag : Tag) (s s' : NullString) : Prop where
  default : s.valid = false → tag.default ≠ "" → s' = ⟨tag.default, true⟩
  keeps : s.valid = true ∨ tag.default = "" → s' = s
  types : s.valid = true → s.string ≠ "" → ∀ type ∈ splitString tag.validateType,
    ∃ ref, FieldConfig.validateType parsers ref s.string type = .value ()

theorem validString_of_validated {s : NullString} (hf : fieldConfig field = .value f)
    (hvalue : field.value = .nullString s)
    (h : f.validate fields parsers order nested = .value f') :
  ∃ s', f'.currentValue = .nullString s' ∧ ValidString parsers field.tag s s'
  := by
  obtain ⟨required, g, -, hg, -, htypes, hdelegated⟩ := FieldConfig.validate_eq_value.mp h
  obtain ⟨-, -, -, -, htag, hdefaults, hempty, hcurrent, hdelegates, -⟩ := fieldConfig_eq_value hf
  obtain ⟨-, hsame⟩ := FieldConfig.validateDelegated_eq_value hdelegated
  have hkeeps := update_keeps hf hg
  rw [hvalue] at hempty hcurrent hdelegates hkeeps
  by_cases hupdate : s.valid = true ∨ field.tag.default = ""
  · have hgf : g = f := by
      apply hkeeps
      apply hupdate.imp_left
      intro hvalid
      rw [Value.isEmpty, hvalid, Bool.not_true]
    subst hgf
    use s, (hsame hdelegates).trans hcurrent
    constructor
    · intro hinvalid hne
      rcases hupdate with hvalid | hnone
      · rw [hinvalid] at hvalid
        cases hvalid
      · exact absurd hnone hne
    · exact fun _ => rfl
    · intro hvalid hne type htype
      obtain ⟨text, valid⟩ := s
      rw [FieldConfig.validateField, hcurrent, if_neg] at htypes
      · dsimp only at htypes
        rw [if_neg hne, FieldConfig.validateSingleValue, forEach_eq_value, htag] at htypes
        exact ⟨_, htypes type htype⟩
      · rintro (hnil | hnil)
        · rw [← htag, hnil] at htype
          exact absurd htype List.not_mem_nil
        · obtain rfl : valid = true := hvalid
          rw [hempty] at hnil
          cases hnil
  · obtain ⟨hvalid, hdefault⟩ := not_or.mp hupdate
    rw [fieldDefaults, if_neg hdefault, hvalue] at hdefaults
    have hvalid := Bool.not_eq_true _ |>.mp hvalid
    rw [FieldConfig.checkIfFieldNeedsUpdate, hcurrent, ← Outcome.value.inj hdefaults,
      if_neg (by simp [hempty, Value.isEmpty, hvalid])] at hg
    obtain rfl := Outcome.value.inj hg
    use ⟨field.tag.default, true⟩, hsame hdelegates
    constructor
    · exact fun _ _ => rfl
    · exact fun hor => absurd hor hupdate
    · intro hvalid'
      rw [hvalid] at hvalid'
      cases hvalid'

/-- What holds of a null integer that has passed. -/
structure ValidInt (tag : Tag) (n n' : NullInt) : Prop where
  default : n.valid = false → tag.default ≠ "" → some n'.int64 = atoi tag.default ∧ n'.valid = true
  keeps : n.valid = true ∨ tag.default = "" → n' = n

theorem validInt_of_validated {n : NullInt} (hf : fieldConfig field = .value f)
    (hvalue : field.value = .nullInt n)
    (h : f.validate fields parsers order nested = .value f') :
  ∃ n', f'.currentValue = .nullInt n' ∧ ValidInt field.tag n n'
  := by
  obtain ⟨required, g, -, hg, -, -, hdelegated⟩ := FieldConfig.validate_eq_value.mp h
  obtain ⟨-, -, -, -, -, hdefaults, hempty, hcurrent, hdelegates, -⟩ := fieldConfig_eq_value hf
  obtain ⟨-, hsame⟩ := FieldConfig.validateDelegated_eq_value hdelegated
  have hkeeps := update_keeps hf hg
  rw [hvalue] at hempty hcurrent hdelegates hkeeps
  by_cases hupdate : n.valid = true ∨ field.tag.default = ""
  · have hgf : g = f := by
      apply hkeeps
      apply hupdate.imp_left
      intro hvalid
      rw [Value.isEmpty, hvalid, Bool.not_true]
    subst hgf
    use n, (hsame hdelegates).trans hcurrent
    constructor
    · intro hinvalid hne
      rcases hupdate with hvalid | hnone
      · rw [hinvalid] at hvalid
        cases hvalid
      · exact absurd hnone hne
    · exact fun _ => rfl
  · obtain ⟨hvalid, hdefault⟩ := not_or.mp hupdate
    have hvalid := Bool.not_eq_true _ |>.mp hvalid
    rw [fieldDefaults, if_neg hdefault, hvalue] at hdefaults
    dsimp only at hdefaults
    cases hatoi : atoi field.tag.default with
    | none =>
        rw [hatoi] at hdefaults
        cases hdefaults
    | some d =>
        rw [hatoi] at hdefaults
        rw [FieldConfig.checkIfFieldNeedsUpdate, hcurrent, ← Outcome.value.inj hdefaults,
          if_neg (by simp [hempty, Value.isEmpty, hvalid])] at hg
        obtain rfl := Outcome.value.inj hg
        use ⟨d, true⟩, hsame hdelegates
        constructor
        · exact fun _ _ => ⟨hatoi.symm, rfl⟩
        · exact fun hor => absurd hor hupdate

/-- A pointer that is required points at a struct that has passed itself. -/
theorem target_of_validated {target : Option P} (hf : fieldConfig field = .value f)
    (hvalue : field.value = .pointer target)
    (h : f.validate fields parsers order nested = .value f') :
  ∃ required target', f.validateRequired fields order = .value required ∧
    f'.currentValue = .pointer target' ∧
    (required = true →
      ∃ t t', target = some t ∧ nested t = .value t' ∧ target' = some t')
  := by
  obtain ⟨required, g, hrequired, hg, -, -, hdelegated⟩ := FieldConfig.validate_eq_value.mp h
  obtain ⟨-, -, -, -, -, hdefaults, hempty, hcurrent, hdelegates, -⟩ := fieldConfig_eq_value hf
  have hnone : field.tag.default = "" := by
    rw [fieldDefaults, hvalue] at hdefaults
    by_contra hne
    rw [if_neg hne] at hdefaults
    cases hdefaults
  obtain rfl := update_keeps hf hg (Or.inr hnone)
  rw [hvalue] at hempty hcurrent hdelegates
  rw [FieldConfig.validateDelegated, hcurrent] at hdelegated
  cases target with
  | none =>
      obtain rfl := Outcome.value.inj hdelegated
      refine ⟨required, none, hrequired, hcurrent, ?_⟩
      rintro rfl
      have hfalse := (required_of_validated hrequired).1 rfl
      rw [hempty] at hfalse
      cases hfalse
  | some t =>
      rw [hdelegates] at hdelegated
      cases required with
      | false =>
          obtain rfl := Outcome.value.inj hdelegated
          exact ⟨false, some t, hrequired, hcurrent, nofun⟩
      | true =>
          obtain ⟨t', ht', hdelegated⟩ := Outcome.bind_eq_value.mp hdelegated
          obtain rfl := Outcome.value.inj hdelegated
          exact ⟨true, some t', hrequired, rfl, fun _ => ⟨t, t', rfl, ht', rfl⟩⟩

end Kinds

/-- The entry of a tag `required_if` that has one. -/
theorem fieldRequiredIf_singleton {field : Field P} {entry : String × String} (requiredIf : String)
    (htag : field.tag.requiredIf = requiredIf) (hne : requiredIf ≠ "")
    (hsplit : (splitComma requiredIf).mapM splitEq = some [entry]) :
  fieldRequiredIf field = .value [entry]
  := by
  rw [fieldRequiredIf, htag, if_neg hne, hsplit]
  rfl

/-! ### What passes, by the name of the field -/

section Names

variable {config config' : Struct P} {field : Field P} (name : String)
  (hnames : (config.map fun field => field.name).Nodup)
  (h : setDefaultsAndValidate parsers order nested config = .value config')
  (hfield : config.find? (fun field => field.name = name) = some field)

include hnames h hfield

theorem validStrings_of_value {slice : List String} (hvalue : field.value = .strings slice) :
  ValidStrings parsers field.tag slice (stringsAt config' name)
  := by
  obtain ⟨fields, f, f', -, hf, hvalidate, hlookup⟩ := validated_of_value hnames h hfield
  obtain ⟨slice', hslice', hvalid⟩ := validStrings_of_validated hf hvalue hvalidate
  rw [stringsAt, hlookup, hslice']
  exact hvalid

theorem validString_of_value {s : NullString} (hvalue : field.value = .nullString s) :
  ValidString parsers field.tag s (stringAt config' name)
  := by
  obtain ⟨fields, f, f', -, hf, hvalidate, hlookup⟩ := validated_of_value hnames h hfield
  obtain ⟨s', hs', hvalid⟩ := validString_of_validated hf hvalue hvalidate
  rw [stringAt, hlookup, hs']
  exact hvalid

theorem validInt_of_value {n : NullInt} (hvalue : field.value = .nullInt n) :
  ValidInt field.tag n (intAt config' name)
  := by
  obtain ⟨fields, f, f', -, hf, hvalidate, hlookup⟩ := validated_of_value hnames h hfield
  obtain ⟨n', hn', hvalid⟩ := validInt_of_validated hf hvalue hvalidate
  rw [intAt, hlookup, hn']
  exact hvalid

/-- A field with the tag `required` is not empty. -/
theorem isEmpty_of_required (hrequired : parseBool field.tag.required = some true) :
  field.value.isEmpty = false
  := by
  obtain ⟨fields, f, f', -, hf, hvalidate, -⟩ := validated_of_value hnames h hfield
  obtain ⟨-, htag, -, -, -, -, hempty, -⟩ := fieldConfig_eq_value hf
  obtain ⟨required, g, hcheck, -⟩ := FieldConfig.validate_eq_value.mp hvalidate
  obtain ⟨hne, hrequires, -⟩ := required_of_validated hcheck
  rw [← hempty]
  apply hne
  apply hrequires
  rw [htag, hrequired]
  rfl

/-- A pointer that is required as another field has the value that its tag names points at a struct
that has passed itself. -/
theorem target_of_value (key text : String) {target : Option P} {other : Field P}
    (hvalue : field.value = .pointer target) (htag : field.tag.required = "")
    (hentries : fieldRequiredIf field = .value [(key, text)])
    (hother : config.find? (fun field => field.name = key) = some other)
    (hmatches : FieldConfig.matchesRequiredIf other.value text = .value true) :
  ∃ t t', target = some t ∧ nested t = .value t' ∧ targetAt config' name = some t'
  := by
  obtain ⟨fields, f, f', htraverse, hf, hvalidate, hlookup⟩ := validated_of_value hnames h hfield
  obtain ⟨-, hrequiredTag, hentriesTag, -⟩ := fieldConfig_eq_value hf
  obtain ⟨required, target', hcheck, htarget', htarget⟩ := target_of_validated hf hvalue hvalidate
  obtain ⟨-, -, hsingle⟩ := required_of_validated hcheck
  obtain ⟨g, hg, hmatched⟩ := hsingle key text (by rw [hrequiredTag, htag]; rfl)
    (Outcome.value.inj (hentriesTag.symm.trans hentries))
  obtain ⟨g', hg', hother'⟩ := find?_of_traverse htraverse hother
  obtain rfl := Option.some.inj (hg.symm.trans hg')
  obtain ⟨-, -, -, -, -, -, -, hcurrent, -⟩ := fieldConfig_eq_value hother'
  rw [hcurrent, hmatches] at hmatched
  obtain ⟨t, t', ht, ht', htt'⟩ := htarget (Outcome.value.inj hmatched).symm
  refine ⟨t, t', ht, ht', ?_⟩
  rw [targetAt, hlookup, htarget', htt']

end Names

end JetKvm.ConfParser

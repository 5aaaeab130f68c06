import JetKvm.Network.ConfParser

/-!
# What a network configuration that passes its checks is

The configuration of the network with the tags of its fields, and what the stack relies on after
`confparser.SetDefaultsAndValidate` has returned no error. A configuration that has passed is sound
unless it is one of a few kinds: the check of a list is content with one allowed value, a list never
is required by what another list contains, null strings are present when they are valid, however
empty they are, and an address passes for what its sixteen bytes allow.
-/

namespace JetKvm.ConfParser

open Network

/-- `types.IPv4StaticConfig`. -/
structure IPv4StaticConfig where
  address : NullString
  netmask : NullString
  gateway : NullString
  dns : List String
deriving DecidableEq

/-- `types.IPv6StaticConfig`. -/
structure IPv6StaticConfig where
  ipPrefix : NullString
  gateway : NullString
  dns : List String
deriving DecidableEq

/-- `types.NetworkConfig`. -/
structure NetworkConfig where
  dhcpClient : NullString
  hostname : NullString
  httpProxy : NullString
  domain : NullString
  ipv4Mode : NullString
  ipv4Static : Option IPv4StaticConfig
  ipv6Mode : NullString
  ipv6Static : Option IPv6StaticConfig
  lldpMode : NullString
  lldpTxTLVs : List String
  mdnsMode : NullString
  timeSyncMode : NullString
  timeSyncOrdering : List String
  timeSyncDisableFallback : NullBool
  timeSyncParallel : NullInt
  timeSyncNTPServers : List String
  timeSyncHTTPUrls : List String
deriving DecidableEq

/-! ### The tags -/

def nullStringField {P : Type} (name : String) (s : NullString) (tag : Tag) : Field P :=
  { name, type := "null.String", value := .nullString s, tag }

def stringsField {P : Type} (name : String) (slice : List String) (tag : Tag) : Field P :=
  { name, type := "[]string", value := .strings slice, tag }

def IPv4StaticConfig.struct (c : IPv4StaticConfig) : Struct Empty :=
  [ nullStringField "Address" c.address { validateType := "ipv4", required := "true" },
    nullStringField "Netmask" c.netmask { validateType := "ipv4", required := "true" },
    nullStringField "Gateway" c.gateway { validateType := "ipv4", required := "true" },
    stringsField "DNS" c.dns { validateType := "ipv4", required := "true" } ]

def IPv6StaticConfig.struct (c : IPv6StaticConfig) : Struct Empty :=
  [ nullStringField "Prefix" c.ipPrefix { validateType := "ipv6_prefix", required := "true" },
    nullStringField "Gateway" c.gateway { validateType := "ipv6", required := "true" },
    stringsField "DNS" c.dns { validateType := "ipv6", required := "true" } ]

def lldpTxTLVsTag : Tag :=
  { oneOf := "chassis,port,system,vlan", default := "chassis,port,system,vlan" }

def timeSyncOrderingTag : Tag :=
  { oneOf := "http,ntp,ntp_dhcp,ntp_user_provided,http_user_provided", default := "ntp,http" }

def timeSyncNTPServersTag : Tag :=
  { validateType := "hostname_or_ipv4_or_ipv6", requiredIf := "TimeSyncOrdering=ntp_user_provided" }

def timeSyncHTTPUrlsTag : Tag :=
  { validateType := "url", requiredIf := "TimeSyncOrdering=http_user_provided" }

/-- The fields of a network configuration, with their tags. -/
def NetworkConfig.struct (c : NetworkConfig) : Struct (Struct Empty) :=
  [ nullStringField "DHCPClient" c.dhcpClient { oneOf := "jetdhcpc,udhcpc", default := "udhcpc" },
    nullStringField "Hostname" c.hostname { validateType := "hostname" },
    nullStringField "HTTPProxy" c.httpProxy { validateType := "proxy" },
    nullStringField "Domain" c.domain { validateType := "hostname" },
    nullStringField "IPv4Mode" c.ipv4Mode { oneOf := "dhcp,static,disabled", default := "dhcp" },
    { name := "IPv4Static", type := "*types.IPv4StaticConfig"
      value := .pointer (c.ipv4Static.map IPv4StaticConfig.struct)
      tag := { requiredIf := "IPv4Mode=static" } },
    nullStringField "IPv6Mode" c.ipv6Mode
      { oneOf := "slaac,dhcpv6,slaac_and_dhcpv6,static,link_local,disabled", default := "slaac" },
    { name := "IPv6Static", type := "*types.IPv6StaticConfig"
      value := .pointer (c.ipv6Static.map IPv6StaticConfig.struct)
      tag := { requiredIf := "IPv6Mode=static" } },
    nullStringField "LLDPMode" c.lldpMode { oneOf := "disabled,basic,all", default := "basic" },
    stringsField "LLDPTxTLVs" c.lldpTxTLVs lldpTxTLVsTag,
    nullStringField "MDNSMode" c.mdnsMode
      { oneOf := "disabled,auto,ipv4_only,ipv6_only", default := "auto" },
    nullStringField "TimeSyncMode" c.timeSyncMode
      { oneOf := "ntp_only,ntp_and_http,http_only,custom", default := "ntp_and_http" },
    stringsField "TimeSyncOrdering" c.timeSyncOrdering timeSyncOrderingTag,
    { name := "TimeSyncDisableFallback", type := "null.Bool"
      value := .nullBool c.timeSyncDisableFallback
      tag := { default := "false" } },
    { name := "TimeSyncParallel", type := "null.Int"
      value := .nullInt c.timeSyncParallel
      tag := { default := "4" } },
    stringsField "TimeSyncNTPServers" c.timeSyncNTPServers timeSyncNTPServersTag,
    stringsField "TimeSyncHTTPUrls" c.timeSyncHTTPUrls timeSyncHTTPUrlsTag ]

def IPv4StaticConfig.ofStruct (s : Struct Empty) : IPv4StaticConfig where
  address := stringAt s "Address"
  netmask := stringAt s "Netmask"
  gateway := stringAt s "Gateway"
  dns := stringsAt s "DNS"

def IPv6StaticConfig.ofStruct (s : Struct Empty) : IPv6StaticConfig where
  ipPrefix := stringAt s "Prefix"
  gateway := stringAt s "Gateway"
  dns := stringsAt s "DNS"

/-- The configuration whose fields a struct holds. -/
def NetworkConfig.ofStruct (s : Struct (Struct Empty)) : NetworkConfig where
  dhcpClient := stringAt s "DHCPClient"
  hostname := stringAt s "Hostname"
  httpProxy := stringAt s "HTTPProxy"
  domain := stringAt s "Domain"
  ipv4Mode := stringAt s "IPv4Mode"
  ipv4Static := (targetAt s "IPv4Static").map IPv4StaticConfig.ofStruct
  ipv6Mode := stringAt s "IPv6Mode"
  ipv6Static := (targetAt s "IPv6Static").map IPv6StaticConfig.ofStruct
  lldpMode := stringAt s "LLDPMode"
  lldpTxTLVs := stringsAt s "LLDPTxTLVs"
  mdnsMode := stringAt s "MDNSMode"
  timeSyncMode := stringAt s "TimeSyncMode"
  timeSyncOrdering := stringsAt s "TimeSyncOrdering"
  timeSyncDisableFallback := boolAt s "TimeSyncDisableFallback"
  timeSyncParallel := intAt s "TimeSyncParallel"
  timeSyncNTPServers := stringsAt s "TimeSyncNTPServers"
  timeSyncHTTPUrls := stringsAt s "TimeSyncHTTPUrls"

/-- The checks of a struct that has no pointers. -/
def validateStatic (parsers : TextParsers) (order : RangeOrder) (config : Struct Empty) :
    Outcome (Struct Empty) :=
  setDefaultsAndValidate parsers order Empty.elim config

/-- `confparser.SetDefaultsAndValidate` of a network configuration: the configuration after the
call, if the call returns no error. -/
def NetworkConfig.setDefaultsAndValidate (parsers : TextParsers) (order : RangeOrder)
    (c : NetworkConfig) : Outcome NetworkConfig := do
  let s ← ConfParser.setDefaultsAndValidate parsers order (validateStatic parsers order) c.struct
  .value (NetworkConfig.ofStruct s)

/-! ### What the stack relies on -/

/-- Every item of a list with the tag `one_of` is one of the allowed values. -/
def ListsAllowed {P : Type} (s : Struct P) : Prop :=
  ∀ field ∈ s, ∀ slice, field.value = .strings slice → field.tag.oneOf ≠ "" →
    ∀ item ∈ slice, item ∈ splitString field.tag.oneOf

/-- A list is not empty when its tag `required_if` names a value of another list. -/
def ListsPresent {P : Type} (s : Struct P) : Prop :=
  ∀ field ∈ s, ∀ slice, field.value = .strings slice →
    ∀ entries, fieldRequiredIf field = .value entries → ∀ entry ∈ entries,
      ∀ other, lookup s entry.1 = some (.strings other) → entry.2 ∈ other → slice ≠ []

/-- The mode of an interface that takes its addresses from the configuration. -/
def static : NullString :=
  ⟨"static", true⟩

def IPv4StaticConfig.addresses (s : IPv4StaticConfig) : List String :=
  s.address.string :: s.gateway.string :: s.dns

def IPv6StaticConfig.addresses (s : IPv6StaticConfig) : List String :=
  s.gateway.string :: s.dns

/-- What the network stack relies on without checking it again. -/
structure NetworkConfig.Sound (c : NetworkConfig) : Prop where
  allowed : ListsAllowed c.struct
  present : ListsPresent c.struct
  ipv4 : c.ipv4Mode = static → ∃ s, c.ipv4Static = some s ∧
    ∀ text ∈ s.addresses, text ≠ "" ∧ IsIPv4Literal text.toList
  ipv6 : c.ipv6Mode = static → ∃ s, c.ipv6Static = some s ∧
    (∀ text ∈ s.addresses, text ≠ "" ∧ IsIPv6Literal text.toList) ∧
    s.ipPrefix.string ≠ "" ∧ IsIPv6Prefix s.ipPrefix.string.toList

/-- A list has items that the tag allows, and others. -/
def Mixes (tag : Tag) (slice : List String) : Prop :=
  (∃ item ∈ slice, item ∈ splitString tag.oneOf) ∧ ∃ item ∈ slice, item ∉ splitString tag.oneOf

/-- The kinds of configurations that pass although they are not sound. -/
inductive NetworkConfig.SlipsThrough (c : NetworkConfig) : Prop where
  | mixedTLVs (h : Mixes lldpTxTLVsTag c.lldpTxTLVs)
  | mixedOrdering (h : Mixes timeSyncOrderingTag c.timeSyncOrdering)
  | noNTPServers (hordering : "ntp_user_provided" ∈ c.timeSyncOrdering)
      (hservers : c.timeSyncNTPServers = [])
  | noHTTPUrls (hordering : "http_user_provided" ∈ c.timeSyncOrdering)
      (hurls : c.timeSyncHTTPUrls = [])
  | ipv4Text (s : IPv4StaticConfig) (text : String) (hmode : c.ipv4Mode = static)
      (hs : c.ipv4Static = some s) (htext : text ∈ s.addresses)
      (hslips : text = "" ∨ HasColonForm text.toList)
  | ipv6Text (s : IPv6StaticConfig) (text : String) (hmode : c.ipv6Mode = static)
      (hs : c.ipv6Static = some s) (htext : text ∈ s.addresses)
      (hslips : text = "" ∨ IsIPv4Address text.toList)
  | ipv6Prefix (s : IPv6StaticConfig) (hmode : c.ipv6Mode = static) (hs : c.ipv6Static = some s)
      (hslips : s.ipPrefix.string = "" ∨ IsIPv4Address (cidrAddress s.ipPrefix.string.toList))

/-! ### What the checks of single texts find -/

section Checks

variable {parsers : TextParsers} {ref val : String}

/-- A check that has no error has passed. -/
theorem passes_of_eq_value {passes : Bool} {message : String}
    (h : (if passes then Outcome.value () else .error message) = .value ()) :
  passes = true
  := by
  cases passes with
  | true => rfl
  | false => cases h

theorem isIPv4Address_of_type (h : FieldConfig.validateType parsers ref val "ipv4" = .value ()) :
  IsIPv4Address val.toList
  := passes_of_eq_value h

theorem parseIP_of_type (h : FieldConfig.validateType parsers ref val "ipv6" = .value ()) :
  ∃ ip, parseIP val.toList = some ip
  := by
  have hsome : ((parseIP val.toList).bind IP.to16).isSome = true := passes_of_eq_value h
  obtain ⟨ip16, hip16⟩ := Option.isSome_iff_exists.mp hsome
  obtain ⟨ip, hip, -⟩ := Option.bind_eq_some_iff.mp hip16
  exact ⟨ip, hip⟩

theorem parseCIDR_of_type (h : FieldConfig.validateType parsers ref val "ipv6_prefix" = .value ()) :
  (parseCIDR val.toList).isSome = true
  := passes_of_eq_value h

end Checks

/-! ### Structs that have passed -/

section Passed

variable {parsers : TextParsers} {order : RangeOrder}

/-- The names of the fields of a struct do not depend on its values. -/
theorem NetworkConfig.names_nodup (c : NetworkConfig) :
  (c.struct.map fun field => field.name).Nodup
  := by
  simp [NetworkConfig.struct, nullStringField, stringsField]

theorem IPv4StaticConfig.names_nodup (s : IPv4StaticConfig) :
  (s.struct.map fun field => field.name).Nodup
  := by
  simp [IPv4StaticConfig.struct, nullStringField, stringsField]

theorem IPv6StaticConfig.names_nodup (s : IPv6StaticConfig) :
  (s.struct.map fun field => field.name).Nodup
  := by
  simp [IPv6StaticConfig.struct, nullStringField, stringsField]

/-- A required text of a static section passes without a change, and has its type unless it is
empty. -/
theorem staticText_of_value {config config' : Struct Empty} {type : String} {s : NullString}
    (name : String) (hnames : (config.map fun field => field.name).Nodup)
    (h : validateStatic parsers order config = .value config')
    (hfield : config.find? (fun field => field.name = name) =
      some (nullStringField name s { validateType := type, required := "true" }))
    (htype : type ∈ splitString type) :
  stringAt config' name = s ∧ (s.string = "" ∨
    ∃ ref, FieldConfig.validateType parsers ref s.string type = .value ())
  := by
  have hvalid := validString_of_value name hnames h hfield rfl
  have hempty := isEmpty_of_required name hnames h hfield rfl
  have hs : s.valid = true := by simpa [nullStringField, Value.isEmpty] using hempty
  use hvalid.keeps (Or.inl hs)
  by_cases hstring : s.string = ""
  · apply Or.inl hstring
  · apply Or.inr (hvalid.types hs hstring type htype)

/-- A required list of a static section passes without a change, and all its items have its type. -/
theorem staticTexts_of_value {config config' : Struct Empty} {type : String}
    {slice : List String} (name : String) (hnames : (config.map fun field => field.name).Nodup)
    (h : validateStatic parsers order config = .value config')
    (hfield : config.find? (fun field => field.name = name) =
      some (stringsField name slice { validateType := type, required := "true" }))
    (htype : type ∈ splitString type) :
  stringsAt config' name = slice ∧ ∀ item ∈ slice,
    ∃ ref, FieldConfig.validateType parsers ref item type = .value ()
  := by
  have hvalid := validStrings_of_value name hnames h hfield rfl
  use hvalid.keeps (Or.inr rfl)
  intro item hitem
  apply hvalid.types item hitem type htype

theorem IPv4StaticConfig.of_value {s : IPv4StaticConfig} {config' : Struct Empty}
    (h : validateStatic parsers order s.struct = .value config') :
  IPv4StaticConfig.ofStruct config' = s ∧
    ∀ text ∈ s.addresses, text = "" ∨ IsIPv4Address text.toList
  := by
  have hnames := s.names_nodup
  have htype : "ipv4" ∈ splitString "ipv4" := by decide
  have htext : ∀ {text : String}, (text = "" ∨ ∃ ref, FieldConfig.validateType parsers ref text
      "ipv4" = .value ()) → text = "" ∨ IsIPv4Address text.toList := by
    intro text
    apply Or.imp_right
    rintro ⟨ref, hpasses⟩
    apply isIPv4Address_of_type hpasses
  obtain ⟨haddress, haddressType⟩ := staticText_of_value "Address" hnames h rfl htype
  obtain ⟨hnetmask, -⟩ := staticText_of_value "Netmask" hnames h rfl htype
  obtain ⟨hgateway, hgatewayType⟩ := staticText_of_value "Gateway" hnames h rfl htype
  obtain ⟨hdns, hdnsTypes⟩ := staticTexts_of_value "DNS" hnames h rfl htype
  constructor
  · rw [IPv4StaticConfig.ofStruct, haddress, hnetmask, hgateway, hdns]
  · intro text hmem
    rw [IPv4StaticConfig.addresses, List.mem_cons, List.mem_cons] at hmem
    rcases hmem with rfl | rfl | hmem
    · apply htext haddressType
    · apply htext hgatewayType
    · apply htext (Or.inr (hdnsTypes text hmem))

theorem IPv6StaticConfig.of_value {s : IPv6StaticConfig} {config' : Struct Empty}
    (h : validateStatic parsers order s.struct = .value config') :
  IPv6StaticConfig.ofStruct config' = s ∧
    (∀ text ∈ s.addresses, text = "" ∨ ∃ ip, parseIP text.toList = some ip) ∧
    (s.ipPrefix.string = "" ∨ (parseCIDR s.ipPrefix.string.toList).isSome)
  := by
  have hnames := s.names_nodup
  have htype : "ipv6" ∈ splitString "ipv6" := by decide
  have hprefixType : "ipv6_prefix" ∈ splitString "ipv6_prefix" := by decide
  have htext : ∀ {text : String}, (text = "" ∨ ∃ ref, FieldConfig.validateType parsers ref text
      "ipv6" = .value ()) → text = "" ∨ ∃ ip, parseIP text.toList = some ip := by
    intro text
    apply Or.imp_right
    rintro ⟨ref, hpasses⟩
    apply parseIP_of_type hpasses
  obtain ⟨hcidr, hcidrType⟩ := staticText_of_value "Prefix" hnames h rfl hprefixType
  obtain ⟨hgateway, hgatewayType⟩ := staticText_of_value "Gateway" hnames h rfl htype
  obtain ⟨hdns, hdnsTypes⟩ := staticTexts_of_value "DNS" hnames h rfl htype
  refine ⟨?_, ?_, ?_⟩
  · rw [IPv6StaticConfig.ofStruct, hcidr, hgateway, hdns]
  · intro text hmem
    rw [IPv6StaticConfig.addresses, List.mem_cons] at hmem
    rcases hmem with rfl | hmem
    · apply htext hgatewayType
    · apply htext (Or.inr (hdnsTypes text hmem))
  · rcases hcidrType with hempty | ⟨ref, hpasses⟩
    · apply Or.inl hempty
    · apply Or.inr (parseCIDR_of_type hpasses)

/-- What the checks find of a configuration, and what they change. -/
structure Passed (parsers : TextParsers) (c c' : NetworkConfig) : Prop where
  lldpTxTLVs : ValidStrings parsers lldpTxTLVsTag c.lldpTxTLVs c'.lldpTxTLVs
  timeSyncOrdering :
    ValidStrings parsers timeSyncOrderingTag c.timeSyncOrdering c'.timeSyncOrdering
  timeSyncNTPServers : c'.timeSyncNTPServers = c.timeSyncNTPServers
  timeSyncHTTPUrls : c'.timeSyncHTTPUrls = c.timeSyncHTTPUrls
  ipv4Mode : c'.ipv4Mode = static ↔ c.ipv4Mode = static
  ipv6Mode : c'.ipv6Mode = static ↔ c.ipv6Mode = static
  ipv4Static : c.ipv4Mode = static → ∃ s, c.ipv4Static = some s ∧ c'.ipv4Static = some s ∧
    ∀ text ∈ s.addresses, text = "" ∨ IsIPv4Address text.toList
  ipv6Static : c.ipv6Mode = static → ∃ s, c.ipv6Static = some s ∧ c'.ipv6Static = some s ∧
    (∀ text ∈ s.addresses, text = "" ∨ ∃ ip, parseIP text.toList = some ip) ∧
    (s.ipPrefix.string = "" ∨ (parseCIDR s.ipPrefix.string.toList).isSome)

/-- A mode that has passed is static when it was so before. -/
theorem ValidString.eq_static_iff {tag : Tag} {s s' : NullString}
    (h : ValidString parsers tag s s') (hdefault : tag.default ≠ "") (hne : tag.default ≠ "static") :
  s' = static ↔ s = static
  := by
  cases hvalid : s.valid with
  | true => rw [h.keeps (Or.inl hvalid)]
  | false =>
      rw [h.default hvalid hdefault]
      constructor
      · intro heq
        exact absurd (NullString.mk.inj heq).1 hne
      · rintro rfl
        cases hvalid

theorem passed_of_value {c c' : NetworkConfig}
    (h : c.setDefaultsAndValidate parsers order = .value c') :
  Passed parsers c c'
  := by
  rw [NetworkConfig.setDefaultsAndValidate] at h
  obtain ⟨s', hpasses, hs'⟩ := Outcome.bind_eq_value.mp h
  obtain rfl := Outcome.value.inj hs'
  have hnames := c.names_nodup
  have hmatches : ∀ {mode : NullString} {name : String} {tag : Tag}, mode = static →
      FieldConfig.matchesRequiredIf (nullStringField name mode tag : Field (Struct Empty)).value
        "static" = .value true := by
    rintro mode name tag rfl
    rfl
  constructor
  · exact validStrings_of_value "LLDPTxTLVs" hnames hpasses rfl rfl
  · exact validStrings_of_value "TimeSyncOrdering" hnames hpasses rfl rfl
  · apply (validStrings_of_value "TimeSyncNTPServers" hnames hpasses rfl rfl).keeps
    right
    rfl
  · apply (validStrings_of_value "TimeSyncHTTPUrls" hnames hpasses rfl rfl).keeps
    right
    rfl
  · apply (validString_of_value "IPv4Mode" hnames hpasses rfl rfl).eq_static_iff
    · change "dhcp" ≠ ""
      decide
    · change "dhcp" ≠ "static"
      decide
  · apply (validString_of_value "IPv6Mode" hnames hpasses rfl rfl).eq_static_iff
    · change "slaac" ≠ ""
      decide
    · change "slaac" ≠ "static"
      decide
  · intro hmode
    obtain ⟨t, t', ht, ht', htarget⟩ :=
      target_of_value "IPv4Static" hnames hpasses rfl "IPv4Mode" "static" rfl rfl
        (fieldRequiredIf_singleton "IPv4Mode=static" rfl (by decide) (by decide)) rfl
        (hmatches hmode)
    obtain ⟨s, hs, rfl⟩ := Option.map_eq_some_iff.mp ht
    obtain ⟨hsame, htexts⟩ := IPv4StaticConfig.of_value ht'
    refine ⟨s, hs, ?_, htexts⟩
    rw [NetworkConfig.ofStruct, htarget, Option.map_some, hsame]
  · intro hmode
    obtain ⟨t, t', ht, ht', htarget⟩ :=
      target_of_value "IPv6Static" hnames hpasses rfl "IPv6Mode" "static" rfl rfl
        (fieldRequiredIf_singleton "IPv6Mode=static" rfl (by decide) (by decide)) rfl
        (hmatches hmode)
    obtain ⟨s, hs, rfl⟩ := Option.map_eq_some_iff.mp ht
    obtain ⟨hsame, htexts⟩ := IPv6StaticConfig.of_value ht'
    refine ⟨s, hs, ?_, htexts⟩
    rw [NetworkConfig.ofStruct, htarget, Option.map_some, hsame]

end Passed

/-! ### Lists -/

/-- The lists of a configuration. -/
theorem NetworkConfig.forall_lists {c : NetworkConfig}
    {p : Field (Struct Empty) → List String → Prop} :
  (∀ field ∈ c.struct, ∀ slice, field.value = .strings slice → p field slice) ↔
    p (stringsField "LLDPTxTLVs" c.lldpTxTLVs lldpTxTLVsTag) c.lldpTxTLVs ∧
    p (stringsField "TimeSyncOrdering" c.timeSyncOrdering timeSyncOrderingTag)
      c.timeSyncOrdering ∧
    p (stringsField "TimeSyncNTPServers" c.timeSyncNTPServers timeSyncNTPServersTag)
      c.timeSyncNTPServers ∧
    p (stringsField "TimeSyncHTTPUrls" c.timeSyncHTTPUrls timeSyncHTTPUrlsTag) c.timeSyncHTTPUrls
  := by
  simp [NetworkConfig.struct, nullStringField, stringsField]

theorem NetworkConfig.listsAllowed_iff {c : NetworkConfig} :
  ListsAllowed c.struct ↔
    (∀ item ∈ c.lldpTxTLVs, item ∈ splitString lldpTxTLVsTag.oneOf) ∧
    ∀ item ∈ c.timeSyncOrdering, item ∈ splitString timeSyncOrderingTag.oneOf
  := by
  have htlvsTag : lldpTxTLVsTag.oneOf ≠ "" := by decide
  have horderingTag : timeSyncOrderingTag.oneOf ≠ "" := by decide
  rw [ListsAllowed, forall_lists]
  constructor
  · rintro ⟨htlvs, hordering, -⟩
    exact ⟨htlvs htlvsTag, hordering horderingTag⟩
  · rintro ⟨htlvs, hordering⟩
    exact ⟨fun _ => htlvs, fun _ => hordering, fun h => absurd rfl h, fun h => absurd rfl h⟩

theorem NetworkConfig.listsPresent_iff {c : NetworkConfig} :
  ListsPresent c.struct ↔
    ("ntp_user_provided" ∈ c.timeSyncOrdering → c.timeSyncNTPServers ≠ []) ∧
    ("http_user_provided" ∈ c.timeSyncOrdering → c.timeSyncHTTPUrls ≠ [])
  := by
  have hordering : lookup c.struct "TimeSyncOrdering" = some (.strings c.timeSyncOrdering) := rfl
  have hntp : fieldRequiredIf (stringsField "TimeSyncNTPServers" c.timeSyncNTPServers
      timeSyncNTPServersTag : Field (Struct Empty)) =
        .value [("TimeSyncOrdering", "ntp_user_provided")] :=
    fieldRequiredIf_singleton timeSyncNTPServersTag.requiredIf rfl (by decide) (by decide)
  have hhttp : fieldRequiredIf (stringsField "TimeSyncHTTPUrls" c.timeSyncHTTPUrls
      timeSyncHTTPUrlsTag : Field (Struct Empty)) =
        .value [("TimeSyncOrdering", "http_user_provided")] :=
    fieldRequiredIf_singleton timeSyncHTTPUrlsTag.requiredIf rfl (by decide) (by decide)
  have hone : ∀ {field : Field (Struct Empty)} {text : String} {slice : List String},
      fieldRequiredIf field = .value [("TimeSyncOrdering", text)] →
        ((∀ entries, fieldRequiredIf field = .value entries → ∀ entry ∈ entries, ∀ other,
          lookup c.struct entry.1 = some (.strings other) → entry.2 ∈ other → slice ≠ []) ↔
          (text ∈ c.timeSyncOrdering → slice ≠ [])) := by
    intro field text slice hentries
    constructor
    · intro h
      apply h _ hentries _ (List.mem_singleton_self _) _ hordering
    · intro h entries hentries' entry hentry other hother
      obtain rfl := Outcome.value.inj (hentries.symm.trans hentries')
      obtain rfl := List.mem_singleton.mp hentry
      obtain rfl := Value.strings.inj (Option.some.inj (hordering.symm.trans hother))
      exact h
  have hnone : ∀ {field : Field (Struct Empty)} {slice : List String},
      field.tag.requiredIf = "" →
        ∀ entries, fieldRequiredIf field = .value entries → ∀ entry ∈ entries, ∀ other,
          lookup c.struct entry.1 = some (.strings other) → entry.2 ∈ other → slice ≠ [] := by
    intro field slice htag entries hentries
    rw [fieldRequiredIf, if_pos htag] at hentries
    rw [← Outcome.value.inj hentries]
    exact fun _ hentry => absurd hentry List.not_mem_nil
  rw [ListsPresent, forall_lists, hone hntp, hone hhttp]
  constructor
  · rintro ⟨-, -, h⟩
    exact h
  · intro h
    exact ⟨hnone rfl, hnone rfl, h⟩

/-- A list that has passed has allowed items only, unless it mixes them with others. -/
theorem ValidStrings.allowed_iff {parsers : TextParsers} {tag : Tag} {slice slice' : List String}
    (h : ValidStrings parsers tag slice slice') (hdefault : tag.default ≠ "")
    (hne : splitString tag.oneOf ≠ [])
    (hdefaults : ∀ item ∈ splitComma tag.default, item ∈ splitString tag.oneOf) :
  (∀ item ∈ slice', item ∈ splitString tag.oneOf) ↔ ¬ Mixes tag slice
  := by
  by_cases hslice : slice = []
  · rw [h.default hslice hdefault, iff_true_left hdefaults, hslice]
    rintro ⟨⟨item, hitem, -⟩, -⟩
    exact absurd hitem List.not_mem_nil
  · obtain ⟨value, hvalue, hmem⟩ := h.oneOf hne
    have hsame := h.keeps (Or.inl hslice)
    rw [hsame] at hmem ⊢
    constructor
    · rintro hall ⟨-, item, hitem, hforeign⟩
      exact hforeign (hall item hitem)
    · intro hmixes item hitem
      by_contra hforeign
      exact hmixes ⟨⟨value, hmem, hvalue⟩, item, hitem, hforeign⟩

/-- What is no default is in a list after its defaults are set when it was so before. -/
theorem ValidStrings.mem_iff {parsers : TextParsers} {tag : Tag} {slice slice' : List String}
    {text : String} (h : ValidStrings parsers tag slice slice') (hdefault : tag.default ≠ "")
    (hne : text ∉ splitComma tag.default) :
  text ∈ slice' ↔ text ∈ slice
  := by
  by_cases hslice : slice = []
  · rw [h.default hslice hdefault, hslice, iff_false_left hne]
    exact List.not_mem_nil
  · rw [h.keeps (Or.inl hslice)]

/-- A configuration that has passed is sound exactly when it is of no kind that slips through. -/
theorem NetworkConfig.sound_iff {parsers : TextParsers} {order : RangeOrder} {c c' : NetworkConfig}
    (h : c.setDefaultsAndValidate parsers order = .value c') :
  c'.Sound ↔ ¬ c.SlipsThrough
  := by
  have hpassed := passed_of_value h
  have htlvs := hpassed.lldpTxTLVs.allowed_iff (by decide) (by decide) (by decide)
  have hordering := hpassed.timeSyncOrdering.allowed_iff (by decide) (by decide) (by decide)
  have hntp : "ntp_user_provided" ∈ c'.timeSyncOrdering ↔ _ :=
    hpassed.timeSyncOrdering.mem_iff (by decide) (by decide)
  have hhttp : "http_user_provided" ∈ c'.timeSyncOrdering ↔ _ :=
    hpassed.timeSyncOrdering.mem_iff (by decide) (by decide)
  constructor
  · intro hsound hslips
    obtain ⟨hallowedTLVs, hallowedOrdering⟩ := listsAllowed_iff.mp hsound.allowed
    obtain ⟨hpresentNTP, hpresentHTTP⟩ := listsPresent_iff.mp hsound.present
    cases hslips with
    | mixedTLVs hmixes => exact htlvs.mp hallowedTLVs hmixes
    | mixedOrdering hmixes => exact hordering.mp hallowedOrdering hmixes
    | noNTPServers hmem hservers =>
        apply hpresentNTP (hntp.mpr hmem)
        rw [hpassed.timeSyncNTPServers, hservers]
    | noHTTPUrls hmem hurls =>
        apply hpresentHTTP (hhttp.mpr hmem)
        rw [hpassed.timeSyncHTTPUrls, hurls]
    | ipv4Text s text hmode hs htext hslips =>
        obtain ⟨s', hs', hkept, hpasses⟩ := hpassed.ipv4Static hmode
        obtain rfl := Option.some.inj (hs.symm.trans hs')
        obtain ⟨s'', hs'', hsound⟩ := hsound.ipv4 (hpassed.ipv4Mode.mpr hmode)
        obtain rfl := Option.some.inj (hkept.symm.trans hs'')
        obtain ⟨hne, hliteral⟩ := hsound text htext
        rcases hslips with hempty | hcolon
        · exact hne hempty
        · exact (isIPv4Literal_iff ((hpasses text htext).resolve_left hne)).mp hliteral hcolon
    | ipv6Text s text hmode hs htext hslips =>
        obtain ⟨s', hs', hkept, hpasses, -⟩ := hpassed.ipv6Static hmode
        obtain rfl := Option.some.inj (hs.symm.trans hs')
        obtain ⟨s'', hs'', hsound, -⟩ := hsound.ipv6 (hpassed.ipv6Mode.mpr hmode)
        obtain rfl := Option.some.inj (hkept.symm.trans hs'')
        obtain ⟨hne, hliteral⟩ := hsound text htext
        obtain ⟨ip, hip⟩ := (hpasses text htext).resolve_left hne
        rcases hslips with hempty | hfour
        · exact hne hempty
        · exact (isIPv6Literal_iff hip).mp hliteral hfour
    | ipv6Prefix s hmode hs hslips =>
        obtain ⟨s', hs', hkept, -, hpasses⟩ := hpassed.ipv6Static hmode
        obtain rfl := Option.some.inj (hs.symm.trans hs')
        obtain ⟨s'', hs'', -, hne, hcidr⟩ := hsound.ipv6 (hpassed.ipv6Mode.mpr hmode)
        obtain rfl := Option.some.inj (hkept.symm.trans hs'')
        rcases hslips with hempty | hfour
        · exact hne hempty
        · exact (isIPv6Prefix_iff (hpasses.resolve_left hne)).mp hcidr hfour
  · intro hslips
    constructor
    · apply listsAllowed_iff.mpr
      constructor
      · apply htlvs.mpr
        exact fun hmixes => hslips (.mixedTLVs hmixes)
      · apply hordering.mpr
        exact fun hmixes => hslips (.mixedOrdering hmixes)
    · apply listsPresent_iff.mpr
      constructor
      · intro hmem hservers
        rw [hpassed.timeSyncNTPServers] at hservers
        exact hslips (.noNTPServers (hntp.mp hmem) hservers)
      · intro hmem hurls
        rw [hpassed.timeSyncHTTPUrls] at hurls
        exact hslips (.noHTTPUrls (hhttp.mp hmem) hurls)
    · intro hmode
      have hmode := hpassed.ipv4Mode.mp hmode
      obtain ⟨s, hs, hkept, hpasses⟩ := hpassed.ipv4Static hmode
      refine ⟨s, hkept, fun text htext => ?_⟩
      have hne : text ≠ "" := fun hempty => hslips (.ipv4Text s text hmode hs htext (Or.inl hempty))
      use hne
      rw [isIPv4Literal_iff ((hpasses text htext).resolve_left hne)]
      exact fun hcolon => hslips (.ipv4Text s text hmode hs htext (Or.inr hcolon))
    · intro hmode
      have hmode := hpassed.ipv6Mode.mp hmode
      obtain ⟨s, hs, hkept, hpasses, hcidr⟩ := hpassed.ipv6Static hmode
      refine ⟨s, hkept, fun text htext => ?_, ?_⟩
      · have hne : text ≠ "" := fun hempty =>
          hslips (.ipv6Text s text hmode hs htext (Or.inl hempty))
        obtain ⟨ip, hip⟩ := (hpasses text htext).resolve_left hne
        use hne
        rw [isIPv6Literal_iff hip]
        exact fun hfour => hslips (.ipv6Text s text hmode hs htext (Or.inr hfour))
      · have hne : s.ipPrefix.string ≠ "" := fun hempty =>
          hslips (.ipv6Prefix s hmode hs (Or.inl hempty))
        use hne
        rw [isIPv6Prefix_iff (hcidr.resolve_left hne)]
        exact fun hfour => hslips (.ipv6Prefix s hmode hs (Or.inr hfour))

/-! ### A configuration that slips through -/

/-- The configuration of a new device, `&types.NetworkConfig{}`. -/
def NetworkConfig.zero : NetworkConfig where
  dhcpClient := ⟨"", false⟩
  hostname := ⟨"", false⟩
  httpProxy := ⟨"", false⟩
  domain := ⟨"", false⟩
  ipv4Mode := ⟨"", false⟩
  ipv4Static := none
  ipv6Mode := ⟨"", false⟩
  ipv6Static := none
  lldpMode := ⟨"", false⟩
  lldpTxTLVs := []
  mdnsMode := ⟨"", false⟩
  timeSyncMode := ⟨"", false⟩
  timeSyncOrdering := []
  timeSyncDisableFallback := ⟨false, false⟩
  timeSyncParallel := ⟨0, false⟩
  timeSyncNTPServers := []
  timeSyncHTTPUrls := []

/-- The same configuration with its defaults. -/
def NetworkConfig.withDefaults : NetworkConfig where
  dhcpClient := ⟨"udhcpc", true⟩
  hostname := ⟨"", false⟩
  httpProxy := ⟨"", false⟩
  domain := ⟨"", false⟩
  ipv4Mode := ⟨"dhcp", true⟩
  ipv4Static := none
  ipv6Mode := ⟨"slaac", true⟩
  ipv6Static := none
  lldpMode := ⟨"basic", true⟩
  lldpTxTLVs := ["chassis", "port", "system", "vlan"]
  mdnsMode := ⟨"auto", true⟩
  timeSyncMode := ⟨"ntp_and_http", true⟩
  timeSyncOrdering := ["ntp", "http"]
  timeSyncDisableFallback := ⟨false, true⟩
  timeSyncParallel := ⟨4, true⟩
  timeSyncNTPServers := []
  timeSyncHTTPUrls := []

/-- Parsers that accept nothing, for texts that are never read. -/
def noParsers : TextParsers where
  toASCII := fun _ => false
  parseMAC := fun _ => false
  parseURL := fun _ => none

/-- Maps are ranged over in the order in which they were written. -/
def writtenOrder : RangeOrder where
  range := fun entries => entries
  perm := fun entries => List.Perm.refl entries

example :
  NetworkConfig.zero.setDefaultsAndValidate noParsers writtenOrder = .value NetworkConfig.withDefaults
  := by decide +kernel

/-- A section that has IPv4 addresses where it should have IPv6 addresses. -/
def fourInSix : IPv6StaticConfig where
  ipPrefix := ⟨"10.0.0.0/8", true⟩
  gateway := ⟨"10.0.0.1", true⟩
  dns := ["8.8.8.8"]

/-- The addresses of the section pass as IPv6 addresses, the ordering has an item that is not
allowed, and the servers that it names are missing. -/
theorem not_sound_fourInSix :
  ∃ c', NetworkConfig.setDefaultsAndValidate noParsers writtenOrder
      { NetworkConfig.zero with
        ipv6Mode := static
        ipv6Static := some fourInSix
        timeSyncOrdering := ["ntp_user_provided", "sundial"] } = .value c' ∧
    ¬ ListsAllowed c'.struct ∧ ¬ ListsPresent c'.struct ∧ ¬ c'.Sound
  := by
  refine ⟨{ NetworkConfig.withDefaults with
      ipv6Mode := static
      ipv6Static := some fourInSix
      timeSyncOrdering := ["ntp_user_provided", "sundial"] }, by decide +kernel, ?_, ?_, ?_⟩
  · rw [NetworkConfig.listsAllowed_iff]
    decide
  · rw [NetworkConfig.listsPresent_iff]
    decide
  · intro hsound
    have hpresent := hsound.present
    rw [NetworkConfig.listsPresent_iff] at hpresent
    revert hpresent
    decide

/-- The configuration with a static section for IPv4 and with a server of the user's. -/
def NetworkConfig.withStatic (c : NetworkConfig) : NetworkConfig :=
  { c with
    ipv4Mode := static
    ipv4Static := some
      { address := ⟨"192.168.1.20", true⟩
        netmask := ⟨"255.255.255.0", true⟩
        gateway := ⟨"192.168.1.1", true⟩
        dns := ["192.168.1.1", "8.8.8.8"] }
    timeSyncOrdering := ["http", "ntp_user_provided"]
    timeSyncNTPServers := ["192.168.1.1"] }

theorem NetworkConfig.not_slipsThrough_static :
  ¬ NetworkConfig.zero.withStatic.SlipsThrough
  := by
  intro hslips
  cases hslips with
  | mixedTLVs hmixes =>
      obtain ⟨⟨item, hitem, -⟩, -⟩ := hmixes
      cases hitem
  | mixedOrdering hmixes =>
      obtain ⟨-, item, hitem, hforeign⟩ := hmixes
      have hallowed : ∀ item ∈ NetworkConfig.zero.withStatic.timeSyncOrdering,
          item ∈ splitString timeSyncOrderingTag.oneOf := by decide
      exact hforeign (hallowed item hitem)
  | noNTPServers _ hservers => cases hservers
  | noHTTPUrls hmem _ => exact absurd hmem (by decide)
  | ipv4Text s text _ hs htext hslips =>
      obtain rfl := Option.some.inj hs
      have hdotted : ∀ text ∈ ["192.168.1.20", "192.168.1.1", "192.168.1.1", "8.8.8.8"],
          text ≠ "" ∧ ∃ address ∈ [[192, 168, 1, 20], [192, 168, 1, 1], [8, 8, 8, 8]],
            parseAddr text.toList = some (.v4 address) := by decide
      obtain ⟨hne, address, -, haddress⟩ := hdotted text htext
      rcases hslips with hempty | ⟨bytes, zone, hcolon⟩
      · exact hne hempty
      · cases haddress.symm.trans hcolon
  | ipv6Text s text hmode => exact absurd hmode (by decide)
  | ipv6Prefix s hmode => exact absurd hmode (by decide)

/-- The static section passes, and it is sound. -/
theorem sound_iff_static :
  NetworkConfig.withDefaults.withStatic.Sound
  := by
  have hpasses : NetworkConfig.zero.withStatic.setDefaultsAndValidate noParsers writtenOrder =
      .value NetworkConfig.withDefaults.withStatic := by decide +kernel
  exact (NetworkConfig.sound_iff hpasses).mpr NetworkConfig.not_slipsThrough_static

end JetKvm.ConfParser

import JetKvm.Network.LeaseFile

/-!
# The files of the two DHCP clients

Both clients go over the fields of a struct. That of udhcpc goes over the fields of the lease, and
marks those that it has read as empty. That of jetdhcpc goes over the fields of the struct in which
the lease is embedded, none of which has a tag, so that nothing is written and nothing is read.
-/

namespace JetKvm.LeaseFile

/-! ### The files of udhcpc -/

namespace Udhcpc

/-- `udhcpc.Lease`. -/
structure Lease where
  lease : DHCPLease
  isEmpty : List (String × Bool)

def Lease.new : Lease where
  lease := DHCPLease.new
  isEmpty := []

def Lease.IsEmpty (l : Lease) (key : String) : Bool :=
  (l.isEmpty.lookup key).getD false

/-- The lease that is left, and the error that is returned. -/
def UnmarshalDHCPCLease (parsers : NumberParsers) (obj : Lease) (str : String) :
    Lease × Option String :=
  let reading := readFields parsers (data str) obj.lease.fields
  let lease := obj.lease.read parsers (data str)
  match reading.err with
  | some err => ({ obj with lease := lease }, some err)
  | none => ({ lease := lease, isEmpty := reading.valuesParsed }, none)

/-- What is promised of the text of a file that is read into a new lease. -/
structure ReadsLease (parsers : NumberParsers) (str : String) : Prop where
  returnsNil : (UnmarshalDHCPCLease parsers Lease.new str).2 = none
  fields : ∀ f ∈ (UnmarshalDHCPCLease parsers Lease.new str).1.lease.fields, f.1.env ≠ "" →
    f.2 = (parsedValue parsers str f.1).getD (zero f.1.type)
  isEmpty : ∀ info ∈ leaseFields, info.env ≠ "" →
    ((UnmarshalDHCPCLease parsers Lease.new str).1.IsEmpty info.env = true ↔
      (parsedValue parsers str info : Option (Value Contents)) = none)

variable {parsers : NumberParsers} {str : String}

/-- An error is returned exactly for the files with a search list. -/
theorem err_eq_none_iff :
  (UnmarshalDHCPCLease parsers Lease.new str).2 = none ↔ textOf (data str) "search" = none
  := by
  have herr : (UnmarshalDHCPCLease parsers Lease.new str).2 =
      (readFields parsers (data str) Lease.new.lease.fields).err := by
    rw [UnmarshalDHCPCLease]
    cases (readFields parsers (data str) Lease.new.lease.fields).err with
    | none => rfl
    | some err => rfl
  rw [herr, err_readFields_eq_none_iff]
  constructor
  · intro h
    have hsearch : (⟨"SearchList", .unsupported "[]string", "search"⟩ : FieldInfo) ∈ leaseFields := by
      decide +kernel
    have hne : "search" ≠ "" := by decide
    apply h _ (List.mem_map_of_mem hsearch) hne "[]string" rfl
  · intro h f hf htag name htype
    obtain ⟨info, hinfo, rfl⟩ := List.mem_map.mp hf
    rcases type_of_tag info hinfo with hempty | hsearch | hread
    · exact absurd hempty htag
    · rw [hsearch]
      exact h
    · rw [htype] at hread
      revert hread
      simp

/-- Without an error the fields are read as promised. -/
theorem fields_of_err_eq_none (h : (UnmarshalDHCPCLease parsers Lease.new str).2 = none) :
  (UnmarshalDHCPCLease parsers Lease.new str).1.lease.fields =
      DHCPLease.new.fields.map (fun f =>
        (f.1, if f.1.env = "" then f.2 else (parsedValue parsers str f.1).getD f.2)) ∧
    (UnmarshalDHCPCLease parsers Lease.new str).1.isEmpty =
      (DHCPLease.new.fields.filter fun f => f.1.env ≠ "").map fun f =>
        (f.1.env, (parsedValue parsers str f.1 : Option (Value Contents)).isSome)
  := by
  rw [UnmarshalDHCPCLease] at h ⊢
  cases hreading : (readFields parsers (data str) Lease.new.lease.fields).err with
  | some err =>
      rw [hreading] at h
      cases h
  | none =>
      apply readFields_of_err_eq_none hreading

/-- `IsEmpty` tells which fields have been read. -/
theorem isEmpty_eq (h : (UnmarshalDHCPCLease parsers Lease.new str).2 = none) {info : FieldInfo}
    (hinfo : info ∈ leaseFields) (htag : info.env ≠ "") :
  (UnmarshalDHCPCLease parsers Lease.new str).1.IsEmpty info.env =
    (parsedValue parsers str info : Option (Value Contents)).isSome
  := by
  obtain ⟨-, hisEmpty⟩ := fields_of_err_eq_none h
  have htagged : info ∈ leaseFields.filter fun info => info.env ≠ "" := by
    apply List.mem_filter.mpr
    exact ⟨hinfo, decide_eq_true htag⟩
  have hlookup := lookup_map_of_nodup
    (g := fun info => (parsedValue parsers str info : Option (Value Contents)).isSome)
    tags_nodup htagged
  rw [Lease.IsEmpty, hisEmpty, DHCPLease.new, List.filter_map, List.map_map]
  exact congrArg (fun read => read.getD false) hlookup

/-- No file is read as promised. -/
theorem not_readsLease (parsers : NumberParsers) (str : String) :
  ¬ ReadsLease parsers str
  := by
  intro h
  have hinfo : ⟨"IPAddress", .ip, "ip"⟩ ∈ leaseFields := List.mem_cons_self
  have htag : "ip" ≠ "" := by decide
  have hread := isEmpty_eq h.returnsNil hinfo htag
  have hpromised := h.isEmpty _ hinfo htag
  rw [hread] at hpromised
  cases hvalue : (parsedValue parsers str ⟨"IPAddress", .ip, "ip"⟩ : Option (Value Contents)) with
  | none => simp [hvalue] at hpromised
  | some v => simp [hvalue] at hpromised

/-- The address of a file is read, and passes for empty. -/
theorem not_readsLease_address :
  (UnmarshalDHCPCLease wholeSeconds Lease.new "ip=192.168.1.50").1.IsEmpty "ip" = true ∧
    ¬ ReadsLease wholeSeconds "ip=192.168.1.50"
  := by
  have hempty :
      (UnmarshalDHCPCLease wholeSeconds Lease.new "ip=192.168.1.50").1.IsEmpty "ip" = true := by
    decide +kernel
  use hempty
  intro h
  have hinfo : ⟨"IPAddress", .ip, "ip"⟩ ∈ leaseFields := List.mem_cons_self
  have htag : "ip" ≠ "" := by decide
  have hnone := (h.isEmpty _ hinfo htag).mp hempty
  revert hnone
  decide +kernel

end Udhcpc

/-! ### The files of jetdhcpc -/

namespace Jetdhcpc

/-- What the fields of `jetdhcpc.Lease` hold. A pointer is an address. -/
inductive LeaseContents where
  | dhcpLease (lease : DHCPLease)
  | pointer (address : ℕ)
  | map (m : List (String × Bool))

/-- `jetdhcpc.Lease`. -/
structure Lease where
  lease : DHCPLease
  p4 : ℕ
  p6 : ℕ
  isEmpty : List (String × Bool)

def Lease.new : Lease where
  lease := DHCPLease.new
  p4 := 0
  p6 := 0
  isEmpty := []

/-- The fields of the struct, the first of which is embedded. None of them has a tag. -/
def Lease.fields (l : Lease) : Fields LeaseContents :=
  [ (⟨"DHCPLease", .unsupported "types.DHCPLease", ""⟩,
      .unsupported "types.DHCPLease" (.dhcpLease l.lease)),
    (⟨"p4", .unsupported "*nclient4.Lease", ""⟩,
      .unsupported "*nclient4.Lease" (.pointer l.p4)),
    (⟨"p6", .unsupported "*dhcpv6.Message", ""⟩,
      .unsupported "*dhcpv6.Message" (.pointer l.p6)),
    (⟨"isEmpty", .unsupported "map[string]bool", ""⟩,
      .unsupported "map[string]bool" (.map l.isEmpty)) ]

/-- The struct with the given fields. -/
def Lease.withFields (l : Lease) (fields : Fields LeaseContents) : Lease :=
  match fields with
  | [(_, .unsupported _ (.dhcpLease lease)), (_, .unsupported _ (.pointer p4)),
      (_, .unsupported _ (.pointer p6)), (_, .unsupported _ (.map isEmpty))] =>
      ⟨lease, p4, p6, isEmpty⟩
  | _ => l

/-- The lease that is left, and the error that is returned. -/
def UnmarshalDHCPCLease (parsers : NumberParsers) (lease : Lease) (str : String) :
    Lease × Option String :=
  let reading := readFields parsers (data str) lease.fields
  match reading.err with
  | some err => (lease.withFields reading.fields, some err)
  | none => ({ lease.withFields reading.fields with isEmpty := reading.valuesParsed }, none)

def MarshalDHCPCLease (intSize : ℕ) (lease : Lease) : Except String String :=
  writeFields intSize "" lease.fields

/-- The lease has the same fields with tags after it has been written and read again. -/
def RoundTrips (parsers : NumberParsers) (intSize : ℕ) (lease : Lease) : Prop :=
  ∃ file lease', MarshalDHCPCLease intSize lease = .ok file ∧
    UnmarshalDHCPCLease parsers Lease.new file = (lease', none) ∧
    ∀ f ∈ lease.lease.fields, f.1.env ≠ "" → f ∈ lease'.lease.fields

/-- Nothing is written. -/
theorem marshalDHCPCLease_eq (intSize : ℕ) (lease : Lease) :
  MarshalDHCPCLease intSize lease = .ok ""
  := rfl

/-- Nothing is read. -/
theorem unmarshalDHCPCLease_eq (parsers : NumberParsers) (lease : Lease) (str : String) :
  UnmarshalDHCPCLease parsers lease str = ({ lease with isEmpty := [] }, none)
  := rfl

/-- A lease is the same after it has been written and read when its fields with tags are zero. -/
theorem roundTrips_iff (parsers : NumberParsers) (intSize : ℕ) (lease : Lease) :
  RoundTrips parsers intSize lease ↔
    ∀ f ∈ lease.lease.fields, f.1.env ≠ "" → f.2 = zero f.1.type
  := by
  have hmem : ∀ f ∈ lease.lease.fields, f ∈ DHCPLease.new.fields ↔ f.2 = zero f.1.type := by
    intro f hf
    have hinfo : f.1 ∈ leaseFields := by
      rw [← lease.lease.shape]
      exact List.mem_map_of_mem hf
    constructor
    · intro h
      obtain ⟨info, -, rfl⟩ := List.mem_map.mp h
      rfl
    · intro h
      apply List.mem_map.mpr
      exact ⟨f.1, hinfo, Prod.ext rfl h.symm⟩
  constructor
  · rintro ⟨file, lease', -, hread, hsame⟩ f hf htag
    rw [unmarshalDHCPCLease_eq] at hread
    obtain ⟨rfl, -⟩ := Prod.mk.inj hread
    apply (hmem f hf).mp
    apply hsame f hf htag
  · intro h
    refine ⟨"", { Lease.new with isEmpty := [] }, marshalDHCPCLease_eq intSize lease,
      unmarshalDHCPCLease_eq parsers Lease.new "", ?_⟩
    intro f hf htag
    apply (hmem f hf).mpr
    apply h f hf htag

/-- The strings of the lease have no line breaks or surrounding blanks, its durations are whole
seconds, and its addresses are valid. -/
structure Writable (lease : DHCPLease) : Prop where
  strings : ∀ f ∈ lease.fields, ∀ s, f.2 = .string s →
    '\n' ∉ s.toList ∧ '\r' ∉ s.toList ∧ trimSpace s = s
  durations : ∀ f ∈ lease.fields, ∀ nanoseconds, f.2 = .duration nanoseconds →
    1000000000 ∣ nanoseconds
  addresses : ∀ f ∈ lease.fields, (∀ ip, f.2 = .ip ip → ip.length = 4 ∨ ip.length = 16) ∧
    ∀ ips, f.2 = .ips ips → ∀ ip ∈ ips, ip.length = 4 ∨ ip.length = 16

/-- A value of each type. -/
def sampleValue : FieldType → Value Contents
  | .string => .string "jetkvm"
  | .int => .int 64
  | .duration => .duration 3600000000000
  | .ip => .ip [192, 168, 1, 50]
  | .ips => .ips [[192, 168, 1, 1]]
  | .unsupported name => zero (.unsupported name)

theorem type_sampleValue (type : FieldType) :
  (sampleValue type).type = type
  := by
  cases type <;> rfl

/-- A lease whose fields are set. -/
def sampleLease : DHCPLease where
  fields := leaseFields.map fun info => (info, sampleValue info.type)
  shape := by rw [List.map_map]; apply List.map_id
  typed := by
    intro f hf
    obtain ⟨info, -, rfl⟩ := List.mem_map.mp hf
    exact type_sampleValue info.type

theorem writable_sampleLease :
  Writable sampleLease
  := by
  have hvalue : ∀ f ∈ sampleLease.fields, f.2 = sampleValue f.1.type := by
    intro f hf
    obtain ⟨info, -, rfl⟩ := List.mem_map.mp hf
    rfl
  constructor
  · intro f hf s hs
    rw [hvalue f hf] at hs
    cases htype : f.1.type with
    | string =>
        rw [htype] at hs
        obtain rfl := Value.string.inj hs
        decide +kernel
    | _ =>
        rw [htype] at hs
        cases hs
  · intro f hf nanoseconds hn
    rw [hvalue f hf] at hn
    cases htype : f.1.type with
    | duration =>
        rw [htype] at hn
        obtain rfl := Value.duration.inj hn
        decide
    | _ =>
        rw [htype] at hn
        cases hn
  · intro f hf
    rw [hvalue f hf]
    cases f.1.type with
    | ip =>
        constructor
        · intro ip hip
          obtain rfl := Value.ip.inj hip
          left
          rfl
        · nofun
    | ips =>
        constructor
        · nofun
        · intro ips hips ip hip
          obtain rfl := Value.ips.inj hips
          obtain rfl := List.mem_singleton.mp hip
          left
          rfl
    | _ => exact ⟨nofun, nofun⟩

/-- The fields of a lease are lost. -/
theorem not_roundTrips_sampleLease :
  Writable sampleLease ∧
    ¬ RoundTrips wholeSeconds 32 { Lease.new with lease := sampleLease }
  := by
  use writable_sampleLease
  rintro ⟨file, lease', -, hread, hsame⟩
  rw [unmarshalDHCPCLease_eq] at hread
  obtain ⟨rfl, -⟩ := Prod.mk.inj hread
  have hostName := hsame (⟨"HostName", .string, "hostname"⟩, .string "jetkvm")
    (by decide +kernel) (by decide)
  revert hostName
  decide +kernel

end Jetdhcpc

end JetKvm.LeaseFile

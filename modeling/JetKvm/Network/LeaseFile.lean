import JetKvm.Network.ConfParser
import JetKvm.Text
import Mathlib.Tactic.Ring

/-!
# Files of leases

A lease is read from a file of lines with a key and a value, and written to one. The fields of a
struct are gone over as reflection gives them, and a field is read from the value of its tag, by its
type. A field whose type is not read stops the loop when its tag has a value, and only then.
-/

namespace JetKvm.LeaseFile

open Network ConfParser

/-- The types of fields that are read and written, and any other type by its name. -/
inductive FieldType where
  | string
  | int
  | duration
  | ip
  | ips
  | unsupported (name : String)
deriving DecidableEq

/-- The value of a field. A slice that is nil is empty, and a duration is in nanoseconds. -/
inductive Value (Other : Type) where
  | string (s : String)
  | int (n : ℤ)
  | duration (nanoseconds : ℤ)
  | ip (ip : IP)
  | ips (ips : List IP)
  | unsupported (name : String) (contents : Other)
deriving DecidableEq

def Value.type {Other : Type} : Value Other → FieldType
  | .string _ => .string
  | .int _ => .int
  | .duration _ => .duration
  | .ip _ => .ip
  | .ips _ => .ips
  | .unsupported name _ => .unsupported name

/-- What reflection tells of a field. The tag is empty when the field does not have it. -/
structure FieldInfo where
  name : String
  type : FieldType
  env : String := ""
deriving DecidableEq

/-- The fields of a struct with their values. -/
abbrev Fields (Other : Type) : Type :=
  List (FieldInfo × Value Other)

/-- `strconv.Atoi`, which depends on the size of integers, and `time.ParseDuration`, which rounds
fractions. -/
structure NumberParsers where
  atoi : String → Option ℤ
  parseDuration : String → Option ℤ

/-! ### The lines -/

/-- The key and the value of a line. -/
def readLine (line : String) : Option (String × String) :=
  let line := trimSpace line
  if line = "" ∨ line.toList.head? = some '#' then none
  else (splitEq line).map fun parts => (trimSpace parts.1, trimSpace parts.2)

/-- The well-formed lines of a text. -/
def entries (str : String) : List (String × String) :=
  ((str.toList.splitOn '\n').map String.ofList).filterMap readLine

/-- The map that a text is parsed as. -/
def data (str : String) : List (String × String) :=
  (entries str).foldl insertEntry []

/-! ### The fields -/

variable {Other : Type}

/-- The case of a type: the value that is read from a text, if it can be parsed. -/
def readValue (parsers : NumberParsers) (key value : String) :
    FieldType → Except String (Option (Value Other))
  | .string => .ok (some (.string value))
  | .int => .ok ((parsers.atoi value).map .int)
  | .duration => .ok ((parsers.parseDuration (value ++ "s")).map .duration)
  | .ip => .ok ((parseIP value.toList).map .ip)
  | .ips =>
      .ok (some (.ips (((value.toList.splitOnP isSpace).filter (· ≠ [])).filterMap parseIP)))
  | .unsupported name => .error s!"unsupported field `{key}` type: {name}"

/-- The text of a tag, unless it is empty. -/
def textOf (data : List (String × String)) (key : String) : Option String :=
  (data.lookup key).filter (· ≠ "")

/-- A round of the loop over the fields: the value that is read, if there is one. -/
def readField (parsers : NumberParsers) (data : List (String × String)) (info : FieldInfo) :
    Except String (Option (Value Other)) :=
  match textOf data info.env with
  | none => .ok none
  | some text => readValue parsers info.env text info.type

/-- What the loop over the fields has made of them, with the map of the tags and the error that has
stopped it. -/
structure Reading (Other : Type) where
  fields : Fields Other
  valuesParsed : List (String × Bool)
  err : Option String

/-- The loop over the fields. -/
def readFields (parsers : NumberParsers) (data : List (String × String)) :
    Fields Other → Reading Other
  | [] => ⟨[], [], none⟩
  | (info, value) :: rest =>
      let next := readFields parsers data rest
      if info.env = "" then { next with fields := (info, value) :: next.fields }
      else
        match readField parsers data info with
        | .error err => ⟨(info, value) :: rest, [(info.env, false)], some err⟩
        | .ok read =>
            { fields := (info, read.getD value) :: next.fields
              valuesParsed := (info.env, read.isSome) :: next.valuesParsed
              err := next.err }

/-- The case of a type: the text of a value. Integers have `intSize` bits. -/
def writeValue (intSize : ℕ) (key : String) : Value Other → Except String String
  | .string s => .ok s
  | .int n => .ok (toString (n.bmod (2 ^ intSize)))
  | .duration nanoseconds => .ok (toString (nanoseconds.bmod (2 ^ intSize)))
  | .ip ip => .ok (String.ofList ip.string)
  | .ips ips => .ok (" ".intercalate (ips.map fun ip => String.ofList ip.string))
  | .unsupported name _ => .error s!"unsupported field `{key}` type: {name}"

/-- The loop that writes the lines of the fields. -/
def writeFields (intSize : ℕ) (leaseFile : String) : Fields Other → Except String String
  | [] => .ok leaseFile
  | (info, value) :: rest =>
      if info.env = "" then writeFields intSize leaseFile rest
      else
        match writeValue intSize info.env value with
        | .error err => .error err
        | .ok outValue => writeFields intSize (leaseFile ++ s!"{info.env}={outValue}\n") rest

/-! ### What is read -/

section Reading

variable {parsers : NumberParsers} {entry : String × String} {m : List (String × String)}
  {key value : String} {info : FieldInfo} {fields : Fields Other}

/-- Only the entries of a key are removed with it. -/
theorem lookup_filter_ne {k : String} :
  (m.filter fun other => other.1 ≠ k).lookup key = if k = key then none else m.lookup key
  := by
  induction m with
  | nil => simp
  | cons other m ih =>
      by_cases hother : other.1 = k
      · rw [List.filter_cons_of_neg (by simpa using hother), ih, List.lookup_cons]
        by_cases hk : k = key
        · rw [if_pos hk, if_pos hk]
        · have hne : (key == other.1) = false := by simpa [hother] using Ne.symm hk
          rw [if_neg hk, if_neg hk, hne]
      · rw [List.filter_cons_of_pos (by simpa using hother), List.lookup_cons, ih, List.lookup_cons]
        cases hkey : key == other.1 with
        | true =>
            have hk : k ≠ key := fun hk => hother ((beq_iff_eq.mp hkey).symm.trans hk.symm)
            rw [if_neg hk, if_neg hk]
        | false => rfl

theorem lookup_insertEntry :
  (insertEntry m entry).lookup key = if entry.1 = key then some entry.2 else m.lookup key
  := by
  rw [insertEntry, List.lookup_append, lookup_filter_ne, List.lookup_singleton]
  by_cases h : entry.1 = key
  · rw [if_pos h, if_pos h, if_pos (beq_iff_eq.mpr h.symm), Option.none_or]
  · have hne : ¬ (key == entry.1) = true := fun heq => h (beq_iff_eq.mp heq).symm
    rw [if_neg h, if_neg h, if_neg hne, Option.or_none]

/-- The value of the last entry of a key. -/
def lastValue (entries : List (String × String)) (key : String) : Option String :=
  ((entries.filter fun entry => entry.1 = key).getLast?).map Prod.snd

/-- The map has the values of the last entries. -/
theorem lookup_foldl_insertEntry (l : List (String × String)) :
  (l.foldl insertEntry m).lookup key = (lastValue l key).or (m.lookup key)
  := by
  induction l generalizing m with
  | nil => rfl
  | cons entry l ih =>
      rw [List.foldl_cons, ih, lookup_insertEntry, lastValue, lastValue]
      by_cases h : entry.1 = key
      · rw [List.filter_cons_of_pos (by simpa using h), if_pos h, List.getLast?_cons]
        cases ((l.filter fun entry => entry.1 = key).getLast?) with
        | none => rfl
        | some last => rfl
      · rw [List.filter_cons_of_neg (by simpa using h), if_neg h]

/-- The value of a field that is read from the entries of a text: there is one when the last entry
of its tag is not empty and can be parsed. -/
def parsedValue (parsers : NumberParsers) (str : String) (info : FieldInfo) :
    Option (Value Other) :=
  ((lastValue (entries str) info.env).filter (· ≠ "")).bind fun text =>
    ((readValue parsers info.env text info.type).toOption).join

theorem parsedValue_of_readField {str : String} {read : Option (Value Other)}
    (h : readField parsers (data str) info = .ok read) :
  parsedValue parsers str info = read
  := by
  have htext : textOf (data str) info.env = (lastValue (entries str) info.env).filter (· ≠ "") := by
    rw [textOf, data, lookup_foldl_insertEntry, List.lookup_nil, Option.or_none]
  rw [readField, htext] at h
  rw [parsedValue]
  cases hfilter : (lastValue (entries str) info.env).filter (· ≠ "") with
  | none =>
      rw [hfilter] at h
      exact Except.ok.inj h
  | some text =>
      rw [hfilter] at h
      dsimp only at h
      rw [Option.bind_some, h]
      rfl

theorem type_of_readValue {type : FieldType} {v : Value Other}
    (h : readValue parsers key value type = .ok (some v)) :
  v.type = type
  := by
  cases type with
  | string =>
      obtain rfl := Option.some.inj (Except.ok.inj h)
      rfl
  | ips =>
      obtain rfl := Option.some.inj (Except.ok.inj h)
      rfl
  | int =>
      obtain ⟨n, -, rfl⟩ := Option.map_eq_some_iff.mp (Except.ok.inj h)
      rfl
  | duration =>
      obtain ⟨n, -, rfl⟩ := Option.map_eq_some_iff.mp (Except.ok.inj h)
      rfl
  | ip =>
      obtain ⟨ip, -, rfl⟩ := Option.map_eq_some_iff.mp (Except.ok.inj h)
      rfl
  | unsupported name => cases h

theorem type_of_readField {v : Value Other}
    (h : readField parsers m info = .ok (some v)) :
  v.type = info.type
  := by
  rw [readField] at h
  split at h
  · cases h
  · apply type_of_readValue h

theorem fst_readFields (fields : Fields Other) :
  (readFields parsers m fields).fields.map Prod.fst = fields.map Prod.fst
  := by
  induction fields with
  | nil => rfl
  | cons f fields ih =>
      rw [readFields]
      split
      · rw [List.map_cons, ih, List.map_cons]
      · split
        · rfl
        · rw [List.map_cons, ih, List.map_cons]

/-- The types of the fields are kept. -/
theorem typed_readFields (h : ∀ f ∈ fields, f.2.type = f.1.type) :
  ∀ f ∈ (readFields parsers m fields).fields, f.2.type = f.1.type
  := by
  induction fields with
  | nil => exact h
  | cons f fields ih =>
      obtain ⟨hf, hfields⟩ := List.forall_mem_cons.mp h
      rw [readFields]
      split
      · exact List.forall_mem_cons.mpr ⟨hf, ih hfields⟩
      · split
        case h_1 => exact h
        case h_2 read hread =>
          refine List.forall_mem_cons.mpr ⟨?_, ih hfields⟩
          cases read with
          | none => exact hf
          | some v => exact type_of_readField hread

/-- When the loop has not been stopped, each field with a tag has been read on its own. -/
theorem readFields_of_err_eq_none {str : String}
    (h : (readFields parsers (data str) fields).err = none) :
  (readFields parsers (data str) fields).fields = fields.map (fun f =>
      (f.1, if f.1.env = "" then f.2 else (parsedValue parsers str f.1).getD f.2)) ∧
    (readFields parsers (data str) fields).valuesParsed =
      (fields.filter fun f => f.1.env ≠ "").map fun f =>
        (f.1.env, (parsedValue parsers str f.1 : Option (Value Other)).isSome)
  := by
  induction fields with
  | nil => exact ⟨rfl, rfl⟩
  | cons f fields ih =>
      rw [readFields] at h ⊢
      by_cases htag : f.1.env = ""
      · rw [if_pos htag] at h ⊢
        obtain ⟨hfields, hparsed⟩ := ih h
        rw [hfields, hparsed, List.map_cons, if_pos htag,
          List.filter_cons_of_neg (by simpa using htag)]
        exact ⟨rfl, rfl⟩
      · rw [if_neg htag] at h ⊢
        cases hread : readField parsers (data str) f.1 with
        | error err =>
            rw [hread] at h
            cases h
        | ok read =>
            rw [hread] at h
            obtain ⟨hfields, hparsed⟩ := ih h
            rw [List.map_cons, if_neg htag, List.filter_cons_of_pos (by simpa using htag),
              List.map_cons, parsedValue_of_readField hread]
            dsimp only
            rw [hfields, hparsed]
            exact ⟨rfl, rfl⟩

/-- The loop is stopped when a field of a type that is not read has a text. -/
theorem err_readFields_eq_none_iff :
  (readFields parsers m fields).err = none ↔
    ∀ f ∈ fields, f.1.env ≠ "" → ∀ name, f.1.type = .unsupported name → textOf m f.1.env = none
  := by
  induction fields with
  | nil => exact iff_of_true rfl nofun
  | cons f fields ih =>
      rw [readFields, List.forall_mem_cons, ← ih]
      by_cases htag : f.1.env = ""
      · rw [if_pos htag, and_iff_right (fun hne => absurd htag hne)]
      · rw [if_neg htag, imp_iff_right htag, readField]
        cases htext : textOf m f.1.env with
        | none => simp
        | some text =>
            dsimp only
            cases htype : f.1.type with
            | unsupported name => simp [readValue]
            | string => simp [readValue]
            | int => simp [readValue]
            | duration => simp [readValue]
            | ip => simp [readValue]
            | ips => simp [readValue]

end Reading

/-! ### Leases -/

/-- What the fields of a lease hold that are not read. -/
inductive Contents where
  | strings (slice : List String)
  | time (t : Option ℤ)
deriving DecidableEq

/-- The fields of `types.DHCPLease`. -/
def leaseFields : List FieldInfo :=
  [ ⟨"IPAddress", .ip, "ip"⟩, ⟨"Netmask", .ip, "subnet"⟩, ⟨"Broadcast", .ip, "broadcast"⟩,
    ⟨"TTL", .int, "ipttl"⟩, ⟨"MTU", .int, "mtu"⟩, ⟨"HostName", .string, "hostname"⟩,
    ⟨"Domain", .string, "domain"⟩, ⟨"SearchList", .unsupported "[]string", "search"⟩,
    ⟨"BootPNextServer", .ip, "siaddr"⟩, ⟨"BootPServerName", .string, "sname"⟩,
    ⟨"BootPFile", .string, "boot_file"⟩, ⟨"Timezone", .string, "timezone"⟩,
    ⟨"Routers", .ips, "router"⟩, ⟨"DNS", .ips, "dns"⟩, ⟨"NTPServers", .ips, "ntpsrv"⟩,
    ⟨"LPRServers", .ips, "lprsvr"⟩, ⟨"TimeServers", .ips, "timesvr"⟩,
    ⟨"IEN116NameServers", .ips, "namesvr"⟩, ⟨"LogServers", .ips, "logsvr"⟩,
    ⟨"CookieServers", .ips, "cookiesvr"⟩, ⟨"WINSServers", .ips, "wins"⟩,
    ⟨"SwapServer", .ip, "swapsvr"⟩, ⟨"BootSize", .int, "bootsize"⟩,
    ⟨"RootPath", .string, "rootpath"⟩, ⟨"LeaseTime", .duration, "lease"⟩,
    ⟨"RenewalTime", .duration, "renewal"⟩, ⟨"RebindingTime", .duration, "rebinding"⟩,
    ⟨"DHCPType", .string, "dhcptype"⟩, ⟨"ServerID", .string, "serverid"⟩,
    ⟨"Message", .string, "message"⟩, ⟨"TFTPServerName", .string, "tftp"⟩,
    ⟨"BootFileName", .string, "bootfile"⟩, ⟨"Uptime", .duration, "uptime"⟩,
    ⟨"ClassIdentifier", .string, "classid"⟩, ⟨"LeaseExpiry", .unsupported "*time.Time", ""⟩,
    ⟨"InterfaceName", .string, ""⟩, ⟨"DHCPClient", .string, ""⟩ ]

/-- The zero value of a type. -/
def zero : FieldType → Value Contents
  | .string => .string ""
  | .int => .int 0
  | .duration => .duration 0
  | .ip => .ip []
  | .ips => .ips []
  | .unsupported name =>
      .unsupported name (if name = "[]string" then .strings [] else .time none)

/-- `types.DHCPLease`. -/
structure DHCPLease where
  fields : Fields Contents
  shape : fields.map Prod.fst = leaseFields
  typed : ∀ f ∈ fields, f.2.type = f.1.type

/-- The lease after its fields have been read. -/
def DHCPLease.read (parsers : NumberParsers) (data : List (String × String)) (lease : DHCPLease) :
    DHCPLease where
  fields := (readFields parsers data lease.fields).fields
  shape := (fst_readFields lease.fields).trans lease.shape
  typed := typed_readFields lease.typed

theorem tags_nodup :
  ((leaseFields.filter fun info => info.env ≠ "").map fun info => info.env).Nodup
  := by decide +kernel

/-- The only type with a tag that is not read is that of the search list. -/
theorem type_of_tag :
  ∀ info ∈ leaseFields, info.env = "" ∨ info.env = "search" ∨
    info.type ∈ [FieldType.string, .int, .duration, .ip, .ips]
  := by decide +kernel

/-- The entry of a key that occurs once. -/
theorem lookup_map_of_nodup {β : Type} {g : FieldInfo → β} {l : List FieldInfo} {info : FieldInfo}
    (hnodup : (l.map fun info => info.env).Nodup) (h : info ∈ l) :
  (l.map fun info => (info.env, g info)).lookup info.env = some (g info)
  := by
  induction l with
  | nil => exact absurd h List.not_mem_nil
  | cons other l ih =>
      obtain ⟨hother, hl⟩ := List.nodup_cons.mp hnodup
      rw [List.map_cons, List.lookup_cons]
      rcases List.mem_cons.mp h with rfl | h
      · rw [beq_self_eq_true]
      · have hne : (info.env == other.env) = false := by
          rw [beq_eq_false_iff_ne]
          intro heq
          apply hother
          exact List.mem_map.mpr ⟨info, h, heq⟩
        rw [hne]
        exact ih hl h

theorem type_zero (type : FieldType) :
  (zero type).type = type
  := by
  cases type <;> rfl

/-- The lease of a struct that is new. -/
def DHCPLease.new : DHCPLease where
  fields := leaseFields.map fun info => (info, zero info.type)
  shape := by rw [List.map_map]; apply List.map_id
  typed := by
    intro f hf
    obtain ⟨info, -, rfl⟩ := List.mem_map.mp hf
    exact type_zero info.type

/-- Numbers that are read in the usual way, and durations of whole seconds. -/
def wholeSeconds : NumberParsers where
  atoi := atoi
  parseDuration s := (atoi (String.ofList s.toList.dropLast)).map (· * 1000000000)

end JetKvm.LeaseFile

import JetKvm.Network.IP

/-!
# Reading addresses

`netip.ParseAddr` and the functions of the package `net` that rest on it. An IPv4 address is written
as four numbers with dots in between, an IPv6 address as groups of hexadecimal digits with colons in
between, and `net.ParseIP` gives sixteen bytes in both cases, so that what it returns does not tell
how the address was written.
-/

namespace JetKvm.Network

/-- `netip.Addr`: the bytes of an address, and the zone of an IPv6 address. -/
inductive Addr where
  | v4 (bytes : IP)
  | v6 (bytes : IP) (zone : List Char)
deriving DecidableEq, Repr

/-- `Addr.As16`. -/
def Addr.as16 : Addr → IP
  | v4 bytes => IP.v4InV6Prefix ++ bytes
  | v6 bytes _ => bytes

/-- `Addr.Zone`. -/
def Addr.zone : Addr → List Char
  | v4 _ => []
  | v6 _ zone => zone

/-- `Addr.BitLen`. -/
def Addr.bitLen : Addr → ℕ
  | v4 _ => 32
  | v6 _ _ => 128

/-- The value of a digit. -/
def digitValue (c : Char) : ℕ :=
  if c.isDigit then c.toNat - '0'.toNat
  else if 'a' ≤ c then c.toNat - 'a'.toNat + 10
  else c.toNat - 'A'.toNat + 10

def isHexDigit (c : Char) : Bool :=
  c.isDigit || 'a' ≤ c && c ≤ 'f' || 'A' ≤ c && c ≤ 'F'

/-- `netip.parseIPv4Fields`, from the fields before, the value of the field that is being read, and
the number of its digits so far. -/
def parseIPv4Fields (fields : List UInt8) (val digLen : ℕ) : List Char → Option (List UInt8)
  | [] => if fields.length < 3 then none else some (fields ++ [UInt8.ofNat val])
  | c :: rest =>
      if c.isDigit then
        if digLen = 1 ∧ val = 0 then none
        else if 255 < val * 10 + digitValue c then none
        else parseIPv4Fields fields (val * 10 + digitValue c) (digLen + 1) rest
      else if c = '.' then
        if digLen = 0 ∨ rest = [] then none
        else if fields.length = 3 then none
        else parseIPv4Fields (fields ++ [UInt8.ofNat val]) 0 0 rest
      else none

/-- `netip.parseIPv4`. -/
def parseIPv4 (s : List Char) : Option Addr :=
  (parseIPv4Fields [] 0 0 s).map .v4

/-- The loop of `netip.parseIPv6`, for as many groups as there is room for. The bytes read so far,
the position of the ellipsis among them, and the text that is left. -/
def parseGroups :
    ℕ → IP → Option ℕ → List Char → Option (IP × Option ℕ × List Char)
  | 0, ip, ellipsis, s => some (ip, ellipsis, s)
  | room + 1, ip, ellipsis, s =>
      let digits := s.takeWhile isHexDigit
      let acc := digits.foldl (fun acc c => acc * 16 + digitValue c) 0
      let ip' := ip ++ [UInt8.ofNat (acc / 256), UInt8.ofNat (acc % 256)]
      if digits = [] ∨ 4 < digits.length then none
      else
        match s.dropWhile isHexDigit with
        | [] => some (ip', ellipsis, [])
        | '.' :: _ =>
            -- an embedded IPv4 address, which takes the room of two groups
            if ellipsis = none ∧ ip.length ≠ 12 then none
            else if 16 < ip.length + 4 then none
            else (parseIPv4Fields [] 0 0 s).map fun fields => (ip ++ fields, ellipsis, [])
        | [':'] => none
        | ':' :: ':' :: rest =>
            if ellipsis.isSome then none
            else if rest = [] then some (ip', some ip'.length, [])
            else parseGroups room ip' (some ip'.length) rest
        | ':' :: rest => parseGroups room ip' ellipsis rest
        | _ => none

/-- The end of `netip.parseIPv6`: zeros are filled in at the ellipsis. -/
def expandEllipsis (ip : IP) : Option ℕ → Option IP
  | none => if ip.length < 16 then none else some ip
  | some ellipsis =>
      if ip.length < 16 then
        some (ip.take ellipsis ++ List.replicate (16 - ip.length) 0 ++ ip.drop ellipsis)
      else none

/-- The groups of an address without its zone. -/
def parseIPv6Groups (s : List Char) : Option IP :=
  match s with
  | [':', ':'] => some (List.replicate 16 0)
  | ':' :: ':' :: rest => finish (parseGroups 8 [] (some 0) rest)
  | _ => finish (parseGroups 8 [] none s)
where
  finish : Option (IP × Option ℕ × List Char) → Option IP
    | some (ip, ellipsis, []) => expandEllipsis ip ellipsis
    | _ => none

/-- `netip.parseIPv6`. -/
def parseIPv6 (s : List Char) : Option Addr :=
  match s.dropWhile (· ≠ '%') with
  | [] => (parseIPv6Groups s).map fun ip => .v6 ip []
  | _ :: zone =>
      if zone = [] then none
      else (parseIPv6Groups (s.takeWhile (· ≠ '%'))).map fun ip => .v6 ip zone

/-- `netip.ParseAddr`. -/
def parseAddr (s : List Char) : Option Addr :=
  match s.find? (· ∈ ['.', ':', '%']) with
  | some '.' => parseIPv4 s
  | some ':' => parseIPv6 s
  | _ => none

/-- `net.ParseIP`, which gives sixteen bytes. -/
def parseIP (s : List Char) : Option IP :=
  match parseAddr s with
  | some addr => if addr.zone = [] then some addr.as16 else none
  | none => none

/-- `net.dtoi`, of a text that has nothing but digits. -/
def dtoi (s : List Char) : Option ℕ :=
  let n := s.foldl (fun n c => n * 10 + digitValue c) 0
  if s = [] ∨ ¬ s.all Char.isDigit ∨ 0xFFFFFF ≤ n then none else some n

/-- `net.ParseCIDR`: the address, and the length of the prefix. -/
def parseCIDR (s : List Char) : Option (IP × ℕ) :=
  match s.dropWhile (· ≠ '/') with
  | [] => none
  | _ :: mask =>
      match parseAddr (s.takeWhile (· ≠ '/')), dtoi mask with
      | some addr, some n =>
          if addr.zone = [] ∧ n ≤ addr.bitLen then some (addr.as16, n) else none
      | _, _ => none

/-- `IP.To16`. -/
def IP.to16 (ip : IP) : Option IP :=
  if ip.length = 4 then some (IP.v4InV6Prefix ++ ip)
  else if ip.length = 16 then some ip
  else none

/-! ### Sixteen bytes -/

variable {s : List Char} {addr : Addr} {ip : IP} {bytes : List UInt8}

theorem length_parseIPv4Fields {fields : List UInt8} {val digLen : ℕ} (hfields : fields.length ≤ 3)
    (h : parseIPv4Fields fields val digLen s = some bytes) :
  bytes.length = 4
  := by
  induction s generalizing fields val digLen with
  | nil =>
      rw [parseIPv4Fields] at h
      split at h
      · cases h
      · obtain rfl := Option.some.inj h
        rw [List.length_append, List.length_singleton]
        omega
  | cons c rest ih =>
      rw [parseIPv4Fields] at h
      split at h
      · obtain ⟨-, h⟩ := Option.ite_none_left_eq_some.mp h
        obtain ⟨-, h⟩ := Option.ite_none_left_eq_some.mp h
        apply ih hfields h
      · obtain ⟨-, h⟩ := Option.ite_none_right_eq_some.mp h
        obtain ⟨-, h⟩ := Option.ite_none_left_eq_some.mp h
        obtain ⟨hlength, h⟩ := Option.ite_none_left_eq_some.mp h
        apply ih _ h
        rw [List.length_append, List.length_singleton]
        omega

theorem length_parseGroups {room : ℕ} {ip' : IP} {ellipsis ellipsis' : Option ℕ} {rest : List Char}
    (hroom : ip.length + 2 * room = 16)
    (h : parseGroups room ip ellipsis s = some (ip', ellipsis', rest)) :
  ip'.length ≤ 16
  := by
  induction room generalizing ip ellipsis s with
  | zero =>
      obtain ⟨rfl, -⟩ := Prod.mk.inj (Option.some.inj h)
      omega
  | succ room ih =>
      have hnext : ∀ a b : UInt8, (ip ++ [a, b]).length = ip.length + 2 := fun a b => by
        rw [List.length_append, List.length_cons, List.length_singleton]
      rw [parseGroups] at h
      obtain ⟨-, h⟩ := Option.ite_none_left_eq_some.mp h
      split at h
      · obtain ⟨rfl, -⟩ := Prod.mk.inj (Option.some.inj h)
        rw [hnext]
        omega
      · obtain ⟨-, h⟩ := Option.ite_none_left_eq_some.mp h
        obtain ⟨hlength, h⟩ := Option.ite_none_left_eq_some.mp h
        obtain ⟨fields, hfields, h⟩ := Option.map_eq_some_iff.mp h
        obtain ⟨rfl, -⟩ := Prod.mk.inj h
        have hfour := length_parseIPv4Fields (by decide) hfields
        rw [List.length_append]
        omega
      · cases h
      · obtain ⟨-, h⟩ := Option.ite_none_left_eq_some.mp h
        split at h
        · obtain ⟨rfl, -⟩ := Prod.mk.inj (Option.some.inj h)
          rw [hnext]
          omega
        · apply ih _ h
          rw [hnext]
          omega
      · apply ih _ h
        rw [hnext]
        omega
      · cases h

theorem length_expandEllipsis {ellipsis : Option ℕ} (hip : ip.length ≤ 16)
    (h : expandEllipsis ip ellipsis = some bytes) :
  bytes.length = 16
  := by
  cases ellipsis with
  | none =>
      obtain ⟨hlength, h⟩ := Option.ite_none_left_eq_some.mp h
      obtain rfl := Option.some.inj h
      omega
  | some ellipsis =>
      obtain ⟨hlength, h⟩ := Option.ite_none_right_eq_some.mp h
      obtain rfl := Option.some.inj h
      have hparts := congrArg List.length (List.take_append_drop ellipsis ip)
      rw [List.length_append] at hparts
      rw [List.length_append, List.length_append, List.length_replicate]
      omega

theorem length_parseIPv6Groups (h : parseIPv6Groups s = some bytes) :
  bytes.length = 16
  := by
  have hfinish : ∀ {ellipsis : Option ℕ} {rest : List Char},
      parseIPv6Groups.finish (parseGroups 8 [] ellipsis rest) = some bytes →
        bytes.length = 16 := by
    intro ellipsis rest h
    cases hgroups : parseGroups 8 [] ellipsis rest with
    | none =>
        rw [hgroups] at h
        cases h
    | some result =>
        obtain ⟨ip, ellipsis', rest'⟩ := result
        rw [hgroups] at h
        cases rest' with
        | nil => apply length_expandEllipsis (length_parseGroups rfl hgroups) h
        | cons c rest' => cases h
  unfold parseIPv6Groups at h
  split at h
  · obtain rfl := Option.some.inj h
    apply List.length_replicate
  · apply hfinish h
  · apply hfinish h

/-- Every address that is read has sixteen bytes. -/
theorem length_as16_of_parseAddr (h : parseAddr s = some addr) :
  addr.as16.length = 16
  := by
  rw [parseAddr] at h
  split at h
  · obtain ⟨fields, hfields, rfl⟩ := Option.map_eq_some_iff.mp h
    have hlength := length_parseIPv4Fields (by decide) hfields
    rw [Addr.as16, List.length_append, hlength]
    rfl
  · rw [parseIPv6] at h
    split at h
    · obtain ⟨ip, hip, rfl⟩ := Option.map_eq_some_iff.mp h
      apply length_parseIPv6Groups hip
    · obtain ⟨-, h⟩ := Option.ite_none_left_eq_some.mp h
      obtain ⟨ip, hip, rfl⟩ := Option.map_eq_some_iff.mp h
      apply length_parseIPv6Groups hip
  · cases h

/-- The bytes of a text are those of an address without a zone. -/
theorem parseIP_eq_some :
  parseIP s = some ip ↔ ∃ addr, parseAddr s = some addr ∧ addr.zone = [] ∧ addr.as16 = ip
  := by
  rw [parseIP]
  cases parseAddr s with
  | none => simp
  | some addr => simp

/-- Every text of an address has a form of sixteen bytes. -/
theorem to16_parseIP (h : parseIP s = some ip) :
  ip.to16 = some ip
  := by
  obtain ⟨addr, hparse, -, rfl⟩ := parseIP_eq_some.mp h
  have hlength := length_as16_of_parseAddr hparse
  rw [IP.to16, if_neg, if_pos hlength]
  omega

/-! ### How an address is written -/

/-- The text is four numbers with dots in between. -/
def IsIPv4Literal (s : List Char) : Prop :=
  ∃ bytes, parseAddr s = some (.v4 bytes)

/-- The text is written with colons, whatever address it stands for. -/
def HasColonForm (s : List Char) : Prop :=
  ∃ bytes zone, parseAddr s = some (.v6 bytes zone)

/-- The text stands for an IPv4 address, however it is written. -/
def IsIPv4Address (s : List Char) : Prop :=
  ((parseIP s).bind IP.to4).isSome

/-- The text is written with colons, and stands for an address that is not an IPv4 address. -/
def IsIPv6Literal (s : List Char) : Prop :=
  ∃ bytes, parseAddr s = some (.v6 bytes []) ∧ IP.to4 bytes = none

/-- The text of an IPv4 address is either four numbers or written with colons. -/
theorem isIPv4Literal_iff (h : IsIPv4Address s) :
  IsIPv4Literal s ↔ ¬ HasColonForm s
  := by
  obtain ⟨ip4, hip4⟩ := Option.isSome_iff_exists.mp h
  obtain ⟨ip, hip, -⟩ := Option.bind_eq_some_iff.mp hip4
  obtain ⟨addr, hparse, -⟩ := parseIP_eq_some.mp hip
  constructor
  · rintro ⟨bytes, hbytes⟩ ⟨bytes', zone, hcolon⟩
    rw [hbytes] at hcolon
    cases hcolon
  · intro hcolon
    cases addr with
    | v4 bytes => exact ⟨bytes, hparse⟩
    | v6 bytes zone => exact absurd ⟨bytes, zone, hparse⟩ hcolon

/-- The text of an address is a text of an IPv4 address or that of an IPv6 address. -/
theorem isIPv6Literal_iff (h : parseIP s = some ip) :
  IsIPv6Literal s ↔ ¬ IsIPv4Address s
  := by
  obtain ⟨addr, hparse, hzone, rfl⟩ := parseIP_eq_some.mp h
  have hfour : IsIPv4Address s ↔ (IP.to4 addr.as16).isSome := by
    rw [IsIPv4Address, h]
    rfl
  rw [hfour]
  constructor
  · rintro ⟨bytes, hbytes, hnone⟩
    obtain rfl := Option.some.inj (hparse.symm.trans hbytes)
    rw [Addr.as16, hnone]
    exact Bool.false_ne_true
  · intro hnone
    have hnone : IP.to4 addr.as16 = none := Option.not_isSome_iff_eq_none.mp hnone
    cases addr with
    | v4 bytes =>
        have hlength := length_as16_of_parseAddr hparse
        rw [Addr.as16, List.length_append] at hlength
        have hsome : IP.to4 (IP.v4InV6Prefix ++ bytes) = some bytes := by
          apply IP.to4_eq_some.mpr
          exact ⟨Nat.add_left_cancel hlength, Or.inr rfl⟩
        rw [Addr.as16, hsome] at hnone
        cases hnone
    | v6 bytes zone =>
        obtain rfl : zone = [] := hzone
        exact ⟨bytes, hparse, hnone⟩

/-- The part of a text before its slash. -/
def cidrAddress (s : List Char) : List Char :=
  s.takeWhile (· ≠ '/')

/-- The text is an address and the length of a prefix, the address written as an IPv6 address that
is not an IPv4 address. -/
def IsIPv6Prefix (s : List Char) : Prop :=
  IsIPv6Literal (cidrAddress s) ∧ (parseCIDR s).isSome

theorem isIPv6Prefix_iff (h : (parseCIDR s).isSome) :
  IsIPv6Prefix s ↔ ¬ IsIPv4Address (cidrAddress s)
  := by
  have hparse : ∃ ip, parseIP (cidrAddress s) = some ip := by
    rw [parseCIDR] at h
    split at h
    · cases h
    · split at h
      · rename_i addr n haddr hn
        split at h
        · rename_i hzone
          exact ⟨addr.as16, parseIP_eq_some.mpr ⟨addr, haddr, hzone.1, rfl⟩⟩
        · cases h
      · cases h
  obtain ⟨ip, hip⟩ := hparse
  rw [← isIPv6Literal_iff hip, IsIPv6Prefix, and_iff_left h]

/-! ### Texts of addresses -/

/-- A digit is read when the number so far may be continued. -/
theorem parseIPv4Fields_digit {fields : List UInt8} {val digLen d : ℕ} (hd : d < 10)
    (hzero : ¬ (digLen = 1 ∧ val = 0)) (hbyte : val * 10 + d ≤ 255) (rest : List Char) :
  parseIPv4Fields fields val digLen (d.digitChar :: rest) =
    parseIPv4Fields fields (val * 10 + d) (digLen + 1) rest
  := by
  have hdigit : ∀ d < 10, d.digitChar.isDigit = true ∧ digitValue d.digitChar = d := by decide
  obtain ⟨hisDigit, hvalue⟩ := hdigit d hd
  rw [parseIPv4Fields, if_pos hisDigit, if_neg hzero, hvalue, if_neg (Nat.not_lt.mpr hbyte)]

/-- The digits of a byte are read. -/
theorem parseIPv4Fields_toDigits (fields : List UInt8) {n : ℕ} (hn : n ≤ 255) (rest : List Char) :
  parseIPv4Fields fields 0 0 (Nat.toDigits 10 n ++ rest) =
    parseIPv4Fields fields n (Nat.toDigits 10 n).length rest
  := by
  induction n using Nat.strongRecOn generalizing rest with
  | _ n ih =>
      rw [Nat.toDigits_eq_if (by decide)]
      by_cases hlt : n < 10
      · rw [if_pos hlt]
        apply (parseIPv4Fields_digit hlt (by decide) (by omega) rest).trans
        rw [Nat.zero_mul, Nat.zero_add]
        rfl
      · rw [if_neg hlt, List.append_assoc, ih (n / 10) (by omega) (by omega)]
        apply (parseIPv4Fields_digit (by omega) (by omega) (by omega) rest).trans
        rw [List.length_append, Nat.div_add_mod' n 10]
        rfl

/-- After its digits, a field is ended by a dot. -/
theorem parseIPv4Fields_dot {fields : List UInt8} {val digLen : ℕ} (hdigits : 0 < digLen)
    (hroom : fields.length < 3) {rest : List Char} (hrest : rest ≠ []) :
  parseIPv4Fields fields val digLen ('.' :: rest) =
    parseIPv4Fields (fields ++ [UInt8.ofNat val]) 0 0 rest
  := by
  have hnot : ¬ (digLen = 0 ∨ rest = []) := by
    rintro (hzero | hnil)
    · omega
    · exact hrest hnil
  rw [parseIPv4Fields, if_neg (by decide), if_pos rfl, if_neg hnot, if_neg (by omega)]

theorem string4_ne_nil {ip : IP} (h : ip ≠ []) : IP.string4 ip ≠ []
  := by
  cases ip with
  | nil => exact absurd rfl h
  | cons b rest =>
      have hpos : 0 < (Nat.toDigits 10 b.toNat).length := Nat.length_toDigits_pos
      rw [IP.string4, List.map_cons, ← List.length_pos_iff]
      by_cases hrest : rest = []
      · rw [hrest, List.map_nil, List.intercalate_singleton]
        exact hpos
      · rw [List.intercalate_cons_of_ne_nil (by simpa using hrest), List.length_append,
          List.length_append]
        omega

/-- The fields that are left are read from their text. -/
theorem parseIPv4Fields_string4 {fields bytes : List UInt8} (hne : bytes ≠ [])
    (hlength : fields.length + bytes.length = 4) :
  parseIPv4Fields fields 0 0 (IP.string4 bytes) = some (fields ++ bytes)
  := by
  induction bytes generalizing fields with
  | nil => exact absurd rfl hne
  | cons b bytes ih =>
      have hbyte : b.toNat ≤ 255 := Nat.le_of_lt_succ b.toNat_lt
      rw [List.length_cons] at hlength
      rw [IP.string4, List.map_cons]
      by_cases hbytes : bytes = []
      · obtain rfl := hbytes
        rw [List.length_nil] at hlength
        have hread := parseIPv4Fields_toDigits fields hbyte []
        rw [List.append_nil] at hread
        rw [List.map_nil, List.intercalate_singleton, hread, parseIPv4Fields,
          if_neg (by omega), UInt8.ofNat_toNat]
      · have hmap : bytes.map (fun b => Nat.toDigits 10 b.toNat) ≠ [] := by
          simpa using hbytes
        have hpos := List.length_pos_iff.mpr hbytes
        have hrest : parseIPv4Fields (fields ++ [b]) 0 0 (IP.string4 bytes) =
            some (fields ++ [b] ++ bytes) := by
          apply ih hbytes
          rw [List.length_append, List.length_singleton]
          omega
        rw [List.intercalate_cons_of_ne_nil hmap, List.append_assoc,
          parseIPv4Fields_toDigits fields hbyte, List.singleton_append, ← IP.string4,
          parseIPv4Fields_dot Nat.length_toDigits_pos (by omega) (string4_ne_nil hbytes),
          UInt8.ofNat_toNat]
        apply hrest.trans
        rw [List.append_assoc]
        rfl

/-- The text of an IPv4 address is read as the address. -/
theorem parseAddr_string4 {ip : IP} (h : ip.length = 4) :
  parseAddr (IP.string4 ip) = some (.v4 ip)
  := by
  have hne : ip ≠ [] := by
    rintro rfl
    cases h
  have hfind : (IP.string4 ip).find? (· ∈ ['.', ':', '%']) = some '.' := by
    have hsome : ((IP.string4 ip).find? (· ∈ ['.', ':', '%'])).isSome :=
      List.find?_isSome.mpr ⟨'.', IP.dot_mem_string4 h, by decide⟩
    obtain ⟨c, hc⟩ := Option.isSome_iff_exists.mp hsome
    have hmem := List.mem_of_find?_eq_some hc
    have hsign := List.find?_some hc
    obtain rfl | hdigit := IP.mem_string4 hmem
    · exact hc
    · obtain ⟨d, hd, rfl⟩ := hdigit
      have hnot : ∀ d < 16, ¬ decide (d.digitChar ∈ ['.', ':', '%']) = true := by decide
      exact absurd hsign (hnot d hd)
  rw [parseAddr, hfind, parseIPv4, parseIPv4Fields_string4 hne (by rw [h]; rfl)]
  rfl

theorem parseIP_string4 {ip : IP} (h : ip.length = 4) :
  parseIP (IP.string4 ip) = some (IP.v4InV6Prefix ++ ip)
  := by
  rw [parseIP_eq_some]
  exact ⟨.v4 ip, parseAddr_string4 h, rfl, rfl⟩

end JetKvm.Network

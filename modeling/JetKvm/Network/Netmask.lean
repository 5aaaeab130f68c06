import JetKvm.Library.Outcome
import JetKvm.Network.IPNet
import JetKvm.Network.ParseAddr

/-!
# Addresses with a mask

A static IPv4 address is given with its prefix length after a slash, or with a mask of its own. The
first notation gives the network of the address and not the address, and does not ask for an IPv4
address.
-/

namespace JetKvm.Network

open Outcome (index)

/-- `IP.Mask`. There is no address when the lengths do not fit. -/
def IP.mask (ip : IP) (mask : List UInt8) : IP :=
  let mask' :=
    if mask.length = 16 ∧ ip.length = 4 ∧ mask.take 12 = List.replicate 12 0xff then mask.drop 12
    else mask
  let ip' :=
    if mask'.length = 4 ∧ ip.length = 16 ∧ ip.take 12 = v4InV6Prefix then ip.drop 12 else ip
  if ip'.length = mask'.length then List.zipWith (· &&& ·) ip' mask' else []

/-- `net.ParseCIDR`: the address, and its network. -/
def ParseCIDR (s : List Char) : Option (IP × IPNet) :=
  match s.dropWhile (· ≠ '/') with
  | [] => none
  | _ :: mask =>
      match parseAddr (s.takeWhile (· ≠ '/')), dtoi mask with
      | some addr, some n =>
          if addr.zone = [] ∧ n ≤ addr.bitLen then
            let m := cidrMask n (addr.bitLen / 8)
            some (addr.as16, { IP := addr.as16.mask m, Mask := m })
          else none
      | _, _ => none

def ParseIPv4Netmask (address netmask : List Char) : Outcome IPNet :=
  if '/' ∈ address then
    match ParseCIDR address with
    | none => .error s!"invalid IPv4 address: {String.ofList address}"
    | some (_, ipNet) => .value ipNet
  else
    match parseIP address with
    | none => .error s!"invalid IPv4 address: {String.ofList address}"
    | some ip =>
        if ip.to4 = none then .error s!"not an IPv4 address: {String.ofList address}"
        else
          match parseIP netmask with
          | none => .error s!"invalid IPv4 netmask: {String.ofList netmask}"
          | some mask =>
              if mask.to4 = none then .error s!"not an IPv4 netmask: {String.ofList netmask}"
              else do
                let a ← index mask 12
                let b ← index mask 13
                let c ← index mask 14
                let d ← index mask 15
                return { IP := ip, Mask := [a, b, c, d] }

/-! ### Both notations -/

/-- An IPv4 address with the length of a prefix. -/
structure IPv4Prefix where
  address : IP
  ones : ℕ
  isIPv4 : address.length = 4
  ones_le : ones ≤ 32

namespace IPv4Prefix

variable (x : IPv4Prefix)

/-- The four bytes of the mask. -/
def mask : List UInt8 :=
  cidrMask x.ones 4

/-- The address with the length of its prefix. -/
def cidrText : List Char :=
  x.address.string4 ++ '/' :: Nat.toDigits 10 x.ones

def addressText : List Char :=
  x.address.string4

def maskText : List Char :=
  IP.string4 x.mask

/-- Both notations give the same address and mask. -/
def SameInBoth (netmask : List Char) : Prop :=
  ∃ n n', ParseIPv4Netmask x.cidrText netmask = .value n ∧
    ParseIPv4Netmask x.addressText x.maskText = .value n' ∧
    IP.equal n.IP n'.IP = true ∧ n.Mask = n'.Mask

/-- All bits of the address after the prefix are zero. -/
def NoHostBits : Prop :=
  List.zipWith (· &&& ·) x.address x.mask = x.address
deriving Decidable

end IPv4Prefix

/-- An address that is not an IPv4 address is refused, with a prefix length or without. -/
def RefusesOthers (address netmask : List Char) : Prop :=
  ¬ IsIPv4Address (cidrAddress address) →
    ∃ message, ParseIPv4Netmask address netmask = .error message

/-! ### What is read -/

variable {s address netmask : List Char} {n : ℕ}

theorem isSome_ParseCIDR (s : List Char) :
  (ParseCIDR s).isSome = (parseCIDR s).isSome
  := by
  rw [ParseCIDR, parseCIDR]
  cases s.dropWhile (· ≠ '/') with
  | nil => rfl
  | cons c mask =>
      dsimp only
      cases parseAddr (s.takeWhile (· ≠ '/')) with
      | none => rfl
      | some addr =>
          cases dtoi mask with
          | none => rfl
          | some n =>
              dsimp only
              split
              · rfl
              · rfl

theorem takeWhile_append_slash (h : '/' ∉ s) (rest : List Char) :
  (s ++ '/' :: rest).takeWhile (· ≠ '/') = s ∧
    (s ++ '/' :: rest).dropWhile (· ≠ '/') = '/' :: rest
  := by
  have hall : ∀ c ∈ s, decide (c ≠ '/') = true := by
    intro c hc
    rw [decide_eq_true_iff]
    rintro rfl
    exact h hc
  rw [List.takeWhile_append_of_pos hall, List.dropWhile_append_of_pos hall]
  simp

theorem cidrAddress_of_notMem (h : '/' ∉ s) :
  cidrAddress s = s
  := by
  apply List.takeWhile_eq_self_iff.mpr
  intro c hc
  rw [decide_eq_true_iff]
  rintro rfl
  exact h hc

theorem dtoi_toDigits (h : n ≤ 32) :
  dtoi (Nat.toDigits 10 n) = some n
  := by
  have hall : ∀ n < 33, dtoi (Nat.toDigits 10 n) = some n := by decide
  apply hall n (Nat.lt_succ_of_le h)

/-- The form of sixteen bytes of an IPv4 address is masked as the one of four. -/
theorem mask_v4InV6Prefix {ip : IP} {mask : List UInt8} (hip : ip.length = 4)
    (hmask : mask.length = 4) :
  IP.mask (IP.v4InV6Prefix ++ ip) mask = List.zipWith (· &&& ·) ip mask
  := by
  have hfixed : (IP.v4InV6Prefix : List UInt8).length = 12 := rfl
  have hmask16 : ¬ (mask.length = 16 ∧ (IP.v4InV6Prefix ++ ip).length = 4 ∧
      mask.take 12 = List.replicate 12 0xff) := by
    rw [hmask]
    omega
  have hip16 : mask.length = 4 ∧ (IP.v4InV6Prefix ++ ip).length = 16 ∧
      (IP.v4InV6Prefix ++ ip).take 12 = IP.v4InV6Prefix := by
    rw [List.length_append, hip, List.take_left' hfixed]
    exact ⟨hmask, rfl, rfl⟩
  rw [IP.mask, if_neg hmask16, if_pos hip16, List.drop_left' hfixed, if_pos (by rw [hip, hmask])]

namespace IPv4Prefix

variable (x : IPv4Prefix)

theorem length_mask : x.mask.length = 4 := length_cidrMask x.ones 4

theorem ParseIPv4Netmask_cidrText (netmask : List Char) :
  ParseIPv4Netmask x.cidrText netmask =
    .value { IP := List.zipWith (· &&& ·) x.address x.mask, Mask := x.mask }
  := by
  have hslash : '/' ∉ x.address.string4 := by
    apply IP.notMem_string4
    · decide
    · decide
  obtain ⟨hbefore, hafter⟩ := takeWhile_append_slash hslash (Nat.toDigits 10 x.ones)
  have hmem : '/' ∈ x.cidrText := List.mem_append_right _ List.mem_cons_self
  rw [ParseIPv4Netmask, if_pos hmem, ParseCIDR, cidrText, hafter, hbefore,
    parseAddr_string4 x.isIPv4]
  dsimp only
  rw [dtoi_toDigits x.ones_le]
  dsimp only
  rw [if_pos ⟨rfl, x.ones_le⟩]
  dsimp only
  rw [Addr.as16, Addr.bitLen, ← mask_v4InV6Prefix x.isIPv4 x.length_mask]
  rfl

theorem ParseIPv4Netmask_addressText :
  ParseIPv4Netmask x.addressText x.maskText =
    .value { IP := IP.v4InV6Prefix ++ x.address, Mask := x.mask }
  := by
  have hslash : '/' ∉ x.addressText := by
    apply IP.notMem_string4
    · decide
    · decide
  have hto4 : ∀ {ip : IP}, ip.length = 4 → ¬ IP.to4 (IP.v4InV6Prefix ++ ip) = none := by
    intro ip hip
    rw [IP.to4_eq_some.mpr ⟨hip, Or.inr rfl⟩]
    nofun
  obtain ⟨a, b, c, d, hmask⟩ := List.length_eq_four.mp x.length_mask
  rw [ParseIPv4Netmask, if_neg hslash, addressText, parseIP_string4 x.isIPv4]
  dsimp only
  rw [if_neg (hto4 x.isIPv4), maskText, parseIP_string4 x.length_mask]
  dsimp only
  rw [if_neg (hto4 x.length_mask), hmask]
  rfl

/-- The notations agree on an address that is that of its network. -/
theorem sameInBoth_iff (netmask : List Char) :
  x.SameInBoth netmask ↔ x.NoHostBits
  := by
  have hlength : (List.zipWith (· &&& ·) x.address x.mask).length = 4 := by
    rw [List.length_zipWith, x.isIPv4, x.length_mask, Nat.min_self]
  have hequal : IP.equal (List.zipWith (· &&& ·) x.address x.mask)
      (IP.v4InV6Prefix ++ x.address) = true ↔ x.NoHostBits := by
    rw [IP.equal_iff_normal, IP.normal_of_some (IP.to4_eq_some.mpr ⟨hlength, Or.inl rfl⟩),
      IP.normal_of_some (IP.to4_eq_some.mpr ⟨x.isIPv4, Or.inr rfl⟩), NoHostBits]
  rw [SameInBoth, x.ParseIPv4Netmask_cidrText, x.ParseIPv4Netmask_addressText]
  constructor
  · rintro ⟨n, n', hn, hn', hip, -⟩
    obtain rfl := Outcome.value.inj hn
    obtain rfl := Outcome.value.inj hn'
    apply hequal.mp hip
  · intro h
    exact ⟨_, _, rfl, rfl, hequal.mpr h, rfl⟩

end IPv4Prefix

/-- Without a slash the address is refused unless it is an IPv4 address. -/
theorem refusesOthers_of_notMem (h : '/' ∉ address) :
  RefusesOthers address netmask
  := by
  rw [RefusesOthers, cidrAddress_of_notMem h, ParseIPv4Netmask, if_neg h]
  intro hother
  cases hip : parseIP address with
  | none => exact ⟨_, rfl⟩
  | some ip =>
      have hnone : ip.to4 = none := by
        rw [IsIPv4Address, hip, Option.bind_some] at hother
        exact Option.not_isSome_iff_eq_none.mp hother
      dsimp only
      rw [if_pos hnone]
      exact ⟨_, rfl⟩

/-- What is not an IPv4 address is refused unless it is an IPv6 address with a prefix length. -/
theorem refusesOthers_iff :
  RefusesOthers address netmask ↔ ¬ IsIPv6Prefix address
  := by
  by_cases hslash : '/' ∈ address
  · rw [RefusesOthers, ParseIPv4Netmask, if_pos hslash]
    cases hcidr : ParseCIDR address with
    | none =>
        have hnone : ¬ IsIPv6Prefix address := by
          rintro ⟨-, hsome⟩
          rw [← isSome_ParseCIDR, hcidr] at hsome
          cases hsome
        exact iff_of_true (fun _ => ⟨_, rfl⟩) hnone
    | some network =>
        rw [isIPv6Prefix_iff (by rw [← isSome_ParseCIDR, hcidr]; rfl)]
        constructor
        · intro h hother
          obtain ⟨message, hmessage⟩ := h hother
          cases hmessage
        · intro h hother
          exact absurd hother h
  · have hnone : ¬ IsIPv6Prefix address := by
      rintro ⟨-, hsome⟩
      have hdrop : address.dropWhile (· ≠ '/') = [] := by
        apply List.dropWhile_eq_nil_iff.mpr
        intro c hc
        rw [decide_eq_true_iff]
        rintro rfl
        exact hslash hc
      rw [parseCIDR, hdrop] at hsome
      cases hsome
    exact iff_of_true (refusesOthers_of_notMem hslash) hnone

/-- The notations mean the same of addresses without host bits, and texts other than those of IPv6
addresses with a prefix length. -/
theorem notationsAgree_iff (x : IPv4Prefix) (netmask address netmask' : List Char) :
  x.SameInBoth netmask ∧ RefusesOthers address netmask' ↔
    x.NoHostBits ∧ ¬ IsIPv6Prefix address
  := by
  rw [x.sameInBoth_iff, refusesOthers_iff]

/-- The address 192.168.1.50 with the mask 255.255.255.0. -/
def exampleHost : IPv4Prefix where
  address := [192, 168, 1, 50]
  ones := 24
  isIPv4 := rfl
  ones_le := by decide

/-- With its prefix length, this address becomes the one of its network. -/
theorem not_notationsAgree_exampleHost :
  ParseIPv4Netmask exampleHost.cidrText [] =
      .value { IP := [192, 168, 1, 0], Mask := [255, 255, 255, 0] } ∧
    ¬ exampleHost.SameInBoth []
  := by
  constructor
  · rw [exampleHost.ParseIPv4Netmask_cidrText]
    rfl
  · rw [exampleHost.sameInBoth_iff]
    decide

end JetKvm.Network

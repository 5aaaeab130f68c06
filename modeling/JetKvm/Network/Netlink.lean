import JetKvm.Network.IPNet

/-!
# Netlink

The addresses and the routes that the program reads from the kernel and writes to it, and the
calls with which it does so. What the kernel does in a call is a parameter; `Lawful` says what is
relied on.
-/

namespace JetKvm.Network

/-- The families of addresses. -/
inductive AddressFamily
  | AfInet
  | AfInet6
deriving DecidableEq, Repr

/-- The number of bytes of an address. -/
def AddressFamily.len : AddressFamily → ℕ
  | .AfInet => 4
  | .AfInet6 => 16

/-- The fields of `types.IPAddress` that are read. A gateway that is nil is none. -/
structure IPAddress where
  Address : IPNet
  Gateway : Option IP
  MTU : ℤ
deriving DecidableEq, Repr

namespace IPAddress

def string (a : IPAddress) : List Char :=
  a.Address.string

def Compare (a : IPAddress) (n : IPNet) : Bool :=
  IP.equal a.Address.IP n.IP && a.Address.Mask = n.Mask

def NetlinkAddr (a : IPAddress) : IPNet :=
  a.Address

end IPAddress

/-- The attributes of a link that are read. -/
structure LinkAttrs where
  Index : ℤ
  MTU : ℤ
deriving DecidableEq, Repr

/-- The fields of `netlink.Route` that are read or written. -/
structure Route where
  LinkIndex : ℤ
  Dst : Option IPNet
  Gw : IP
  Scope : ℕ
  Table : ℕ
  Protocol : ℤ
deriving DecidableEq, Repr

def MainRoutingTable : ℕ :=
  254

/-- `netlink.SCOPE_UNIVERSE`. -/
def scopeUniverse : ℕ :=
  0

def ipv4DefaultRoute : IPNet where
  IP := IP.v4InV6Prefix ++ [0, 0, 0, 0]
  Mask := []

def ipv6DefaultRoute : IPNet where
  IP := List.replicate 16 0
  Mask := []

/-- The destination that a default route is added with. -/
def defaultRoute : AddressFamily → IPNet
  | .AfInet => ipv4DefaultRoute
  | .AfInet6 => ipv6DefaultRoute

/-- A call of the kernel. -/
inductive Call
  | LinkSetMTU (mtu : ℤ)
  | AddrList
  | AddrDel (addr : IPNet)
  | AddrAdd (addr : IPNet)
  | RouteListFiltered
  | RouteDel (route : Route)
  | RouteAdd (route : Route)
deriving DecidableEq, Repr

/-- The call adds or removes an address or a route. -/
def Call.Changes : Call → Prop
  | LinkSetMTU _ | AddrList | RouteListFiltered => False
  | AddrDel _ | AddrAdd _ | RouteDel _ | RouteAdd _ => True

/-- A call that has been made, with its error. -/
structure Record where
  call : Call
  err : Option String
deriving DecidableEq, Repr

/-- The functions of the package `netlink`, for a link and a family. -/
structure Netlink (Kernel : Type*) where
  LinkSetMTU : Kernel → ℤ → Except String Kernel
  AddrList : Kernel → Except String (List IPNet)
  AddrDel : Kernel → IPNet → Except String Kernel
  AddrAdd : Kernel → IPNet → Except String Kernel
  /-- The default routes of the main table. -/
  RouteListFiltered : Kernel → Except String (List Route)
  RouteDel : Kernel → Route → Except String Kernel
  RouteAdd : Kernel → Route → Except String Kernel

namespace IPNet

/-- The network with the shorter form of its address. -/
def normal (n : IPNet) : IPNet where
  IP := IP.normal n.IP
  Mask := n.Mask

/-- The mask begins with a number of ones, and is as long as the addresses of the family. -/
def HasPrefix (n : IPNet) (family : AddressFamily) (ones : ℕ) : Prop :=
  n.Mask = cidrMask ones family.len ∧ ones ≤ 8 * family.len

instance (n : IPNet) (family : AddressFamily) : Decidable (∃ ones, n.HasPrefix family ones) :=
  decidable_of_iff (∃ ones < 8 * family.len + 1, n.Mask = cidrMask ones family.len)
    ⟨fun ⟨ones, hones, hmask⟩ => ⟨ones, hmask, Nat.le_of_lt_succ hones⟩,
      fun ⟨ones, hmask, hones⟩ => ⟨ones, Nat.lt_succ_of_le hones, hmask⟩⟩

/-- A network of the family, in whatever form its address is. -/
def Canonical (n : IPNet) (family : AddressFamily) : Prop :=
  (IP.normal n.IP).length = family.len ∧ ∃ ones, n.HasPrefix family ones
deriving Decidable

/-- A network as the kernel lists it. -/
def Listed (n : IPNet) (family : AddressFamily) : Prop :=
  n.IP.length = family.len ∧ ∃ ones, n.HasPrefix family ones
deriving Decidable

variable {n n' : IPNet} {family : AddressFamily} {ones : ℕ}

theorem HasPrefix.denotes (h : n.HasPrefix family ones)
    (hlength : (IP.normal n.IP).length = family.len) :
  n.Denotes (IP.normal n.IP) ones
  := by
  obtain ⟨hmask, hones⟩ := h
  rw [Denotes, hlength]
  refine ⟨?_, hones⟩
  have hmaskLength : n.Mask.length = family.len := by
    rw [hmask, length_cidrMask]
  rw [networkNumberAndMask, hlength, hmaskLength, hmask]
  cases family with
  | AfInet => rfl
  | AfInet6 => rfl

/-- The network of a listed address that is an IPv4 address in sixteen bytes. -/
theorem HasPrefix.denotes_mapped (h : n.HasPrefix .AfInet6 ones)
    (hlength : (IP.normal n.IP).length = 4) :
  n.Denotes (IP.normal n.IP) (ones - 96)
  := by
  obtain ⟨hmask, hones⟩ := h
  have hones : ones ≤ 128 := hones
  rw [Denotes, hlength]
  refine ⟨?_, by omega⟩
  have hmaskLength : n.Mask.length = 16 := by
    rw [hmask, length_cidrMask]
    rfl
  have hdrop : n.Mask.drop 12 = cidrMask (ones - 96) 4 := by
    rw [hmask]
    apply drop_cidrMask ones 4 12
  rw [networkNumberAndMask, hlength, hmaskLength, hdrop]
  rfl

/-- The shorter form of an address of the family is one that the kernel lists. -/
theorem Canonical.listed_normal (h : n.Canonical family) :
  n.normal.Listed family
  := h

theorem Canonical.string_normal (h : n.Canonical family) :
  n.normal.string = n.string
  := by
  obtain ⟨hlength, ones, hones⟩ := h
  have hnormal : n.normal.Denotes (IP.normal n.IP) ones := by
    have := HasPrefix.denotes (n := n.normal) hones
    rw [normal, IP.normal_normal] at this
    apply this hlength
  rw [hnormal.string_eq, (hones.denotes hlength).string_eq]

/-- An IPv6 address has its shorter form, or is an IPv4 address. -/
theorem Listed.normal_eq (h : n.Listed family) (hlength : (IP.normal n.IP).length = family.len) :
  n.normal = n
  := by
  have hnormal : IP.normal n.IP = n.IP := by
    cases h4 : IP.to4 n.IP with
    | none => apply IP.normal_of_none h4
    | some ip4 =>
        rw [IP.normal_of_some h4] at hlength ⊢
        obtain ⟨hip, heq | heq⟩ := IP.to4_eq_some.mp h4
        · apply heq.symm
        · have hlong := h.1
          rw [heq, List.length_append, ← hlength, hip] at hlong
          cases hlong
  rw [normal, hnormal]

/-- A listed address with the text of an address of the family is this address. -/
theorem Listed.eq_normal (h : n.Listed family) (h' : n'.Canonical family)
    (hstring : n.string = n'.string) :
  n = n'.normal
  := by
  obtain ⟨hlength', ones', hones'⟩ := h'
  have hdenotes' := hones'.denotes hlength'
  have hsame : ∀ {ones}, n.Denotes (IP.normal n.IP) ones →
      IP.normal n.IP = IP.normal n'.IP ∧ ones = ones' := fun hdenotes =>
    (hdenotes.string_eq_iff hdenotes').mp hstring
  obtain ⟨hlength, ones, hones⟩ := id h
  by_cases hnormal : (IP.normal n.IP).length = family.len
  · obtain ⟨hip, rfl⟩ := hsame (hones.denotes hnormal)
    rw [← h.normal_eq hnormal, normal, normal, hip, hones.1, hones'.1]
  · exfalso
    cases family with
    | AfInet =>
        apply hnormal
        rw [IP.normal_of_some (IP.to4_eq_some.mpr ⟨hlength, Or.inl rfl⟩)]
        apply hlength
    | AfInet6 =>
        cases h4 : IP.to4 n.IP with
        | none =>
            rw [IP.normal_of_none h4] at hnormal
            exact hnormal hlength
        | some ip4 =>
            have hfour : (IP.normal n.IP).length = 4 := by
              rw [IP.normal_of_some h4]
              apply IP.length_of_to4 h4
            apply hnormal
            rw [(hsame (hones.denotes_mapped hfour)).1, hlength']

end IPNet

theorem IP.isLinkLocalUnicast_normal (ip : IP) :
  (normal ip).isLinkLocalUnicast = ip.isLinkLocalUnicast
  := by
  cases h : to4 ip with
  | none => rw [normal_of_none h]
  | some ip4 =>
      have h4 : to4 ip4 = some ip4 := if_pos (length_of_to4 h)
      unfold isLinkLocalUnicast
      rw [normal_of_some h, h, h4]

end JetKvm.Network

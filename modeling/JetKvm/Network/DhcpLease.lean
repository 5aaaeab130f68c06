import JetKvm.Library.Outcome
import JetKvm.Network.Netlink
import JetKvm.Network.ParseAddr

/-!
# Applying a DHCPv4 lease

The answer of a DHCPv4 server becomes a lease, and a lease an address with its gateway that the
link is reconciled with. On the way the first router, the last four bytes of the netmask and the
two bytes of the MTU are read, whatever their lengths. The accessors of the options of an answer
are a parameter.
-/

namespace JetKvm.Network

open Outcome (index)

/-- The options of a DHCPv4 message, by their codes. An option that is absent is none. -/
abbrev Options :=
  ℕ → Option (List UInt8)

/-- `dhcpv4.OptionInterfaceMTU`. -/
def OptionInterfaceMTU : ℕ := 26

/-- The accessors of the options that are used. A slice that is nil is empty, and durations are in
seconds. -/
structure Accessors where
  Router : Options → List IP
  SubnetMask : Options → List UInt8
  BroadcastAddress : Options → IP
  NTPServers : Options → List IP
  HostName : Options → String
  DomainName : Options → String
  DomainSearch : Options → Option (List String)
  DNS : Options → List IP
  ClassIdentifier : Options → String
  ServerIdentifier : Options → IP
  Message : Options → String
  IPAddressLeaseTime : Options → (defaultTime : ℕ) → ℕ
  IPAddressRenewalTime : Options → (defaultTime : ℕ) → ℕ

/-- The acknowledgement of a server. -/
structure ACK where
  YourIPAddr : IP
  Options : Options

/-- The fields of `types.DHCPLease` that are set or read. -/
structure DHCPLease where
  IPAddress : IP
  Netmask : IP
  Broadcast : IP
  Routers : List IP
  NTPServers : List IP
  HostName : String
  Domain : String
  SearchList : List String
  DNS : List IP
  ClassIdentifier : String
  ServerID : List Char
  MTU : ℤ
  Message : String
  LeaseTime : ℕ
  RenewalTime : ℕ
  InterfaceName : String
  DHCPClient : String
deriving DecidableEq, Repr

def defaultLeaseTime : ℕ := 30 * 60

def defaultRenewalTime : ℕ := 15 * 60

/-- `binary.BigEndian.Uint16`. -/
def bigEndianUint16 (b : List UInt8) : Outcome ℤ := do
  let high ← index b 0
  let low ← index b 1
  return (high.toNat * 256 + low.toNat : ℕ)

/-- The MTU of the lease, which is zero without the option. -/
def leaseMTU : Option (List UInt8) → Outcome ℤ
  | none => return 0
  | some mtu => bigEndianUint16 mtu

def fromNclient4Lease (dhcpv4 : Accessors) (l : ACK) (iface : String) : Outcome DHCPLease := do
  let mtu ← leaseMTU (l.Options OptionInterfaceMTU)
  return {
    IPAddress := l.YourIPAddr
    Netmask := dhcpv4.SubnetMask l.Options
    Broadcast := dhcpv4.BroadcastAddress l.Options
    Routers := dhcpv4.Router l.Options
    NTPServers := dhcpv4.NTPServers l.Options
    HostName := dhcpv4.HostName l.Options
    Domain := dhcpv4.DomainName l.Options
    SearchList := (dhcpv4.DomainSearch l.Options).getD []
    DNS := dhcpv4.DNS l.Options
    ClassIdentifier := dhcpv4.ClassIdentifier l.Options
    ServerID := (dhcpv4.ServerIdentifier l.Options).string
    MTU := mtu
    Message := dhcpv4.Message l.Options
    LeaseTime := dhcpv4.IPAddressLeaseTime l.Options defaultLeaseTime
    RenewalTime := dhcpv4.IPAddressRenewalTime l.Options defaultRenewalTime
    InterfaceName := iface
    DHCPClient := "" }

namespace DHCPLease

def ToDHCPLease (l : DHCPLease) : DHCPLease :=
  { l with DHCPClient := "jetdhcpc" }

def IsIPv6 (d : DHCPLease) : Bool :=
  d.IPAddress.to4 = none

/-- The mask, which is nil for an IPv6 address. -/
def IPMask (d : DHCPLease) : Outcome (List UInt8) :=
  if d.IsIPv6 then return []
  else do
    let mask := (parseIP d.Netmask.string).getD []
    let a ← index mask 12
    let b ← index mask 13
    let c ← index mask 14
    let e ← index mask 15
    return [a, b, c, e]

def IPNet (d : DHCPLease) : Outcome (Option IPNet) :=
  if d.IsIPv6 then return none
  else do
    let mask ← d.IPMask
    return some { IP := d.IPAddress, Mask := mask }

end DHCPLease

def convertDHCPLeaseToIPv4Config (lease : DHCPLease) : Outcome (Option IPAddress) := do
  match ← lease.IPNet with
  | none => return none
  | some ipNet =>
      let gateway ← index lease.Routers 0
      return some { Address := ipNet, Gateway := some gateway, MTU := 0 }

/-- What becomes of a lease that is applied: nothing, or a call of `ReconcileLinkAddrs` whose
result is returned. -/
inductive Applied where
  | ignored
  | reconcileLinkAddrs (addrs : List IPAddress) (family : AddressFamily) (protocol : ℤ)
deriving DecidableEq, Repr

/-- `link.DhcpProtocol`. -/
def DhcpProtocol : ℤ := 3

def applyDHCPLease (lease : Option DHCPLease) : Outcome Applied :=
  match lease with
  | none => .error "DHCP lease is nil"
  | some lease =>
      if lease.DHCPClient ≠ "jetdhcpc" then return .ignored
      else if lease.IsIPv6 then return .ignored
      else do
        match ← convertDHCPLeaseToIPv4Config lease with
        | none => .fault
        | some ipv4Config => return .reconcileLinkAddrs [ipv4Config] .AfInet DhcpProtocol

/-! ### The mask -/

namespace DHCPLease

variable {d : DHCPLease}

theorem ToDHCPLease_IsIPv6 : d.ToDHCPLease.IsIPv6 = d.IsIPv6 := rfl

theorem ToDHCPLease_IPMask : d.ToDHCPLease.IPMask = d.IPMask := rfl

/-- There is no mask when the text of the netmask is not read as an address, and otherwise one of
four bytes. -/
theorem IPMask_cases (hv4 : d.IsIPv6 = false) :
  parseIP d.Netmask.string = none ∧ d.IPMask = .fault ∨
  ∃ a b c e, d.IPMask = .value [a, b, c, e]
  := by
  rw [IPMask, hv4, if_neg Bool.false_ne_true]
  dsimp only
  cases hparse : parseIP d.Netmask.string with
  | none => exact Or.inl ⟨rfl, rfl⟩
  | some mask =>
      obtain ⟨addr, haddr, -, rfl⟩ := parseIP_eq_some.mp hparse
      have hlength := length_as16_of_parseAddr haddr
      rw [Option.getD_some, Outcome.index_of_lt (by omega), Outcome.index_of_lt (by omega),
        Outcome.index_of_lt (by omega), Outcome.index_of_lt (by omega)]
      exact Or.inr ⟨_, _, _, _, rfl⟩

/-- A netmask of four bytes is the mask. -/
theorem IPMask_eq_netmask (hv4 : d.IsIPv6 = false) (h : d.Netmask.length = 4) :
  d.IPMask = .value d.Netmask
  := by
  have hstring : d.Netmask.string = d.Netmask.string4 := by
    rw [IP.string, if_neg (by omega), if_neg (by omega), IP.to4, if_pos h]
  have hparse := parseIP_string4 h
  obtain ⟨a, b, c, e, hmask⟩ := List.length_eq_four.mp h
  rw [IPMask, hv4, if_neg Bool.false_ne_true, hstring, hparse, hmask]
  rfl

end DHCPLease

/-! ### Applying an answer -/

/-- What becomes of an answer. -/
def applyACK (dhcpv4 : Accessors) (l : ACK) (iface : String) : Outcome Applied := do
  let lease ← fromNclient4Lease dhcpv4 l iface
  applyDHCPLease (some lease.ToDHCPLease)

/-- An error is returned, or the link is reconciled with the address alone, with the mask. -/
def AppliedOrRefused (ip : IP) (mask : List UInt8) : Outcome Applied → Prop
  | .value (.reconcileLinkAddrs [addr] _ _) => addr.Address.IP = ip ∧ addr.Address.Mask = mask
  | .value _ => False
  | .error _ => True
  | .fault => False

/-- What the code relies on in an answer: the address is an IPv4 address, there is a router, the
mask has four bytes, and the MTU, if there is one, has two. -/
structure Complete (dhcpv4 : Accessors) (l : ACK) : Prop where
  address : l.YourIPAddr.to4 ≠ none
  router : dhcpv4.Router l.Options ≠ []
  mask : (dhcpv4.SubnetMask l.Options).length = 4
  mtu : ∀ mtu ∈ l.Options OptionInterfaceMTU, 2 ≤ mtu.length

/-- The MTU is read when it has two bytes. -/
theorem leaseMTU_cases (mtu : Option (List UInt8)) :
  (∀ b ∈ mtu, 2 ≤ b.length) ∧ (∃ n, leaseMTU mtu = .value n) ∨
  ¬ (∀ b ∈ mtu, 2 ≤ b.length) ∧ leaseMTU mtu = .fault
  := by
  cases mtu with
  | none => exact Or.inl ⟨fun b hb => (by cases hb), 0, rfl⟩
  | some b =>
      match b with
      | [] => exact Or.inr ⟨fun h => absurd (h [] rfl) (by decide), rfl⟩
      | [high] => exact Or.inr ⟨fun h => absurd (h [high] rfl) (Nat.not_succ_le_self 1), rfl⟩
      | high :: low :: rest =>
          left
          constructor
          · intro b hb
            obtain rfl := Option.mem_some.mp hb
            exact Nat.le_add_left 2 rest.length
          · exact ⟨_, rfl⟩

section

variable {lease : DHCPLease} {mask : List UInt8} (hv4 : lease.IsIPv6 = false)

include hv4

theorem applyDHCPLease_eq_fault_of_mask (h : lease.IPMask = .fault) :
  applyDHCPLease (some lease.ToDHCPLease) = .fault
  := by
  have hnet : lease.ToDHCPLease.IPNet = .fault := by
    rw [DHCPLease.IPNet, DHCPLease.ToDHCPLease_IsIPv6, hv4, DHCPLease.ToDHCPLease_IPMask, h]
    rfl
  rw [applyDHCPLease, DHCPLease.ToDHCPLease_IsIPv6, hv4, convertDHCPLeaseToIPv4Config, hnet]
  rfl

theorem IPNet_eq_some (h : lease.IPMask = .value mask) :
  lease.ToDHCPLease.IPNet = .value (some { IP := lease.IPAddress, Mask := mask })
  := by
  rw [DHCPLease.IPNet, DHCPLease.ToDHCPLease_IsIPv6, hv4, DHCPLease.ToDHCPLease_IPMask, h]
  rfl

theorem applyDHCPLease_eq_fault_of_router (h : lease.IPMask = .value mask)
    (hrouters : lease.Routers = []) :
  applyDHCPLease (some lease.ToDHCPLease) = .fault
  := by
  have hnone : lease.ToDHCPLease.Routers = [] := hrouters
  rw [applyDHCPLease, DHCPLease.ToDHCPLease_IsIPv6, hv4, convertDHCPLeaseToIPv4Config,
    IPNet_eq_some hv4 h, hnone]
  rfl

theorem applyDHCPLease_eq_reconcile (h : lease.IPMask = .value mask) {router : IP}
    {routers : List IP} (hrouters : lease.Routers = router :: routers) :
  applyDHCPLease (some lease.ToDHCPLease) =
    .value (.reconcileLinkAddrs
      [{ Address := { IP := lease.IPAddress, Mask := mask }, Gateway := some router, MTU := 0 }]
      .AfInet DhcpProtocol)
  := by
  have hsome : lease.ToDHCPLease.Routers = router :: routers := hrouters
  rw [applyDHCPLease, DHCPLease.ToDHCPLease_IsIPv6, hv4, convertDHCPLeaseToIPv4Config,
    IPNet_eq_some hv4 h, hsome]
  rfl

end

/-- A lease is applied when its address is an IPv4 address, and it has a router and a mask of four
bytes. -/
theorem appliedOrRefused_applyDHCPLease_iff (lease : DHCPLease) :
  AppliedOrRefused lease.IPAddress lease.Netmask (applyDHCPLease (some lease.ToDHCPLease)) ↔
    lease.IPAddress.to4 ≠ none ∧ lease.Routers ≠ [] ∧ lease.Netmask.length = 4
  := by
  cases hv6 : lease.IsIPv6 with
  | true =>
      have hignored : applyDHCPLease (some lease.ToDHCPLease) = .value .ignored := by
        rw [applyDHCPLease, DHCPLease.ToDHCPLease_IsIPv6, hv6]
        rfl
      rw [hignored]
      exact iff_of_false id fun h => h.1 (of_decide_eq_true hv6)
  | false =>
      have hv4 : lease.IPAddress.to4 ≠ none := of_decide_eq_false hv6
      rw [and_iff_right hv4]
      obtain ⟨hnone, hfault⟩ | ⟨a, b, c, e, hmask⟩ := DHCPLease.IPMask_cases hv6
      · rw [applyDHCPLease_eq_fault_of_mask hv6 hfault]
        apply iff_of_false id
        rintro ⟨-, hlength⟩
        rw [DHCPLease.IPMask_eq_netmask hv6 hlength] at hfault
        cases hfault
      · cases hrouters : lease.Routers with
        | nil =>
            rw [applyDHCPLease_eq_fault_of_router hv6 hmask hrouters]
            exact iff_of_false id fun h => h.1 rfl
        | cons router rest =>
            rw [applyDHCPLease_eq_reconcile hv6 hmask hrouters,
              and_iff_right (List.cons_ne_nil router rest)]
            constructor
            · intro h
              rw [← h.2]
              rfl
            · intro hlength
              rw [DHCPLease.IPMask_eq_netmask hv6 hlength] at hmask
              exact ⟨rfl, (Outcome.value.inj hmask).symm⟩

/-- An answer is applied or refused exactly when it is complete. -/
theorem appliedOrRefused_iff (dhcpv4 : Accessors) (l : ACK) (iface : String) :
  AppliedOrRefused l.YourIPAddr (dhcpv4.SubnetMask l.Options) (applyACK dhcpv4 l iface) ↔
    Complete dhcpv4 l
  := by
  rw [applyACK, fromNclient4Lease]
  obtain ⟨hlength, n, hvalue⟩ | ⟨hlength, hfault⟩ := leaseMTU_cases (l.Options OptionInterfaceMTU)
  · rw [hvalue]
    apply Iff.trans (appliedOrRefused_applyDHCPLease_iff _)
    constructor
    · exact fun h => ⟨h.1, h.2.1, h.2.2, hlength⟩
    · exact fun h => ⟨h.address, h.router, h.mask⟩
  · rw [hfault]
    exact iff_of_false id fun h => hlength h.mtu

/-- The four bytes of an option, if it has four. -/
def fourBytes (o : Option (List UInt8)) : IP :=
  (o.filter fun b => b.length = 4).getD []

/-- The accessors for options of which each has one address or is absent. -/
def exampleAccessors : Accessors where
  Router options := (options 3).toList
  SubnetMask options := fourBytes (options 1)
  BroadcastAddress options := fourBytes (options 28)
  NTPServers options := (options 42).toList
  HostName _ := ""
  DomainName _ := ""
  DomainSearch _ := none
  DNS options := (options 6).toList
  ClassIdentifier _ := ""
  ServerIdentifier options := fourBytes (options 54)
  Message _ := ""
  IPAddressLeaseTime _ defaultTime := defaultTime
  IPAddressRenewalTime _ defaultTime := defaultTime

/-- An answer with a mask and a server identifier, and no router. -/
def withoutRouter : ACK where
  YourIPAddr := [192, 168, 1, 50]
  Options code :=
    if code = 1 then some [255, 255, 255, 0]
    else if code = 54 then some [192, 168, 1, 1]
    else none

/-- It stops the program. -/
theorem not_appliedOrRefused_withoutRouter :
  applyACK exampleAccessors withoutRouter "eth0" = .fault ∧
  ¬ AppliedOrRefused withoutRouter.YourIPAddr
    (exampleAccessors.SubnetMask withoutRouter.Options)
    (applyACK exampleAccessors withoutRouter "eth0")
  := by
  have hfault : applyACK exampleAccessors withoutRouter "eth0" = .fault := by decide
  constructor
  · exact hfault
  · rw [hfault]
    exact id

end JetKvm.Network

import JetKvm.Network.DhcpClient
import JetKvm.Network.DhcpLease

/-!
# Renewing a lease

The request loop sleeps between two requests for as long as the renewal time of the lease says, or
for two hours when the lease is longer than one. So a lease of between one hour and two runs out
before it is renewed, and so does one that is shorter than its renewal time.
-/

namespace JetKvm.Dhcp

open Network (ACK Accessors DHCPLease fromNclient4Lease)

/-! ### The timer after a lease -/

namespace Client

/-- The loop gets a lease, stores it, reports it, and sets its timer. -/
def takeLease (family : Family) (leaseTime renewalTime : ℤ) (c : Client) : Option Client := do
  let leased ← c.requestLoop family (.leased leaseTime renewalTime)
  let stored ← leased.requestLoop family .up
  let reported ← stored.requestLoop family .up
  reported.requestLoop family .up

/-- The loop then waits for the renewal time of the lease. -/
theorem takeLease_eq {c : Client} {family : Family} {attempt : ℕ}
    (h : c.loop family = some ⟨attempt, .requestLease⟩) (leaseTime renewalTime : ℤ) :
  ∃ c', c.takeLease family leaseTime renewalTime = some c' ∧
    c'.loop family = some ⟨0, .waiting⟩ ∧
    c'.timer family =
      .running (getRenewalTime ⟨decide (family = .inet), leaseTime, renewalTime⟩)
  := by
  simp only [takeLease, requestLoop, h, goTo, storeLease, Function.update_self,
    Option.bind_eq_bind, Option.bind_some]
  exact ⟨_, rfl, Function.update_self .., Function.update_self ..⟩

/-- A client whose loops are waiting for an answer. -/
def requesting : Client :=
  { new fun _ => true with loop := fun _ => some ⟨0, .requestLease⟩ }

end Client

/-! ### Leases that are renewed in time -/

/-- The loop that gets the lease sets its timer, and not beyond the end of the lease. -/
def RenewsInTime (lease : DHCPLease) : Prop :=
  ∀ (c : Client) (attempt : ℕ), c.loop .inet = some ⟨attempt, .requestLease⟩ →
    ∃ c' delay, c.takeLease .inet (lease.LeaseTime * second) (lease.RenewalTime * second) = some c' ∧
      c'.timer .inet = .running delay ∧ 0 < delay ∧ delay ≤ lease.LeaseTime * second

/-- The delay for a lease. -/
def renewalDelay (lease : DHCPLease) : ℤ :=
  getRenewalTime ⟨true, lease.LeaseTime * second, lease.RenewalTime * second⟩

theorem renewsInTime_iff_renewalDelay (lease : DHCPLease) :
  RenewsInTime lease ↔ 0 < renewalDelay lease ∧ renewalDelay lease ≤ lease.LeaseTime * second
  := by
  constructor
  · intro h
    obtain ⟨c', delay, htake, htimer, hdelay⟩ := h Client.requesting 0 rfl
    have hloop : Client.requesting.loop .inet = some ⟨0, .requestLease⟩ := rfl
    obtain ⟨c'', htake', -, htimer'⟩ :=
      Client.takeLease_eq hloop (lease.LeaseTime * second) (lease.RenewalTime * second)
    obtain rfl := Option.some.inj (htake.symm.trans htake')
    obtain rfl := Timer.running.inj (htimer.symm.trans htimer')
    exact hdelay
  · intro hdelay c attempt hloop
    obtain ⟨c', htake, -, htimer⟩ :=
      Client.takeLease_eq hloop (lease.LeaseTime * second) (lease.RenewalTime * second)
    exact ⟨c', _, htake, htimer, hdelay⟩

/-- The delay is the renewal time of a lease that is no longer than an hour, if it has one, and
otherwise two hours. -/
theorem renewalDelay_cases (lease : DHCPLease) :
  (lease.RenewalTime = 0 ∨ 3600 < lease.LeaseTime) ∧ renewalDelay lease = 7200 * second ∨
  0 < lease.RenewalTime ∧ lease.LeaseTime ≤ 3600 ∧
    renewalDelay lease = lease.RenewalTime * second
  := by
  rw [renewalDelay, getRenewalTime, maxRenewalAttemptDuration, second]
  dsimp only
  split
  · left
    omega
  · right
    omega

/-- A lease is renewed in time when it is for two hours or more, or for an hour at most and with a
renewal time within it. -/
theorem renewsInTime_iff {dhcpv4 : Accessors} {l : ACK} {iface : String} {lease : DHCPLease}
    (h : fromNclient4Lease dhcpv4 l iface = .value lease) (hpos : 0 < lease.LeaseTime) :
  RenewsInTime lease ↔
    7200 ≤ dhcpv4.IPAddressLeaseTime l.Options Network.defaultLeaseTime ∨
    dhcpv4.IPAddressLeaseTime l.Options Network.defaultLeaseTime ≤ 3600 ∧
      0 < dhcpv4.IPAddressRenewalTime l.Options Network.defaultRenewalTime ∧
      dhcpv4.IPAddressRenewalTime l.Options Network.defaultRenewalTime ≤
        dhcpv4.IPAddressLeaseTime l.Options Network.defaultLeaseTime
  := by
  obtain ⟨mtu, -, h⟩ := Outcome.bind_eq_value.mp h
  have hlease := Outcome.value.inj h
  have hleaseTime : dhcpv4.IPAddressLeaseTime l.Options Network.defaultLeaseTime =
      lease.LeaseTime := congrArg DHCPLease.LeaseTime hlease
  have hrenewalTime : dhcpv4.IPAddressRenewalTime l.Options Network.defaultRenewalTime =
      lease.RenewalTime := congrArg DHCPLease.RenewalTime hlease
  rw [renewsInTime_iff_renewalDelay, hleaseTime, hrenewalTime]
  have hcases := renewalDelay_cases lease
  rw [second] at hcases ⊢
  omega

/-! ### A lease that runs out -/

/-- The number of seconds in an option of four bytes. -/
def secondsOption (o : Option (List UInt8)) (defaultTime : ℕ) : ℕ :=
  match o with
  | some [a, b, c, d] => ((a.toNat * 256 + b.toNat) * 256 + c.toNat) * 256 + d.toNat
  | _ => defaultTime

/-- The accessors with those of the options for the times. -/
def timedAccessors : Accessors :=
  { Network.exampleAccessors with
    IPAddressLeaseTime := fun options => secondsOption (options 51)
    IPAddressRenewalTime := fun options => secondsOption (options 58) }

/-- An answer with the option for a lease time, and nothing else. -/
def leaseFor (seconds : List UInt8) : ACK where
  YourIPAddr := [192, 168, 1, 50]
  Options code := if code = 51 then some seconds else none

/-- The lease of an answer without an MTU. -/
theorem exists_lease (dhcpv4 : Accessors) {l : ACK} (iface : String)
    (h : l.Options Network.OptionInterfaceMTU = none) :
  ∃ lease, fromNclient4Lease dhcpv4 l iface = .value lease ∧
    lease.LeaseTime = dhcpv4.IPAddressLeaseTime l.Options Network.defaultLeaseTime ∧
    lease.RenewalTime = dhcpv4.IPAddressRenewalTime l.Options Network.defaultRenewalTime
  := by
  rw [fromNclient4Lease, h]
  exact ⟨_, rfl, rfl, rfl⟩

/-- A lease for a day is renewed in time. -/
theorem renewsInTime_iff_day :
  ∃ lease, fromNclient4Lease timedAccessors (leaseFor [0, 1, 0x51, 0x80]) "eth0" = .value lease ∧
    RenewsInTime lease
  := by
  obtain ⟨lease, hlease, htime, -⟩ := 
    exists_lease timedAccessors (l := leaseFor [0, 1, 0x51, 0x80]) "eth0" rfl
  use lease, hlease
  apply (renewsInTime_iff hlease (by rw [htime]; decide)).mpr
  left
  decide

/-- A lease for ninety minutes has run out when it is renewed after two hours. -/
theorem not_renewsInTime_ninetyMinutes :
  ∃ lease, fromNclient4Lease timedAccessors (leaseFor [0, 0, 0x15, 0x18]) "eth0" = .value lease ∧
    lease.LeaseTime = 90 * 60 ∧ renewalDelay lease = 120 * 60 * second ∧ ¬ RenewsInTime lease
  := by
  obtain ⟨lease, hlease, htime, -⟩ := 
    exists_lease timedAccessors (l := leaseFor [0, 0, 0x15, 0x18]) "eth0" rfl
  have hninety : lease.LeaseTime = 5400 := htime
  have hdelay : renewalDelay lease = 7200 * second := by
    rcases renewalDelay_cases lease with h | h
    · exact h.2
    · omega
  refine ⟨lease, hlease, hninety, hdelay, ?_⟩
  rw [renewsInTime_iff_renewalDelay, hdelay, hninety, second]
  omega

end JetKvm.Dhcp

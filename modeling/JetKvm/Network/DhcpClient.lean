import JetKvm.Library.Transition
import Mathlib.Data.Int.Notation
import Mathlib.Logic.Function.Basic
import Mathlib.Tactic.Common

/-!
# The DHCP client

A `DHCPClient` is told which families to use, and makes a `jetdhcpc` client whenever it is started.
That client has a timer for each family, and runs a request loop for each family that is enabled
when it starts. A loop waits for its timer, requests a lease, stores it, reports it, and sets the
timer again. Stopping a `DHCPClient` only forgets the client it has made. The system below lets the
calls of a `DHCPClient` be interleaved with the timers and the loops of all clients it ever made. Of
a lease only its family and its times are kept, and what is written to `resolv.conf` is left out.
-/

namespace JetKvm.Dhcp

/-- `link.AfInet` and `link.AfInet6`. -/
inductive Family where
  | inet
  | inet6
deriving DecidableEq, Repr

/-- `time.Second`, in nanoseconds. -/
def second : ℤ := 1000000000

def defaultTimerDuration : ℤ := 1 * second

def maxRenewalAttemptDuration : ℤ := 2 * 3600 * second

/-- A lease. It is one of IPv4 when it has a `p4`. -/
structure Lease where
  p4 : Bool
  leaseTime : ℤ
  renewalTime : ℤ
deriving DecidableEq, Repr

/-- The family of a lease. -/
def Lease.family (lease : Lease) : Family :=
  if lease.p4 then .inet else .inet6

def getRenewalTime (lease : Lease) : ℤ :=
  if lease.renewalTime ≤ 0 ∨ lease.leaseTime > maxRenewalAttemptDuration / 2 then
    maxRenewalAttemptDuration
  else lease.renewalTime

/-- A `time.Timer`: what has expired can be received once. -/
inductive Timer where
  | stopped
  | running (delay : ℤ)
  | expired
deriving DecidableEq, Repr

/-- Stopping a timer, also one that has expired, leaves nothing to receive. -/
def Timer.stop (_ : Timer) : Timer := .stopped

def Timer.reset (_ : Timer) (delay : ℤ) : Timer := .running delay

/-- The delay before the next attempt. -/
def backoff (attempt : ℕ) : ℤ :=
  Int.ofNat (1 <<< min attempt 3) * second

/-- Where a request loop is. -/
inductive Stage where
  /-- It waits for its timer. -/
  | waiting
  | ensureInterfaceUp
  /-- A request is in flight. -/
  | requestLease
  /-- A lease has been obtained, and is stored next. -/
  | handleLeaseChange (lease : Lease)
  /-- The lease has been stored, and is reported next. -/
  | onLeaseChange (lease : Lease)
  /-- The lease has been reported, and the timer is set next. -/
  | sleeping (lease : Lease)
deriving DecidableEq, Repr

/-- The lease that the loop holds. -/
def Stage.lease : Stage → Option Lease
  | waiting | ensureInterfaceUp | requestLease => none
  | handleLeaseChange lease | onLeaseChange lease | sleeping lease => some lease

/-- A request loop. -/
structure Loop where
  attempt : ℕ
  stage : Stage
deriving DecidableEq, Repr

/-- A `jetdhcpc` client. A family without a loop has none running. -/
structure Client where
  cfg : Family → Bool
  currentLease : Family → Option Lease
  timer : Family → Timer
  loop : Family → Option Loop

namespace Client

/-- `NewClient`, with the families that are enabled. -/
def new (cfg : Family → Bool) : Client where
  cfg := cfg
  currentLease _ := none
  timer _ := .running defaultTimerDuration
  loop _ := none

/-- `Start` runs a loop for each family that is enabled. -/
def start (c : Client) : Client :=
  { c with loop := fun family => if c.cfg family then some ⟨0, .waiting⟩ else none }

def renew (c : Client) : Client :=
  { c with timer := fun family => (c.timer family).reset defaultTimerDuration }

/-- `SetIPv4` and `SetIPv6`. Disabling a family stops its timer, and then sets it again. -/
def setFamily (family : Family) (enabled : Bool) (c : Client) : Client :=
  let configured := { c with cfg := Function.update c.cfg family enabled }
  if c.cfg family = enabled then configured
  else
    let cleared :=
      if enabled then configured
      else
        { configured with
          currentLease := Function.update c.currentLease family none
          timer := Function.update c.timer family (c.timer family).stop }
    { cleared with
      timer := Function.update cleared.timer family
        ((cleared.timer family).reset defaultTimerDuration) }

def setIPv4 (ipv4 : Bool) (c : Client) : Client :=
  c.setFamily .inet ipv4

def setIPv6 (ipv6 : Bool) (c : Client) : Client :=
  c.setFamily .inet6 ipv6

/-- A timer expires. -/
def expire (family : Family) (c : Client) : Option Client :=
  match c.timer family with
  | .running _ => some { c with timer := Function.update c.timer family .expired }
  | .stopped | .expired => none

/-- The loop of a family comes to another stage. -/
def goTo (family : Family) (loop : Loop) (c : Client) : Client :=
  { c with loop := Function.update c.loop family (some loop) }

/-- `resetTimer` after a failed attempt. -/
def retry (family : Family) (attempt : ℕ) (c : Client) : Client :=
  { c with
    timer := Function.update c.timer family ((c.timer family).reset (backoff attempt)) }.goTo
      family ⟨attempt + 1, .waiting⟩

/-- The first part of `handleLeaseChange`: the lease becomes the current one of its family. -/
def storeLease (lease : Lease) (c : Client) : Client :=
  { c with currentLease := Function.update c.currentLease lease.family (some lease) }

variable (family : Family) (loop : Loop) (lease : Lease) (c : Client)

@[simp]
theorem goTo_loop :
  (c.goTo family loop).loop = Function.update c.loop family (some loop)
  := rfl

@[simp]
theorem goTo_currentLease :
  (c.goTo family loop).currentLease = c.currentLease
  := rfl

@[simp]
theorem storeLease_loop :
  (c.storeLease lease).loop = c.loop
  := rfl

@[simp]
theorem storeLease_currentLease :
  (c.storeLease lease).currentLease =
    Function.update c.currentLease lease.family (some lease)
  := rfl

end Client

/-- What comes back to a loop: the interface is up, a request is answered, or something fails. -/
inductive Reply where
  | failed
  | up
  | leased (leaseTime renewalTime : ℤ)
deriving DecidableEq, Repr

/-- A step of the `requestLoop` of a family, in which something comes back to it if it waits for
an interface or for an answer. -/
def Client.requestLoop (family : Family) (reply : Reply) (c : Client) : Option Client :=
  match c.loop family with
  | none => none
  | some ⟨attempt, stage⟩ =>
      match stage, reply with
      | .waiting, _ =>
          if c.timer family = .expired then
            some ({ c with timer := Function.update c.timer family .stopped }.goTo family
              ⟨attempt, .ensureInterfaceUp⟩)
          else none
      | .ensureInterfaceUp, .failed => some (c.retry family attempt)
      | .ensureInterfaceUp, .up => some (c.goTo family ⟨attempt, .requestLease⟩)
      | .ensureInterfaceUp, .leased _ _ => none
      | .requestLease, .failed => some (c.retry family attempt)
      | .requestLease, .up => none
      -- `requestLease4` sets `p4`, and `requestLease6` does not.
      | .requestLease, .leased leaseTime renewalTime =>
          some (c.goTo family
            ⟨0, .handleLeaseChange ⟨decide (family = .inet), leaseTime, renewalTime⟩⟩)
      | .handleLeaseChange lease, _ =>
          some ((c.storeLease lease).goTo family ⟨attempt, .onLeaseChange lease⟩)
      | .onLeaseChange lease, _ => some (c.goTo family ⟨attempt, .sleeping lease⟩)
      | .sleeping lease, _ =>
          some ({ c with
            timer := Function.update c.timer family
              ((c.timer family).reset (getRenewalTime lease)) }.goTo family ⟨attempt, .waiting⟩)

/-- A `DHCPClient`, and all clients it has made, oldest first. The current one is known by its
place. -/
structure DHCPClient where
  clients : List Client
  client : Option ℕ
  enabled : Family → Bool
  /-- Whether lease changes are listened to. -/
  hasOnLeaseChange : Bool

namespace DHCPClient

/-- `NewDHCPClient`. -/
def new (hasOnLeaseChange : Bool) : DHCPClient where
  clients := []
  client := none
  enabled _ := false
  hasOnLeaseChange := hasOnLeaseChange

/-- A call of the current client, if there is one. -/
def onClient (call : Client → Client) (dc : DHCPClient) : DHCPClient :=
  match dc.client with
  | none => dc
  | some i => { dc with clients := dc.clients.modify i call }

/-- `SetIPv4` and `SetIPv6`, with what they call of the current client. -/
def setFamily (family : Family) (call : Bool → Client → Client) (enabled : Bool)
    (dc : DHCPClient) : DHCPClient :=
  { dc with enabled := Function.update dc.enabled family enabled }.onClient (call enabled)

def setIPv4 (enabled : Bool) (dc : DHCPClient) : DHCPClient :=
  dc.setFamily .inet Client.setIPv4 enabled

def setIPv6 (enabled : Bool) (dc : DHCPClient) : DHCPClient :=
  dc.setFamily .inet6 Client.setIPv6 enabled

/-- `Start`, which does nothing when it has been started. -/
def start (dc : DHCPClient) : DHCPClient :=
  match dc.client with
  | some _ => dc
  | none =>
      { dc with
        clients := dc.clients ++ [(Client.new dc.enabled).start]
        client := some dc.clients.length }

/-- `Stop`. -/
def stop (dc : DHCPClient) : DHCPClient :=
  { dc with client := none }

/-- `Renew`, which fails without a client. -/
def renew (dc : DHCPClient) : DHCPClient :=
  dc.onClient Client.renew

/-- A step of one of the clients, current or not. -/
def onAny (i : ℕ) (move : Client → Option Client) (dc : DHCPClient) : Option DHCPClient :=
  dc.clients[i]?.bind fun c => (move c).map fun c' => { dc with clients := dc.clients.set i c' }

end DHCPClient

/-- What happens next. -/
inductive Action where
  | setIPv4 (enabled : Bool)
  | setIPv6 (enabled : Bool)
  | start
  | stop
  | renew
  | expire (i : ℕ) (family : Family)
  | requestLoop (i : ℕ) (family : Family) (reply : Reply)
deriving DecidableEq, Repr

def DHCPClient.step (dc : DHCPClient) : Action → Option DHCPClient
  | .setIPv4 enabled => some (dc.setIPv4 enabled)
  | .setIPv6 enabled => some (dc.setIPv6 enabled)
  | .start => some dc.start
  | .stop => some dc.stop
  | .renew => some dc.renew
  | .expire i family => dc.onAny i (Client.expire family)
  | .requestLoop i family reply => dc.onAny i (Client.requestLoop family reply)

/-- The life of a `DHCPClient` and of all clients that it makes. -/
def lts : Lts DHCPClient Action :=
  Lts.ofStep DHCPClient.step

end JetKvm.Dhcp

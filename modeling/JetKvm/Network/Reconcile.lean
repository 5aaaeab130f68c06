import JetKvm.Library.Matching
import JetKvm.Network.Netlink

/-!
# Reconciliation of a link

The addresses of a family on a link and the default routes over the link are compared with the
expected addresses and their gateways; what is not expected is removed, and what is missing is
added.
-/

namespace JetKvm.Network

open Matching

/-- The orders in which the maps are iterated. -/
structure MapOrder where
  addrs : List IPAddress → List IPAddress
  gateways : List IP → List IP
  addrs_perm : ∀ items, (addrs items).Perm items
  gateways_perm : ∀ items, (gateways items).Perm items

/-- What a function leaves, the calls it has made, and the error it returns. -/
structure Reconciliation (Kernel : Type*) where
  kernel : Kernel
  records : List Record
  err : Option String

/-- No call has failed. -/
def Succeeded (records : List Record) : Prop :=
  ∀ record ∈ records, record.err = none

namespace Netlink

variable {Kernel : Type*} (netlink : Netlink Kernel)

/-- The kernel after a call. -/
def exec (k : Kernel) : Call → Except String Kernel
  | .LinkSetMTU mtu => netlink.LinkSetMTU k mtu
  | .AddrList => (netlink.AddrList k).map fun _ => k
  | .AddrDel addr => netlink.AddrDel k addr
  | .AddrAdd addr => netlink.AddrAdd k addr
  | .RouteListFiltered => (netlink.RouteListFiltered k).map fun _ => k
  | .RouteDel route => netlink.RouteDel k route
  | .RouteAdd route => netlink.RouteAdd k route

/-- The calls are made one after the other, also after one that fails. -/
def performAll : List Call → Kernel → Reconciliation Kernel
  | [], k => ⟨k, [], none⟩
  | call :: calls, k =>
      match netlink.exec k call with
      | .ok k' =>
          ⟨(performAll calls k').kernel, ⟨call, none⟩ :: (performAll calls k').records, none⟩
      | .error err =>
          ⟨(performAll calls k).kernel, ⟨call, some err⟩ :: (performAll calls k).records, none⟩

end Netlink

/-! ### What is expected -/

def expectedAddrs (expected : List IPAddress) : AList fun _ : List Char => IPAddress :=
  insertAll IPAddress.string expected ∅

def expectedGateways (expected : List IPAddress) : AList fun _ : List Char => IP :=
  insertAll IP.string (expected.filterMap IPAddress.Gateway) ∅

/-- The smallest MTU that is not zero, or zero. -/
def expectedMTU (expected : List IPAddress) : ℤ :=
  expected.foldl
    (fun mtu addr => if addr.MTU ≠ 0 ∧ (mtu = 0 ∨ addr.MTU < mtu) then addr.MTU else mtu) 0

/-- The call that is made for the MTU. -/
def mtuCalls (link : LinkAttrs) (mtu : ℤ) : List Call :=
  if mtu ≠ 0 ∧ mtu ≠ link.MTU then [.LinkSetMTU mtu] else []

/-! ### Addresses -/

/-- The work on the addresses. -/
structure AddrWork where
  expectedAddrs : AList fun _ : List Char => IPAddress
  toRemove : List IPNet
  toUpdate : List IPAddress

/-- An existing address is checked. -/
def checkAddr (work : AddrWork) (addr : IPNet) : AddrWork :=
  if addr.IP.isLinkLocalUnicast then work
  else
    match work.expectedAddrs.lookup addr.string with
    | none => { work with toRemove := work.toRemove ++ [addr] }
    | some expectedAddr =>
        { work with
          expectedAddrs := work.expectedAddrs.erase addr.string
          toUpdate :=
            if expectedAddr.Compare addr then work.toUpdate
            else work.toUpdate ++ [expectedAddr] }

/-- The calls for the work on the addresses. -/
def addrCalls (order : MapOrder) (work : AddrWork) : List Call :=
  work.toUpdate.map (fun addr => .AddrDel addr.NetlinkAddr) ++ work.toRemove.map .AddrDel ++
    (order.addrs (values work.expectedAddrs) ++ work.toUpdate).map fun addr =>
      .AddrAdd addr.NetlinkAddr

/-! ### Routes -/

/-- The work on the default routes. -/
structure RouteWork where
  expected : AList fun _ : List Char => IP
  toRemove : List Route

/-- An existing default route is checked. -/
def checkRoute (link : LinkAttrs) (work : RouteWork) (defaultRoute : Route) : RouteWork :=
  if defaultRoute.LinkIndex ≠ link.Index then work
  else if defaultRoute.Gw.string ∉ work.expected then
    { work with toRemove := work.toRemove ++ [defaultRoute] }
  else { work with expected := work.expected.erase defaultRoute.Gw.string }

/-- The default route that is added for a gateway. -/
def newRoute (link : LinkAttrs) (family : AddressFamily) (protocol : ℤ) (gateway : IP) :
    Route where
  LinkIndex := link.Index
  Dst := some (defaultRoute family)
  Gw := gateway
  Scope := scopeUniverse
  Table := MainRoutingTable
  Protocol := protocol

/-- The calls for the work on the default routes. -/
def routeCalls (order : MapOrder) (link : LinkAttrs) (family : AddressFamily) (protocol : ℤ)
    (work : RouteWork) : List Call :=
  work.toRemove.map .RouteDel ++
    (order.gateways (values work.expected)).map fun gateway =>
      .RouteAdd (newRoute link family protocol gateway)

namespace Netlink

variable {Kernel : Type*} (netlink : Netlink Kernel) (order : MapOrder) (link : LinkAttrs)
  (family : AddressFamily) (protocol : ℤ)

def reconcileDefaultRoutes (expected : AList fun _ : List Char => IP) (k : Kernel) :
    Reconciliation Kernel :=
  match netlink.RouteListFiltered k with
  | .error err =>
      ⟨k, [⟨.RouteListFiltered, some err⟩], some ("failed to get default routes: " ++ err)⟩
  | .ok defaultRoutes =>
      let work := defaultRoutes.foldl (checkRoute link) ⟨expected, []⟩
      let done := netlink.performAll (routeCalls order link family protocol work) k
      ⟨done.kernel, ⟨.RouteListFiltered, none⟩ :: done.records, none⟩

def ReconcileLink (expected : List IPAddress) (k : Kernel) : Reconciliation Kernel :=
  let set := netlink.performAll (mtuCalls link (expectedMTU expected)) k
  match netlink.AddrList set.kernel with
  | .error err =>
      ⟨set.kernel, set.records ++ [⟨.AddrList, some err⟩],
        some ("failed to get addresses: " ++ err)⟩
  | .ok addrs =>
      let work := addrs.foldl checkAddr ⟨expectedAddrs expected, [], []⟩
      let done := netlink.performAll (addrCalls order work) set.kernel
      let routes := netlink.reconcileDefaultRoutes order link family protocol
        (expectedGateways expected) done.kernel
      ⟨routes.kernel, set.records ++ ⟨.AddrList, none⟩ :: done.records ++ routes.records, none⟩

/-! ### The kernel -/

/-- What is relied on of the kernel: what a call that succeeds does to the addresses of the family
on the link and to the default routes of the family. -/
structure Lawful {Kernel : Type*} (netlink : Netlink Kernel) (family : AddressFamily)
    (addrs : Kernel → List IPNet) (routes : Kernel → List Route) : Prop where
  listed : ∀ k, ∀ addr ∈ addrs k, addr.Listed family
  linkSetMTU : ∀ {k k' mtu}, netlink.LinkSetMTU k mtu = .ok k' →
    (addrs k').Perm (addrs k) ∧ (routes k').Perm (routes k)
  addrList : ∀ {k listing}, netlink.AddrList k = .ok listing → listing.Perm (addrs k)
  addrDel : ∀ {k k' addr}, netlink.AddrDel k addr = .ok k' → addr ∈ addrs k →
    (addrs k').Perm ((addrs k).erase addr)
  addrAdd : ∀ {k k' addr}, netlink.AddrAdd k addr = .ok k' → addr.Canonical family →
    (addrs k').Perm (addr.normal :: addrs k) ∧ (routes k').Perm (routes k)
  routeListFiltered : ∀ {k listing}, netlink.RouteListFiltered k = .ok listing →
    listing.Perm (routes k)
  routeDel : ∀ {k k' route}, netlink.RouteDel k route = .ok k' → route ∈ routes k →
    (routes k').Perm ((routes k).erase route) ∧ (addrs k').Perm (addrs k)
  routeAdd : ∀ {k k' route}, netlink.RouteAdd k route = .ok k' →
    route.Dst = some (defaultRoute family) → route.Table = MainRoutingTable →
    ∃ route', route'.LinkIndex = route.LinkIndex ∧ route'.Gw.normal = route.Gw.normal ∧
      (routes k').Perm (route' :: routes k) ∧ (addrs k').Perm (addrs k)

/-- Removing an address does not itself alter the routes. -/
def KeepsRoutes {Kernel : Type*} (netlink : Netlink Kernel) (routes : Kernel → List Route) :
    Prop :=
  ∀ {k k' addr}, netlink.AddrDel k addr = .ok k' → (routes k').Perm (routes k)

end Netlink

section

variable {Kernel : Type*} {netlink : Netlink Kernel} {family : AddressFamily}
  {addrs : Kernel → List IPNet} {routes : Kernel → List Route} {k : Kernel}
  {call : Call} {calls calls' : List Call}

/-! ### Calls one after the other -/

theorem Netlink.performAll_append :
  netlink.performAll (calls ++ calls') k =
    ⟨(netlink.performAll calls' (netlink.performAll calls k).kernel).kernel,
      (netlink.performAll calls k).records ++
        (netlink.performAll calls' (netlink.performAll calls k).kernel).records, none⟩
  := by
  induction calls generalizing k with
  | nil =>
      cases calls' with
      | nil => rfl
      | cons call calls' =>
          rw [List.nil_append, performAll, performAll]
          split
          · rfl
          · rfl
  | cons call calls ih =>
      rw [List.cons_append, performAll, performAll]
      split
      · rw [ih]
        rfl
      · rw [ih]
        rfl

theorem succeeded_append {records records' : List Record} :
  Succeeded (records ++ records') ↔ Succeeded records ∧ Succeeded records'
  := List.forall_mem_append

theorem succeeded_cons {record : Record} {records : List Record} :
  Succeeded (record :: records) ↔ record.err = none ∧ Succeeded records
  := List.forall_mem_cons

/-- A call that succeeds comes before the others. -/
theorem Netlink.performAll_cons (h : Succeeded (netlink.performAll (call :: calls) k).records) :
  ∃ k', netlink.exec k call = .ok k' ∧ Succeeded (netlink.performAll calls k').records ∧
    (netlink.performAll (call :: calls) k).kernel = (netlink.performAll calls k').kernel
  := by
  rw [performAll] at h ⊢
  split at h
  · rename_i k' hexec
    use k', hexec
    exact ⟨(succeeded_cons.mp h).2, rfl⟩
  · have hnone := (succeeded_cons.mp h).1
    cases hnone

namespace Netlink.Lawful

variable (lawful : netlink.Lawful family addrs routes) {rest : List IPNet} {rest' : List Route}

include lawful

/-- The addresses that are removed are no longer there. -/
theorem addrDels {toRemove : List IPNet} (hroutes : netlink.KeepsRoutes routes)
    (haddrs : (addrs k).Perm (toRemove ++ rest))
    (hok : Succeeded (netlink.performAll (toRemove.map .AddrDel) k).records) :
  (addrs (netlink.performAll (toRemove.map .AddrDel) k).kernel).Perm rest ∧
    (routes (netlink.performAll (toRemove.map .AddrDel) k).kernel).Perm (routes k)
  := by
  induction toRemove generalizing k with
  | nil => exact ⟨haddrs, .refl _⟩
  | cons addr toRemove ih =>
      rw [List.map_cons] at hok ⊢
      obtain ⟨k', hexec, hok, hkernel⟩ := performAll_cons hok
      rw [hkernel]
      have hmem : addr ∈ addrs k := haddrs.mem_iff.mpr (List.mem_append_left _ List.mem_cons_self)
      have hleft : (addrs k').Perm (toRemove ++ rest) := by
        apply (lawful.addrDel hexec hmem).trans
        apply (haddrs.erase addr).trans
        rw [List.cons_append, List.erase_cons_head]
      obtain ⟨haddrs', hroutes'⟩ := ih hleft hok
      exact ⟨haddrs', hroutes'.trans (hroutes hexec)⟩

/-- The addresses that are added are there, in their shorter forms. -/
theorem addrAdds {toAdd : List IPAddress}
    (hcanonical : ∀ addr ∈ toAdd, addr.Address.Canonical family)
    (haddrs : (addrs k).Perm rest)
    (hok : Succeeded
      (netlink.performAll (toAdd.map fun addr => .AddrAdd addr.NetlinkAddr) k).records) :
  let done := netlink.performAll (toAdd.map fun addr => .AddrAdd addr.NetlinkAddr) k
  (addrs done.kernel).Perm ((toAdd.map fun addr => addr.Address.normal) ++ rest) ∧
    (routes done.kernel).Perm (routes k)
  := by
  induction toAdd generalizing k rest with
  | nil => exact ⟨haddrs, .refl _⟩
  | cons addr toAdd ih =>
      rw [List.map_cons] at hok ⊢
      dsimp only
      obtain ⟨k', hexec, hok, hkernel⟩ := performAll_cons hok
      rw [hkernel]
      obtain ⟨haddr, hroutes⟩ := lawful.addrAdd hexec (hcanonical addr List.mem_cons_self)
      have hmore : (addrs k').Perm (addr.Address.normal :: rest) := haddr.trans (haddrs.cons _)
      obtain ⟨haddrs', hroutes'⟩ :=
        ih (fun addr haddr => hcanonical addr (List.mem_cons_of_mem _ haddr)) hmore hok
      constructor
      · rw [List.map_cons, List.cons_append]
        apply haddrs'.trans List.perm_middle
      · apply hroutes'.trans hroutes

/-- The routes that are removed are no longer there. -/
theorem routeDels {toRemove : List Route} (hroutes : (routes k).Perm (toRemove ++ rest'))
    (hok : Succeeded (netlink.performAll (toRemove.map .RouteDel) k).records) :
  (routes (netlink.performAll (toRemove.map .RouteDel) k).kernel).Perm rest' ∧
    (addrs (netlink.performAll (toRemove.map .RouteDel) k).kernel).Perm (addrs k)
  := by
  induction toRemove generalizing k with
  | nil => exact ⟨hroutes, .refl _⟩
  | cons route toRemove ih =>
      rw [List.map_cons] at hok ⊢
      obtain ⟨k', hexec, hok, hkernel⟩ := performAll_cons hok
      rw [hkernel]
      have hmem : route ∈ routes k :=
        hroutes.mem_iff.mpr (List.mem_append_left _ List.mem_cons_self)
      obtain ⟨hroute, haddrs⟩ := lawful.routeDel hexec hmem
      have hleft : (routes k').Perm (toRemove ++ rest') := by
        apply hroute.trans
        apply (hroutes.erase route).trans
        rw [List.cons_append, List.erase_cons_head]
      obtain ⟨hroutes', haddrs'⟩ := ih hleft hok
      exact ⟨hroutes', haddrs'.trans haddrs⟩

/-- The routes that are added are there, over the link and with the gateways. -/
theorem routeAdds {link : LinkAttrs} {protocol : ℤ} {gateways : List IP}
    (hroutes : (routes k).Perm rest')
    (hok : Succeeded (netlink.performAll
      (gateways.map fun gateway => .RouteAdd (newRoute link family protocol gateway)) k).records) :
  let done := netlink.performAll
    (gateways.map fun gateway => .RouteAdd (newRoute link family protocol gateway)) k
  (∃ added : List Route, (routes done.kernel).Perm (added ++ rest') ∧
    (∀ route ∈ added, route.LinkIndex = link.Index) ∧
    added.map (fun route => route.Gw.normal) = gateways.map IP.normal) ∧
    (addrs done.kernel).Perm (addrs k)
  := by
  induction gateways generalizing k rest' with
  | nil =>
      refine ⟨⟨[], hroutes, ?_, rfl⟩, .refl _⟩
      intro route hroute
      cases hroute
  | cons gateway gateways ih =>
      rw [List.map_cons] at hok ⊢
      dsimp only
      obtain ⟨k', hexec, hok, hkernel⟩ := performAll_cons hok
      rw [hkernel]
      obtain ⟨route, hlink, hgw, hroute, haddrs⟩ := lawful.routeAdd hexec rfl rfl
      obtain ⟨⟨added, hadded, hlinks, hgws⟩, haddrs'⟩ := ih (hroute.trans (hroutes.cons _)) hok
      refine ⟨⟨route :: added, ?_, ?_, ?_⟩, haddrs'.trans haddrs⟩
      · apply hadded.trans List.perm_middle
      · intro other hother
        rcases List.mem_cons.mp hother with rfl | hother
        · apply hlink
        · apply hlinks other hother
      · rw [List.map_cons, List.map_cons, hgw, hgws]
        rfl

end Netlink.Lawful

end

end JetKvm.Network

import JetKvm.Network.Reconcile

/-!
# Reconciled links

After a reconciliation in which every call succeeds, the addresses and the default routes are the
expected ones, and nothing is left to do.
-/

namespace JetKvm.Network

open Matching

variable {family : AddressFamily} {expected : List IPAddress}

/-- The expected addresses are of the family and not link-local, and have different texts. -/
structure Expectable (family : AddressFamily) (expected : List IPAddress) : Prop where
  canonical : ∀ addr ∈ expected, addr.Address.Canonical family
  notLinkLocal : ∀ addr ∈ expected, ¬ addr.Address.IP.isLinkLocalUnicast
  distinct : (expected.map IPAddress.string).Nodup

/-! ### What is wanted -/

theorem IPNet.Canonical.string_eq_iff {n n' : IPNet} (h : n.Canonical family)
    (h' : n'.Canonical family) :
  n.string = n'.string ↔ n.normal = n'.normal
  := by
  constructor
  · intro hstring
    apply h.listed_normal.eq_normal h'
    rw [h.string_normal, hstring]
  · intro hnormal
    rw [← h.string_normal, hnormal, h'.string_normal]

theorem lookup_expectedAddrs {k : List Char} {addr : IPAddress}
    (h : (expectedAddrs expected).lookup k = some addr) :
  addr ∈ expected ∧ addr.string = k
  := by
  rcases lookup_insertAll h with h | h
  · apply h
  · cases h

theorem lookup_expectedGateways {k : List Char} {gateway : IP}
    (h : (expectedGateways expected).lookup k = some gateway) :
  gateway ∈ expected.filterMap IPAddress.Gateway ∧ gateway.string = k
  := by
  rcases lookup_insertAll h with h | h
  · apply h
  · cases h

theorem Expectable.nodup_normal (h : Expectable family expected) :
  (expected.map fun addr => addr.Address.normal).Nodup
  := by
  have hdistinct := h.distinct
  rw [List.nodup_iff_pairwise_ne, List.pairwise_map] at hdistinct ⊢
  apply hdistinct.imp_of_mem
  intro addr addr' hmem hmem' hne heq
  apply hne
  apply (IPNet.Canonical.string_eq_iff (h.canonical addr hmem) (h.canonical addr' hmem')).mpr heq

theorem Expectable.values_perm (h : Expectable family expected) :
  ((values (expectedAddrs expected)).map fun addr => addr.Address.normal).Perm
    (expected.map fun addr => addr.Address.normal)
  := by
  rw [← h.nodup_normal.dedup]
  apply values_insertAll_perm
  intro addr hmem addr' hmem'
  apply IPNet.Canonical.string_eq_iff (h.canonical addr hmem) (h.canonical addr' hmem')

theorem values_expectedGateways_perm :
  ((values (expectedGateways expected)).map IP.normal).Perm
    ((expected.filterMap IPAddress.Gateway).map IP.normal).dedup
  := by
  apply values_insertAll_perm
  intro gateway _ gateway' _
  rw [IP.string_eq_iff, IP.equal_iff_normal]

/-! ### The work -/

/-- The addresses that are checked. -/
def checked (addr : IPNet) : Bool :=
  !addr.IP.isLinkLocalUnicast

/-- The addresses that are checked are matched with the expected ones, and none is updated. -/
theorem checkAddrs_eq {addrs : List IPNet} {wanted : AList fun _ : List Char => IPAddress}
    (hlisted : ∀ addr ∈ addrs, addr.Listed family)
    (hwanted : ∀ {k addr}, wanted.lookup k = some addr →
      addr.Address.Canonical family ∧ addr.string = k) (toRemove : List IPNet) :
  addrs.foldl checkAddr ⟨wanted, toRemove, []⟩ =
    ⟨(matchItems IPNet.string (addrs.filter checked) wanted).2,
      toRemove ++ (matchItems IPNet.string (addrs.filter checked) wanted).1, []⟩
  := by
  induction addrs generalizing wanted toRemove with
  | nil =>
      rw [List.filter_nil, matchItems, List.append_nil]
      rfl
  | cons addr addrs ih =>
      have hlisted' := fun addr h => hlisted addr (List.mem_cons_of_mem _ h)
      rw [List.foldl_cons, checkAddr]
      split
      · rename_i hlocal
        rw [ih hlisted' hwanted, List.filter_cons_of_neg]
        rw [checked, hlocal]
        decide
      · rename_i hlocal
        rw [List.filter_cons_of_pos (by rw [checked]; simpa using hlocal), matchItems]
        dsimp only
        split
        · rename_i hlookup
          have hmem : addr.string ∉ wanted := AList.lookup_eq_none.mp hlookup
          rw [if_neg hmem, ih hlisted' hwanted, List.append_assoc]
          rfl
        · rename_i expectedAddr hlookup
          obtain ⟨hcanonical, hstring⟩ := hwanted hlookup
          have heq := (hlisted addr List.mem_cons_self).eq_normal hcanonical hstring.symm
          have hcompare : expectedAddr.Compare addr = true := by
            rw [IPAddress.Compare, heq, Bool.and_eq_true, decide_eq_true_iff]
            constructor
            · rw [IP.equal_iff_normal]
              apply (IP.normal_normal _).symm
            · rfl
          rw [if_pos (mem_of_lookup_eq hlookup), if_pos hcompare]
          apply ih hlisted'
          intro k other hother
          by_cases hk : k = addr.string
          · rw [hk, AList.lookup_erase] at hother
            cases hother
          · rw [AList.lookup_erase_ne hk] at hother
            apply hwanted hother

/-- The routes over the link. -/
def overLink (link : LinkAttrs) (route : Route) : Bool :=
  route.LinkIndex = link.Index

/-- The routes over the link are matched with the expected gateways. -/
theorem checkRoutes_eq {link : LinkAttrs} {routes : List Route}
    {wanted : AList fun _ : List Char => IP} (toRemove : List Route) :
  routes.foldl (checkRoute link) ⟨wanted, toRemove⟩ =
    ⟨(matchItems (fun route => route.Gw.string) (routes.filter (overLink link)) wanted).2,
      toRemove ++
        (matchItems (fun route => route.Gw.string) (routes.filter (overLink link)) wanted).1⟩
  := by
  induction routes generalizing wanted toRemove with
  | nil =>
      rw [List.filter_nil, matchItems, List.append_nil]
      rfl
  | cons route routes ih =>
      rw [List.foldl_cons, checkRoute]
      split
      · rename_i hlink
        rw [ih, List.filter_cons_of_neg]
        simpa [overLink] using hlink
      · rename_i hlink
        rw [List.filter_cons_of_pos (by simpa [overLink] using hlink), matchItems]
        split
        · rw [ih, List.append_assoc]
          rfl
        · rename_i hmem
          rw [if_pos (not_not.mp hmem)]
          apply ih

/-! ### What is reached -/

/-- The address is skipped. -/
def skipped (addr : IPNet) : Bool :=
  addr.IP.isLinkLocalUnicast

/-- The addresses on the link are the expected ones and the link-local ones that have been there,
the default routes over the link have the expected gateways, each of them once, and the other
default routes are those that have been there. -/
structure Reached {Kernel : Type*} (addrs : Kernel → List IPNet) (routes : Kernel → List Route)
    (link : LinkAttrs) (expected : List IPAddress) (k k' : Kernel) : Prop where
  addresses : ((addrs k').filter checked).Perm
    (expected.map fun addr => addr.Address.normal)
  linkLocals : ((addrs k').filter skipped).Perm ((addrs k).filter skipped)
  gateways : (((routes k').filter (overLink link)).map fun route => route.Gw.normal).Perm
    ((expected.filterMap IPAddress.Gateway).map IP.normal).dedup
  otherLinks : ((routes k').filter fun route => !overLink link route).Perm
    ((routes k).filter fun route => !overLink link route)

section

variable {Kernel : Type*} {netlink : Netlink Kernel} {addrs : Kernel → List IPNet}
  {routes : Kernel → List Route} {order : MapOrder} {link : LinkAttrs} {protocol : ℤ}
  {k : Kernel}

/-- What is left of the expected addresses is expected. -/
theorem mem_expected_of_left {items : List IPNet} {addr : IPAddress}
    (h : addr ∈ order.addrs
      (values (matchItems IPNet.string items (expectedAddrs expected)).2)) :
  addr ∈ expected
  := by
  obtain ⟨key, hlookup⟩ := mem_values_iff.mp ((order.addrs_perm _).mem_iff.mp h)
  exact (lookup_expectedAddrs (lookup_left hlookup)).1

theorem not_checked :
  (fun addr => !checked addr) = skipped
  := by
  funext addr
  simp [checked, skipped]

theorem Expectable.checked_normal (h : Expectable family expected) {addr : IPAddress}
    (hmem : addr ∈ expected) :
  checked addr.Address.normal = true
  := by
  rw [checked, IPNet.normal, IP.isLinkLocalUnicast_normal]
  simpa using h.notLinkLocal addr hmem

/-- The addresses after the work on the addresses. -/
theorem addrs_reached (lawful : netlink.Lawful family addrs routes)
    (keeps : netlink.KeepsRoutes routes) (hexpected : Expectable family expected)
    {listing : List IPNet} (hlisting : listing.Perm (addrs k))
    (hok : Succeeded (netlink.performAll
      (addrCalls order (listing.foldl checkAddr ⟨expectedAddrs expected, [], []⟩)) k).records) :
  let done := netlink.performAll
    (addrCalls order (listing.foldl checkAddr ⟨expectedAddrs expected, [], []⟩)) k
  ((addrs done.kernel).filter checked).Perm (expected.map fun addr => addr.Address.normal) ∧
    ((addrs done.kernel).filter skipped).Perm ((addrs k).filter skipped) ∧
    (routes done.kernel).Perm (routes k)
  := by
  have hlisted : ∀ addr ∈ listing, addr.Listed family := fun addr haddr =>
    lawful.listed k addr (hlisting.mem_iff.mp haddr)
  have hwanted : ∀ {key addr}, (expectedAddrs expected).lookup key = some addr →
      addr.Address.Canonical family ∧ addr.string = key := by
    intro key addr hlookup
    obtain ⟨hmem, hkey⟩ := lookup_expectedAddrs hlookup
    exact ⟨hexpected.canonical addr hmem, hkey⟩
  obtain ⟨matched, hitems, hvalues⟩ := exists_matched IPNet.string (listing.filter checked)
    (expectedAddrs expected) (fun addr => addr) (fun entry => entry.2.Address.normal) (by
      intro addr haddr expectedAddr hlookup
      obtain ⟨hcanonical, hstring⟩ := hwanted hlookup
      apply (hlisted addr (List.mem_of_mem_filter haddr)).eq_normal hcanonical hstring.symm)
  rw [checkAddrs_eq hlisted hwanted, addrCalls] at hok ⊢
  rw [List.map_nil, List.nil_append, List.nil_append, List.append_nil,
    Netlink.performAll_append] at hok ⊢
  obtain ⟨hdels, hadds⟩ := succeeded_append.mp hok
  obtain ⟨haddrs, hroutes⟩ := lawful.addrDels keeps (perm_left_append hlisting hitems) hdels
  obtain ⟨haddrs', hroutes'⟩ := lawful.addrAdds
    (fun addr haddr => hexpected.canonical addr (mem_expected_of_left haddr)) haddrs hadds
  obtain ⟨hchecked, hskipped⟩ := filter_added haddrs' (by
    intro n hn
    obtain ⟨addr, haddr, rfl⟩ := List.mem_map.mp hn
    apply hexpected.checked_normal (mem_expected_of_left haddr)) hitems
  refine ⟨?_, ?_, hroutes'.trans hroutes⟩
  · apply hchecked.trans
    apply List.Perm.trans _ hexpected.values_perm
    rw [map_values _ (expectedAddrs expected)]
    apply List.Perm.trans _ hvalues
    rw [List.map_id']
    apply List.Perm.append_left
    apply ((order.addrs_perm _).map _).trans
    rw [map_values]
  · rw [not_checked] at hskipped
    apply hskipped.trans (hlisting.filter skipped)

/-- The default routes after the work on the routes. -/
theorem routes_reached (lawful : netlink.Lawful family addrs routes) {listing : List Route}
    (hlisting : listing.Perm (routes k))
    (hok : Succeeded (netlink.performAll (routeCalls order link family protocol
      (listing.foldl (checkRoute link) ⟨expectedGateways expected, []⟩)) k).records) :
  let done := netlink.performAll (routeCalls order link family protocol
    (listing.foldl (checkRoute link) ⟨expectedGateways expected, []⟩)) k
  (((routes done.kernel).filter (overLink link)).map fun route => route.Gw.normal).Perm
      ((expected.filterMap IPAddress.Gateway).map IP.normal).dedup ∧
    ((routes done.kernel).filter fun route => !overLink link route).Perm
      ((routes k).filter fun route => !overLink link route) ∧
    (addrs done.kernel).Perm (addrs k)
  := by
  obtain ⟨matched, hitems, hvalues⟩ := exists_matched (fun route : Route => route.Gw.string)
    (listing.filter (overLink link)) (expectedGateways expected) (fun route => route.Gw.normal)
    (fun entry => entry.2.normal) (by
      intro route _ gateway hlookup
      rw [← IP.equal_iff_normal, ← IP.string_eq_iff]
      apply (lookup_expectedGateways hlookup).2.symm)
  rw [checkRoutes_eq, routeCalls, List.nil_append, Netlink.performAll_append] at hok ⊢
  obtain ⟨hdels, hadds⟩ := succeeded_append.mp hok
  obtain ⟨hroutes, haddrs⟩ := lawful.routeDels (perm_left_append hlisting hitems) hdels
  obtain ⟨⟨added, hadded, hlinks, hgateways⟩, haddrs'⟩ := lawful.routeAdds hroutes hadds
  obtain ⟨hover, hother⟩ := filter_added hadded (by
    intro route hroute
    rw [overLink, decide_eq_true_iff]
    apply hlinks route hroute) hitems
  refine ⟨?_, hother.trans (hlisting.filter _), haddrs'.trans haddrs⟩
  apply (hover.map _).trans
  rw [List.map_append, hgateways]
  apply List.Perm.trans _ values_expectedGateways_perm
  rw [map_values _ (expectedGateways expected)]
  apply List.Perm.trans _ hvalues
  apply List.Perm.append_left
  apply ((order.gateways_perm _).map _).trans
  rw [map_values]

/-! ### Nothing is left to do -/

theorem values_of_entries {β : Type} {wanted : AList fun _ : List Char => β}
    (h : wanted.entries = []) :
  values wanted = []
  := by
  rw [values, h, List.map_nil]

/-- When the addresses are the expected ones, there is no work on the addresses. -/
theorem addrCalls_eq_nil (hexpected : Expectable family expected) {listing : List IPNet}
    (hlisted : ∀ addr ∈ listing, addr.Listed family)
    (h : (listing.filter checked).Perm (expected.map fun addr => addr.Address.normal)) :
  addrCalls order (listing.foldl checkAddr ⟨expectedAddrs expected, [], []⟩) = []
  := by
  have hwanted : ∀ {key addr}, (expectedAddrs expected).lookup key = some addr →
      addr.Address.Canonical family ∧ addr.string = key := by
    intro key addr hlookup
    obtain ⟨hmem, hkey⟩ := lookup_expectedAddrs hlookup
    exact ⟨hexpected.canonical addr hmem, hkey⟩
  have hkeys : ((listing.filter checked).map IPNet.string).Perm (expectedAddrs expected).keys := by
    rw [expectedAddrs, keys_insertAll]
    apply ((h.trans hexpected.values_perm.symm).map _).trans
    rw [List.map_map]
    apply List.Perm.of_eq
    apply List.map_congr_left
    intro addr haddr
    obtain ⟨key, hlookup⟩ := mem_values_iff.mp haddr
    apply (hwanted hlookup).1.string_normal
  obtain ⟨hnone, hnone'⟩ := matchItems_of_perm hkeys
  rw [checkAddrs_eq hlisted hwanted, addrCalls, hnone, values_of_entries hnone',
    (order.addrs_perm []).eq_nil]
  rfl

/-- When the gateways are the expected ones, there is no work on the routes. -/
theorem routeCalls_eq_nil {listing : List Route}
    (h : ((listing.filter (overLink link)).map fun route => route.Gw.normal).Perm
      ((expected.filterMap IPAddress.Gateway).map IP.normal).dedup) :
  routeCalls order link family protocol
    (listing.foldl (checkRoute link) ⟨expectedGateways expected, []⟩) = []
  := by
  have hkeys : ((listing.filter (overLink link)).map fun route => route.Gw.string).Perm
      (expectedGateways expected).keys := by
    rw [expectedGateways, keys_insertAll]
    have hstrings := (h.trans values_expectedGateways_perm.symm).map IP.string
    rw [List.map_map, List.map_map] at hstrings
    have hnormal : IP.string ∘ IP.normal = IP.string := by
      funext ip
      apply IP.string_normal
    rw [hnormal] at hstrings
    apply List.Perm.trans _ hstrings
    apply List.Perm.of_eq
    apply List.map_congr_left
    intro route _
    apply (IP.string_normal _).symm
  obtain ⟨hnone, hnone'⟩ := matchItems_of_perm hkeys
  rw [checkRoutes_eq, routeCalls, hnone, values_of_entries hnone',
    (order.gateways_perm []).eq_nil]
  rfl

/-! ### Links -/

theorem records_performAll (netlink : Netlink Kernel) (calls : List Call) (k : Kernel) :
  (netlink.performAll calls k).records.map Record.call = calls
  := by
  induction calls generalizing k with
  | nil => rfl
  | cons call calls ih =>
      rw [Netlink.performAll]
      split
      · rw [List.map_cons, ih]
      · rw [List.map_cons, ih]

/-- The MTU does not matter to the addresses and the routes. -/
theorem mtuCalls_perm (lawful : netlink.Lawful family addrs routes) (link : LinkAttrs) (mtu : ℤ)
    (k : Kernel) :
  (addrs (netlink.performAll (mtuCalls link mtu) k).kernel).Perm (addrs k) ∧
    (routes (netlink.performAll (mtuCalls link mtu) k).kernel).Perm (routes k)
  := by
  rw [mtuCalls]
  split
  · rw [Netlink.performAll]
    split
    · rename_i hexec
      apply lawful.linkSetMTU hexec
    · exact ⟨.refl _, .refl _⟩
  · exact ⟨.refl _, .refl _⟩

theorem mtuCalls_records {mtu : ℤ} {record : Record}
    (h : record ∈ (netlink.performAll (mtuCalls link mtu) k).records) :
  ¬ record.call.Changes
  := by
  have hcall : record.call ∈ mtuCalls link mtu := by
    rw [← records_performAll netlink (mtuCalls link mtu) k]
    apply List.mem_map_of_mem h
  rw [mtuCalls] at hcall
  split at hcall
  · rw [List.mem_singleton.mp hcall]
    apply not_false
  · cases hcall

/-- A reconciliation of a link on which everything is as expected adds and removes nothing. -/
theorem ReconcileLink_idle (lawful : netlink.Lawful family addrs routes)
    (hexpected : Expectable family expected)
    (haddresses : ((addrs k).filter checked).Perm (expected.map fun addr => addr.Address.normal))
    (hgateways : (((routes k).filter (overLink link)).map fun route => route.Gw.normal).Perm
      ((expected.filterMap IPAddress.Gateway).map IP.normal).dedup) :
  ∀ record ∈ (netlink.ReconcileLink order link family protocol expected k).records,
    ¬ record.call.Changes
  := by
  obtain ⟨haddrs, hroutes⟩ := mtuCalls_perm lawful link (expectedMTU expected) k
  intro record hrecord
  rw [Netlink.ReconcileLink] at hrecord
  dsimp only at hrecord
  split at hrecord
  · rcases List.mem_append.mp hrecord with h | h
    · apply mtuCalls_records h
    · rw [List.mem_singleton.mp h]
      apply not_false
  · rename_i listing hlisting
    have hperm := lawful.addrList hlisting
    rw [addrCalls_eq_nil hexpected] at hrecord
    · rcases List.mem_append.mp hrecord with h | h
      · rcases List.mem_append.mp h with h | h
        · apply mtuCalls_records h
        · rw [List.mem_singleton.mp h]
          apply not_false
      · rw [Netlink.reconcileDefaultRoutes] at h
        dsimp only at h
        split at h
        · rw [List.mem_singleton.mp h]
          apply not_false
        · rename_i routeListing hrouteListing
          have hrouteperm := lawful.routeListFiltered hrouteListing
          dsimp only at h
          rw [routeCalls_eq_nil] at h
          · rw [List.mem_singleton.mp h]
            apply not_false
          · apply List.Perm.trans _ hgateways
            apply ((hrouteperm.trans hroutes).filter _).map
    · intro addr haddr
      apply lawful.listed _ addr (hperm.mem_iff.mp haddr)
    · apply List.Perm.trans _ haddresses
      apply (hperm.trans haddrs).filter

/-- A reconciliation in which every call succeeds reaches what is expected, and a second one adds
and removes nothing. -/
theorem ReconcileLink_reaches (lawful : netlink.Lawful family addrs routes)
    (keeps : netlink.KeepsRoutes routes) (hexpected : Expectable family expected)
    (hok : Succeeded (netlink.ReconcileLink order link family protocol expected k).records) :
  Reached addrs routes link expected k
      (netlink.ReconcileLink order link family protocol expected k).kernel ∧
    ∀ order', ∀ record ∈ (netlink.ReconcileLink order' link family protocol expected
      (netlink.ReconcileLink order link family protocol expected k).kernel).records,
      ¬ record.call.Changes
  := by
  suffices hreached : Reached addrs routes link expected k
      (netlink.ReconcileLink order link family protocol expected k).kernel by
    use hreached
    intro order'
    apply ReconcileLink_idle lawful hexpected hreached.addresses hreached.gateways
  obtain ⟨hsetAddrs, hsetRoutes⟩ :=
    mtuCalls_perm lawful link (expectedMTU expected) k
  rw [Netlink.ReconcileLink] at hok ⊢
  dsimp only at hok ⊢
  split at hok
  · have hfailed := (succeeded_cons.mp (succeeded_append.mp hok).2).1
    cases hfailed
  · rename_i listing hlisting
    obtain ⟨hok, hokRoutes⟩ := succeeded_append.mp hok
    obtain ⟨-, hok⟩ := succeeded_append.mp hok
    obtain ⟨-, hok⟩ := succeeded_cons.mp hok
    obtain ⟨hchecked, hskipped, hroutes⟩ :=
      addrs_reached lawful keeps hexpected (lawful.addrList hlisting) hok
    rw [Netlink.reconcileDefaultRoutes] at hokRoutes ⊢
    split at hokRoutes
    · have hfailed := (succeeded_cons.mp hokRoutes).1
      cases hfailed
    · rename_i routeListing hrouteListing
      obtain ⟨-, hokRoutes⟩ := succeeded_cons.mp hokRoutes
      obtain ⟨hover, hother, haddrs⟩ :=
        routes_reached lawful (lawful.routeListFiltered hrouteListing) hokRoutes
      constructor
      · apply (haddrs.filter _).trans hchecked
      · apply (haddrs.filter _).trans
        apply hskipped.trans (hsetAddrs.filter _)
      · apply hover
      · apply hother.trans
        apply (hroutes.trans hsetRoutes).filter

end

/-! ### A kernel that keeps lists -/

/-- The addresses of a family on a link and the default routes of the family. -/
structure ListKernel (family : AddressFamily) where
  addrs : List IPNet
  routes : List Route
  listed : ∀ addr ∈ addrs, addr.Listed family

namespace ListKernel

/-- The calls on the lists. An address or a route is not added twice, and one that is not there is
not removed. -/
def netlink (family : AddressFamily) : Netlink (ListKernel family) where
  LinkSetMTU k _ := .ok k
  AddrList k := .ok k.addrs
  AddrDel k addr :=
    if addr ∈ k.addrs then
      .ok ⟨k.addrs.erase addr, k.routes, fun other h => k.listed other (List.mem_of_mem_erase h)⟩
    else .error "cannot assign requested address"
  AddrAdd k addr :=
    if h : addr.Canonical family ∧ addr.normal ∉ k.addrs then
      .ok ⟨addr.normal :: k.addrs, k.routes,
        List.forall_mem_cons.mpr ⟨h.1.listed_normal, k.listed⟩⟩
    else .error "file exists"
  RouteListFiltered k := .ok k.routes
  RouteDel k route :=
    if route ∈ k.routes then .ok { k with routes := k.routes.erase route }
    else .error "no such process"
  RouteAdd k route :=
    if route ∉ k.routes then .ok { k with routes := route :: k.routes } else .error "file exists"

theorem lawful (family : AddressFamily) :
  (netlink family).Lawful family addrs routes
  := by
  constructor
  · apply listed
  · rintro k k' mtu ⟨⟩
    exact ⟨.refl _, .refl _⟩
  · rintro k listing ⟨⟩
    apply List.Perm.refl
  · intro k k' addr h hmem
    dsimp only [netlink] at h
    rw [if_pos hmem] at h
    cases h
    apply List.Perm.refl
  · intro k k' addr h _
    dsimp only [netlink] at h
    split at h
    · cases h
      exact ⟨.refl _, .refl _⟩
    · cases h
  · rintro k listing ⟨⟩
    apply List.Perm.refl
  · intro k k' route h hmem
    dsimp only [netlink] at h
    rw [if_pos hmem] at h
    cases h
    exact ⟨.refl _, .refl _⟩
  · intro k k' route h _ _
    dsimp only [netlink] at h
    split at h
    · cases h
      exact ⟨route, rfl, rfl, .refl _, .refl _⟩
    · cases h

theorem keepsRoutes (family : AddressFamily) :
  (netlink family).KeepsRoutes routes
  := by
  intro k k' addr h
  dsimp only [netlink] at h
  split at h
  · cases h
    apply List.Perm.refl
  · cases h

/-- One address is kept and one is not, the link has one route too many and one to a gateway that is
not expected, and there is a route over another link. -/
def crowded : ListKernel .AfInet where
  addrs :=
    [⟨[10, 0, 0, 5], cidrMask 24 4⟩, ⟨[169, 254, 1, 1], cidrMask 16 4⟩,
      ⟨[10, 0, 0, 2], cidrMask 24 4⟩]
  routes :=
    [⟨3, none, [10, 0, 0, 1], 0, 254, 4⟩, ⟨3, none, [10, 0, 0, 1], 0, 254, 16⟩,
      ⟨3, none, [10, 0, 0, 9], 0, 254, 4⟩, ⟨7, none, [10, 0, 0, 9], 0, 254, 4⟩]
  listed := by decide

/-- One address with the form of sixteen bytes, and its gateway. -/
def wantedAddrs : List IPAddress :=
  [⟨⟨[10, 0, 0, 2], cidrMask 24 4⟩, some [10, 0, 0, 1], 1400⟩,
    ⟨⟨IP.v4InV6Prefix ++ [10, 0, 1, 3], cidrMask 20 4⟩, some [10, 0, 1, 1], 0⟩]

/-- The maps are iterated from the front. -/
def inOrder : MapOrder where
  addrs items := items
  gateways items := items
  addrs_perm _ := .refl _
  gateways_perm _ := .refl _

theorem wantedAddrs_expectable :
  Expectable .AfInet wantedAddrs
  := by
  constructor
  · decide
  · decide
  · decide

theorem reaches_wantedAddrs :
  Reached addrs routes ⟨3, 1500⟩ wantedAddrs crowded
      ((netlink .AfInet).ReconcileLink inOrder ⟨3, 1500⟩ .AfInet 4 wantedAddrs crowded).kernel ∧
    ∀ order', ∀ record ∈ ((netlink .AfInet).ReconcileLink order' ⟨3, 1500⟩ .AfInet 4 wantedAddrs
      ((netlink .AfInet).ReconcileLink inOrder ⟨3, 1500⟩ .AfInet 4 wantedAddrs
        crowded).kernel).records, ¬ record.call.Changes
  := by
  apply ReconcileLink_reaches (lawful .AfInet) (keepsRoutes .AfInet) wantedAddrs_expectable
  unfold Succeeded
  decide

end ListKernel

end JetKvm.Network

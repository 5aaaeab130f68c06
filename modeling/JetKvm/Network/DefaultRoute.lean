import JetKvm.Network.Reconciled

/-!
# Removing the default route

The routes of a family are listed, and those that pass for default routes are deleted. None does:
the mask of a route is written with hexadecimal digits only, and is compared with the text of a
network.
-/

namespace JetKvm.Network

/-- The text that the mask of a default route is compared with. -/
def defaultMaskText : AddressFamily → List Char
  | .AfInet => ['0', '.', '0', '.', '0', '.', '0', '/', '0']
  | .AfInet6 => [':', ':', '/', '0']

/-- `net.IPv4zero` and `net.IPv6zero`. -/
def zeroIP : AddressFamily → IP
  | .AfInet => IP.v4InV6Prefix ++ [0, 0, 0, 0]
  | .AfInet6 => List.replicate 16 0

namespace Route

/-- The test of the loop of `RemoveDefaultRoute`. -/
def passesForDefault (family : AddressFamily) (route : Route) : Bool :=
  match route.Dst with
  | none => false
  | some dst =>
      IP.equal dst.IP (zeroIP family) && IPNet.maskString dst.Mask = defaultMaskText family

/-- The prefix of the destination has length zero: there is no destination, or it is the zero
network with a mask of zeros. -/
def IsDefault (family : AddressFamily) (route : Route) : Prop :=
  ∀ dst ∈ route.Dst, IP.equal dst.IP (zeroIP family) = true ∧ ∀ b ∈ dst.Mask, b = 0

instance (family : AddressFamily) : DecidablePred (IsDefault family) :=
  fun _ => inferInstanceAs (Decidable (∀ dst ∈ (_ : Option IPNet), _))

end Route

section

variable {Kernel : Type*} (netlink : Netlink Kernel)
  (RouteList : Kernel → AddressFamily → Except String (List Route)) (family : AddressFamily)
  (k : Kernel)

def Netlink.RemoveDefaultRoute : Reconciliation Kernel :=
  match RouteList k family with
  | .error err => ⟨k, [], some ("failed to get routes: " ++ err)⟩
  | .ok routes =>
      netlink.performAll ((routes.filter fun route => route.passesForDefault family).map .RouteDel) k

/-- When every call succeeds, exactly the default routes among those that are listed are
deleted. -/
def Netlink.RemovesDefaultRoutes : Prop :=
  ∀ routes, RouteList k family = .ok routes →
    let result := netlink.RemoveDefaultRoute RouteList family k
    Succeeded result.records →
      result.records.map Record.call =
        (routes.filter fun route => route.IsDefault family).map .RouteDel

end

/-! ### No route passes -/

theorem slash_notMem_hexString (bytes : List UInt8) :
  '/' ∉ IP.hexString bytes
  := by
  have hdigit : ∀ d < 16, '/' ≠ d.digitChar := by decide
  intro h
  obtain ⟨b, -, h⟩ := List.mem_flatMap.mp h
  have hlt := b.toNat_lt
  rcases List.mem_cons.mp h with h | h
  · exact hdigit (b.toNat / 16) (by omega) h
  · exact hdigit (b.toNat % 16) (by omega) (List.mem_singleton.mp h)

/-- The text of a mask is not that of a network. -/
theorem maskString_ne (m : List UInt8) (family : AddressFamily) :
  IPNet.maskString m ≠ defaultMaskText family
  := by
  intro h
  have hslash : '/' ∈ IPNet.maskString m := by
    rw [h]
    cases family with
    | AfInet => decide
    | AfInet6 => decide
  rw [IPNet.maskString] at hslash
  split at hslash
  · revert hslash
    decide
  · exact slash_notMem_hexString m hslash

theorem Route.passesForDefault_eq_false (family : AddressFamily) (route : Route) :
  route.passesForDefault family = false
  := by
  rw [passesForDefault]
  split
  · rfl
  · rw [decide_eq_false (maskString_ne _ family), Bool.and_false]

section

variable {Kernel : Type*} {netlink : Netlink Kernel}
  {RouteList : Kernel → AddressFamily → Except String (List Route)} {family : AddressFamily}
  {k : Kernel}

/-- Nothing is deleted. -/
theorem records_RemoveDefaultRoute :
  (netlink.RemoveDefaultRoute RouteList family k).records = []
  := by
  rw [Netlink.RemoveDefaultRoute]
  split
  case h_1 => rfl
  case h_2 routes _ =>
    have hnone : routes.filter (fun route => route.passesForDefault family) = [] := by
      apply List.filter_eq_nil_iff.mpr
      intro route hroute
      rw [route.passesForDefault_eq_false family]
      exact Bool.false_ne_true
    rw [hnone]
    rfl

/-- The default routes are removed exactly when there are none. -/
theorem removesDefaultRoutes_iff :
  netlink.RemovesDefaultRoutes RouteList family k ↔
    ∀ routes, RouteList k family = .ok routes → ∀ route ∈ routes, ¬ route.IsDefault family
  := by
  rw [Netlink.RemovesDefaultRoutes]
  dsimp only
  rw [records_RemoveDefaultRoute]
  have hnone : ∀ {routes : List Route},
      (([] : List Record).map Record.call =
        (routes.filter fun route => route.IsDefault family).map .RouteDel) ↔
      ∀ route ∈ routes, ¬ route.IsDefault family := by
    intro routes
    rw [List.map_nil, eq_comm, List.map_eq_nil_iff, List.filter_eq_nil_iff]
    simp only [decide_eq_true_eq]
  constructor
  · intro h routes hroutes
    apply hnone.mp
    apply h routes hroutes
    nofun
  · intro h routes hroutes _
    apply hnone.mpr
    apply h routes hroutes

end

namespace ListKernel

/-- A default route over a gateway, and a route to the network 0.0.0.0/8. -/
def withDefault : ListKernel .AfInet where
  addrs := []
  routes :=
    [⟨3, some ⟨[0, 0, 0, 0], [0, 0, 0, 0]⟩, [10, 0, 0, 1], 0, 254, 3⟩,
      ⟨3, some ⟨[0, 0, 0, 0], [255, 0, 0, 0]⟩, [], 0, 254, 2⟩]
  listed := nofun

/-- The default route stays. -/
theorem not_removesDefaultRoutes_withDefault :
  ((netlink .AfInet).RemoveDefaultRoute (fun k _ => .ok k.routes) .AfInet withDefault).kernel.routes =
      withDefault.routes ∧
    ¬ (netlink .AfInet).RemovesDefaultRoutes (fun k _ => .ok k.routes) .AfInet withDefault
  := by
  constructor
  · decide +kernel
  · intro h
    have hdeleted := h withDefault.routes rfl
    dsimp only at hdeleted
    rw [records_RemoveDefaultRoute] at hdeleted
    have hnone := hdeleted nofun
    revert hnone
    decide +kernel

end ListKernel

end JetKvm.Network

import JetKvm.Network.ParseAddr

/-!
# The servers that are asked for the time

The servers of a list are filtered by the families of addresses that are available. A server that
is an address is tested for each family on its own, and every address has a form of sixteen bytes,
so that an IPv4 address passes the test for IPv6 as well.
-/

namespace JetKvm.TimeSync

open Network

def DefaultNTPServerIPs : List String :=
  [ "162.159.200.1", "162.159.200.123", "2606:4700:f1::1", "2606:4700:f1::123",
    "216.239.35.0", "216.239.35.4", "216.239.35.8", "216.239.35.12",
    "2001:4860:4806::", "2001:4860:4806:4::", "2001:4860:4806:8::", "2001:4860:4806:c::" ]

def DefaultNTPServerHostnames : List String :=
  [ "time.apple.com", "time.aws.com", "time.windows.com", "time.google.com",
    "time.cloudflare.com" ]

/-- What the loop of `filterNTPServers` appends for a server. -/
def acceptedServers (hasIPv4 hasIPv6 : Bool) (server : String) : List String :=
  match parseIP server.toList with
  | none => [server]
  | some ip =>
      (if hasIPv4 ∧ ip.to4 ≠ none then [server] else []) ++
        if hasIPv6 ∧ ip.to16 ≠ none then [server] else []

def filterNTPServers (preCheckIPv4 preCheckIPv6 : Except String Bool) (ntpServers : List String) :
    Except String (List String) :=
  if ntpServers = [] then .ok []
  else
    match preCheckIPv4 with
    | .error err => .error err
    | .ok hasIPv4 =>
        match preCheckIPv6 with
        | .error err => .error err
        | .ok hasIPv6 => .ok (ntpServers.flatMap (acceptedServers hasIPv4 hasIPv6))

/-- The servers of a list that belong to an available family, in their order, and each as often as
before. Host names belong to both families. -/
structure Filtered (hasIPv4 hasIPv6 : Bool) (ntpServers filtered : List String) : Prop where
  sublist : filtered.Sublist ntpServers
  hostName : ∀ server, parseIP server.toList = none →
    filtered.count server = ntpServers.count server
  ipv4 : ∀ server, IsIPv4Address server.toList →
    filtered.count server = if hasIPv4 then ntpServers.count server else 0
  ipv6 : ∀ server, IsIPv6Literal server.toList →
    filtered.count server = if hasIPv6 then ntpServers.count server else 0

/-- When both checks have a result, the servers are filtered by it. -/
def FiltersServers (preCheckIPv4 preCheckIPv6 : Except String Bool) (ntpServers : List String) :
    Prop :=
  ∀ hasIPv4 hasIPv6, preCheckIPv4 = .ok hasIPv4 → preCheckIPv6 = .ok hasIPv6 →
    ∃ filtered, filterNTPServers preCheckIPv4 preCheckIPv6 ntpServers = .ok filtered ∧
      Filtered hasIPv4 hasIPv6 ntpServers filtered

/-! ### Copies -/

section

variable {α : Type*} {copies : α → ℕ} {l : List α}

/-- An element is repeated as often as the list has copies of it. -/
theorem count_flatMap_replicate [DecidableEq α] (a : α) :
  (l.flatMap fun b => List.replicate (copies b) b).count a = l.count a * copies a
  := by
  induction l with
  | nil => rw [List.flatMap_nil, List.count_nil, Nat.zero_mul]
  | cons b l ih =>
      rw [List.flatMap_cons, List.count_append, ih]
      by_cases h : b = a
      · obtain rfl := h
        rw [List.count_replicate_self, List.count_cons_self, Nat.add_mul, Nat.one_mul, Nat.add_comm]
      · rw [List.count_cons_of_ne h, List.count_eq_zero_of_not_mem, Nat.zero_add]
        exact fun ha => h (List.eq_of_mem_replicate ha).symm

/-- Without repetitions the order is kept. -/
theorem flatMap_replicate_sublist (h : ∀ a ∈ l, copies a ≤ 1) :
  (l.flatMap fun a => List.replicate (copies a) a).Sublist l
  := by
  induction l with
  | nil => exact List.Sublist.refl []
  | cons a l ih =>
      obtain ⟨ha, hl⟩ := List.forall_mem_cons.mp h
      rw [List.flatMap_cons, ← List.singleton_append (l := l)]
      apply List.Sublist.append _ (ih hl)
      exact List.replicate_sublist_replicate a |>.mpr ha

end

variable {preCheckIPv4 preCheckIPv6 : Except String Bool} {hasIPv4 hasIPv6 : Bool}
  {ntpServers : List String} {server : String}

/-- How often a server is appended. -/
def copies (hasIPv4 hasIPv6 : Bool) (server : String) : ℕ :=
  match parseIP server.toList with
  | none => 1
  | some ip => (if ip.to4 ≠ none then hasIPv4.toNat else 0) + hasIPv6.toNat

theorem acceptedServers_eq :
  acceptedServers hasIPv4 hasIPv6 server = List.replicate (copies hasIPv4 hasIPv6 server) server
  := by
  rw [acceptedServers, copies]
  cases hip : parseIP server.toList with
  | none => rfl
  | some ip =>
      dsimp only
      rw [to16_parseIP hip, List.replicate_add]
      congr 1
      · cases hasIPv4 with
        | false => simp
        | true =>
            by_cases hfour : ip.to4 = none
            · simp [hfour]
            · simp [hfour]
      · cases hasIPv6 with
        | false => simp
        | true => simp

theorem copies_hostName (h : parseIP server.toList = none) :
  copies hasIPv4 hasIPv6 server = 1
  := by
  rw [copies, h]

/-- An IPv4 address has a copy for each family. -/
theorem copies_ipv4 (h : IsIPv4Address server.toList) :
  copies hasIPv4 hasIPv6 server = hasIPv4.toNat + hasIPv6.toNat
  := by
  obtain ⟨ip4, hip4⟩ := Option.isSome_iff_exists.mp h
  obtain ⟨ip, hip, hfour⟩ := Option.bind_eq_some_iff.mp hip4
  rw [copies, hip]
  dsimp only
  rw [if_pos]
  rw [hfour]
  exact Option.some_ne_none ip4

theorem copies_ipv6 (h : IsIPv6Literal server.toList) :
  copies hasIPv4 hasIPv6 server = hasIPv6.toNat
  := by
  obtain ⟨bytes, hparse, hnone⟩ := h
  have hip : parseIP server.toList = some bytes := parseIP_eq_some.mpr ⟨_, hparse, rfl, rfl⟩
  rw [copies, hip]
  dsimp only
  rw [if_neg (not_not_intro hnone), Nat.zero_add]

/-- A server is a host name, an IPv4 address or an IPv6 address. -/
theorem server_cases (server : String) :
  parseIP server.toList = none ∨ IsIPv4Address server.toList ∨ IsIPv6Literal server.toList
  := by
  cases hip : parseIP server.toList with
  | none => exact Or.inl rfl
  | some ip =>
      right
      rw [isIPv6Literal_iff hip]
      exact Classical.em (IsIPv4Address server.toList)

theorem filterNTPServers_ok :
  filterNTPServers (.ok hasIPv4) (.ok hasIPv6) ntpServers =
    .ok (ntpServers.flatMap fun server => List.replicate (copies hasIPv4 hasIPv6 server) server)
  := by
  simp only [← acceptedServers_eq]
  rw [filterNTPServers]
  by_cases hnil : ntpServers = []
  · rw [if_pos hnil, hnil]
    rfl
  · rw [if_neg hnil]

/-- No list is returned when a check fails. -/
theorem filterNTPServers_of_checkFailed (hne : ntpServers ≠ [])
    (h : (∃ err, preCheckIPv4 = .error err) ∨ ∃ err, preCheckIPv6 = .error err) :
  ∃ err, filterNTPServers preCheckIPv4 preCheckIPv6 ntpServers = .error err
  := by
  unfold filterNTPServers
  rw [if_neg hne]
  cases preCheckIPv4 with
  | error err => exact ⟨err, rfl⟩
  | ok hasIPv4 =>
      obtain ⟨_, ⟨⟩⟩ | ⟨err, rfl⟩ := h
      exact ⟨err, rfl⟩

/-- The servers are filtered when an IPv4 address is not kept because of IPv6. -/
theorem filtered_of_copies_ipv4 (hfour : ∀ server ∈ ntpServers, IsIPv4Address server.toList →
    copies hasIPv4 hasIPv6 server = hasIPv4.toNat) :
  Filtered hasIPv4 hasIPv6 ntpServers
    (ntpServers.flatMap fun server => List.replicate (copies hasIPv4 hasIPv6 server) server)
  := by
  constructor
  case sublist =>
    apply flatMap_replicate_sublist
    intro server hserver
    obtain hhost | haddress | hsix := server_cases server
    · rw [copies_hostName hhost]
    · rw [hfour server hserver haddress]
      exact Bool.toNat_le hasIPv4
    · rw [copies_ipv6 hsix]
      exact Bool.toNat_le hasIPv6
  case hostName =>
    intro server hhost
    rw [count_flatMap_replicate, copies_hostName hhost, Nat.mul_one]
  case ipv4 =>
    intro server haddress
    rw [count_flatMap_replicate]
    by_cases hserver : server ∈ ntpServers
    · rw [hfour server hserver haddress]
      cases hasIPv4 with
      | false => simp
      | true => simp
    · simp [List.count_eq_zero_of_not_mem hserver]
  case ipv6 =>
    intro server hsix
    rw [count_flatMap_replicate, copies_ipv6 hsix]
    cases hasIPv6 with
    | false => simp
    | true => simp

/-- While IPv6 is available, an IPv4 address is there too often. -/
theorem not_isIPv4Address_of_filtered (hserver : server ∈ ntpServers)
    (h : Filtered hasIPv4 true ntpServers
      (ntpServers.flatMap fun server => List.replicate (copies hasIPv4 true server) server)) :
  ¬ IsIPv4Address server.toList
  := by
  intro haddress
  have hcount := h.ipv4 server haddress
  rw [count_flatMap_replicate, copies_ipv4 haddress] at hcount
  have hpos := List.count_pos_iff.mpr hserver
  cases hasIPv4 with
  | false =>
      rw [if_neg Bool.false_ne_true, Bool.toNat_false, Bool.toNat_true] at hcount
      omega
  | true =>
      rw [if_pos rfl, Bool.toNat_true] at hcount
      omega

/-- The servers are filtered unless there are IPv4 addresses among them while IPv6 is available. -/
theorem filtersServers_iff :
  FiltersServers preCheckIPv4 preCheckIPv6 ntpServers ↔
    ∀ hasIPv4, preCheckIPv4 = .ok hasIPv4 → preCheckIPv6 = .ok true →
      ∀ server ∈ ntpServers, ¬ IsIPv4Address server.toList
  := by
  constructor
  · rintro h hasIPv4 rfl rfl server hserver
    obtain ⟨filtered, hok, hfiltered⟩ := h hasIPv4 true rfl rfl
    rw [filterNTPServers_ok] at hok
    obtain rfl := Except.ok.inj hok
    exact not_isIPv4Address_of_filtered hserver hfiltered
  · rintro h hasIPv4 hasIPv6 rfl rfl
    refine ⟨_, filterNTPServers_ok, filtered_of_copies_ipv4 ?_⟩
    intro server hserver haddress
    cases hasIPv6 with
    | false => exact copies_ipv4 haddress
    | true => exact absurd haddress (h hasIPv4 rfl rfl server hserver)

/-- The addresses of the default servers are not filtered: when there is only IPv6, those for IPv4
stay. -/
theorem not_filtersServers_default :
  filterNTPServers (.ok false) (.ok true) DefaultNTPServerIPs = .ok DefaultNTPServerIPs ∧
    ¬ FiltersServers (.ok false) (.ok true) DefaultNTPServerIPs
  := by
  constructor
  · decide +kernel
  · intro h
    obtain ⟨filtered, hok, hfiltered⟩ := h false true rfl rfl
    rw [filterNTPServers_ok] at hok
    obtain rfl := Except.ok.inj hok
    have hcount := hfiltered.ipv4 "162.159.200.1" rfl
    rw [count_flatMap_replicate] at hcount
    revert hcount
    decide +kernel

end JetKvm.TimeSync

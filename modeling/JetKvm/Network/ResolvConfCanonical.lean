import JetKvm.Network.ResolvConfContent

/-!
# When the content of resolv.conf is canonical

What is promised of the content that is generated: it does not depend on the orders in which maps
are ranged over, it has one line for each server, and the lists of a single interface keep their
order. This asks for search domains that may be swapped, interfaces that agree, and servers that are
sorted already.
-/

namespace JetKvm.Resolv

open Network

variable {conf : ResolvConf} {domain : Text}

/-- At most one interface has a configuration. -/
def ResolvConf.IsSingle (conf : ResolvConf) : Prop :=
  ∃ name, ∀ entry ∈ conf.entries, entry.1 = name

/-- The text of the address on a line for a server. -/
def serverOf (line : Text) : Option Text :=
  if nameserverKey.isPrefixOf line then
    some ((line.drop nameserverKey.length).takeWhile (· ≠ ' '))
  else none

/-- The servers on the lines of a text. -/
def serverLines (content : Text) : List Text :=
  (content.splitOn '\n').filterMap serverOf

/-- What is promised of the content. Servers have the same text when they have the same address. -/
structure Canonical (domain : Text) (conf : ResolvConf) : Prop where
  same : ∀ r r' : Ranges conf, generateResolvConf domain r = generateResolvConf domain r'
  idle : ∀ r r' : Ranges conf,
    update (some (generateResolvConf domain r)) (generateResolvConf domain r') = none
  eachServer : ∀ r : Ranges conf, ∀ ip ∈ conf.servers,
    (serverLines (generateResolvConf domain r)).count (htmlEscape ip.string) = 1
  onlyServers : ∀ r : Ranges conf, ∀ text ∈ serverLines (generateResolvConf domain r),
    ∃ ip ∈ conf.servers, htmlEscape ip.string = text
  serverOrder : conf.IsSingle → ∀ r : Ranges conf, ∀ entry ∈ conf.entries,
    ((distinct (entry.2.NameServers.map IP.string)).map htmlEscape).Sublist
      (serverLines (generateResolvConf domain r))
  searchOrder : conf.IsSingle → ∀ r : Ranges conf, ∀ entry ∈ conf.entries,
    ∃ search, (distinct conf.searchDomains).Perm search ∧
      (distinct (entry.2.SearchList.map trimDots)).Sublist search ∧
      header ++ (searchLines search).flatMap ('\n' :: ·) <+: generateResolvConf domain r

/-! ### The condition -/

/-- The servers on the lines of a text after the first. -/
def furtherServers (text : Text) : List Text :=
  (text.splitOn '\n').tail.filterMap serverOf

/-- The comments as they are written. -/
def commentText (comments : List Text) : Text :=
  htmlEscape ([',', ' '].intercalate comments)

/-- The lists of a configuration leave no choice of an order, and its texts have no lines of their
own for servers. -/
structure Settled (domain : Text) (conf : ResolvConf) : Prop where
  search : ∀ x ∈ conf.searchDomains, ∀ y ∈ conf.searchDomains,
    htmlEscape (x ++ ' ' :: y) = htmlEscape (y ++ ' ' :: x)
  domains : ∀ d ∈ domainChoices domain conf, ∀ d' ∈ domainChoices domain conf,
    htmlEscape d = htmlEscape d'
  comments : ∀ config ∈ [conf.ConfigIPv4, conf.ConfigIPv6], ∀ x ∈ config.entries,
    ∀ y ∈ config.entries, ∀ key,
      commentText (x.commentsOf key ++ y.commentsOf key) =
        commentText (y.commentsOf key ++ x.commentsOf key)
  searchText : furtherServers (htmlEscape ([' '].intercalate (distinct conf.searchDomains))) = []
  domainText : ∀ d ∈ domainChoices domain conf, furtherServers (htmlEscape d) = []
  commentTexts : ∀ ip ∈ conf.servers,
    furtherServers (commentText (conf.entries.flatMap (Entry.commentsOf ip.string))) = []
  sorted : conf.IsSingle → ∀ entry ∈ conf.entries,
    (distinct (entry.2.NameServers.map IP.string)).Pairwise (· ≤ ·)

/-! ### The lines for servers -/

section Lines

variable {first text : Text} {ns : Text}

/-- A text on the same line as what is before it. -/
theorem serverLines_append (h : '\n' ∉ first) (text : Text) :
  serverLines (first ++ text) =
    (serverOf (first ++ (text.splitOn '\n').headD [])).toList ++ furtherServers text
  := by
  rw [serverLines, Joining.splitOn_append_of_notMem h, furtherServers]
  cases hsplit : text.splitOn '\n' with
  | nil => exact absurd hsplit (List.splitOn_ne_nil _ _)
  | cons line lines =>
      rw [List.modifyHead_cons, List.filterMap_cons]
      cases hserver : serverOf (first ++ line) with
      | none => simp [hserver]
      | some server => simp [hserver]

theorem serverLines_search (search : List Text) :
  (searchLines search).flatMap serverLines =
    furtherServers (htmlEscape ([' '].intercalate search))
  := by
  by_cases hnil : search = []
  · rw [hnil]
    rfl
  · rw [searchLines, if_neg hnil, List.flatMap_singleton, serverLines_append (by decide)]
    rfl

theorem serverLines_domain {d : Text} (hd : d ≠ []) :
  (domainLines d).flatMap serverLines = furtherServers (htmlEscape d)
  := by
  rw [domainLines, if_neg hd, List.flatMap_singleton, serverLines_append (by decide)]
  rfl

/-- The line of a server, and those that its comments add. -/
theorem serverLines_nameserver (ip : IP) (comments : List Text) :
  serverLines (nameserverLine ip.string comments) =
    htmlEscape ip.string :: furtherServers (commentText comments)
  := by
  obtain ⟨hblank, hbreak⟩ := notMem_htmlEscape_string ip
  have hfirst : '\n' ∉ nameserverKey ++ htmlEscape ip.string ++ [' ', '#', ' '] := by
    simp [nameserverKey, hbreak]
  rw [nameserverLine, serverLines_append hfirst]
  have hserver : ∀ line, serverOf (nameserverKey ++ htmlEscape ip.string ++ [' ', '#', ' '] ++ line)
      = some (htmlEscape ip.string) := by
    intro line
    have hword : ∀ c ∈ htmlEscape ip.string, decide (c ≠ ' ') = true := by
      intro c hc
      rw [decide_eq_true_iff]
      rintro rfl
      exact hblank hc
    rw [serverOf, List.append_assoc, List.append_assoc, if_pos, List.drop_left,
      List.takeWhile_append_of_pos hword]
    · exact congrArg some (List.append_nil _)
    · exact List.isPrefixOf_iff_prefix.mpr (List.prefix_append _ _)
  rw [hserver]
  rfl

/-- The servers on the lines of the content. -/
theorem serverLines_generate (domain : Text) (r : Ranges conf) :
  serverLines (generateResolvConf domain r) =
    furtherServers (htmlEscape ([' '].intercalate r.search)) ++
      furtherServers (htmlEscape (r.chosenDomain domain)) ++
        (sortedServers conf).flatMap fun ns =>
          htmlEscape ns :: furtherServers (commentText (r.comments ns))
  := by
  have hheader : (header.splitOn '\n').filterMap serverOf = [] := by decide +kernel
  have hd := getDomain_mem domain r.domain4_perm r.domain6_perm
  have hlines : ∀ lines : List Text,
      (lines.flatMap fun line => line.splitOn '\n').filterMap serverOf =
        lines.flatMap serverLines := fun lines => List.filterMap_flatMap
  have hservers : (sortedServers conf).flatMap (fun ns =>
      serverLines (nameserverLine ns (r.comments ns))) =
        (sortedServers conf).flatMap fun ns =>
          htmlEscape ns :: furtherServers (commentText (r.comments ns)) := by
    apply List.flatMap_congr
    intro ns hns
    obtain ⟨ip, -, rfl⟩ := mem_sortedServers.mp hns
    exact serverLines_nameserver ip _
  rw [generate_eq_lines, serverLines, Joining.splitOn_append_flatMap, List.filterMap_append,
    hheader, hlines, List.flatMap_append, List.flatMap_append, List.flatMap_append,
    serverLines_search, Ranges.chosenDomain, serverLines_domain (ne_nil_of_mem_domainChoices hd),
    List.flatMap_map, hservers, List.nil_append]
  exact List.append_nil _

/-- The servers that the texts of one call add. -/
def Ranges.further (r : Ranges conf) (domain : Text) : List Text :=
  furtherServers (htmlEscape ([' '].intercalate r.search)) ++
    furtherServers (htmlEscape (r.chosenDomain domain)) ++
      (sortedServers conf).flatMap fun ns => furtherServers (commentText (r.comments ns))

theorem serverLines_perm (domain : Text) (r : Ranges conf) :
  (serverLines (generateResolvConf domain r)).Perm
    ((sortedServers conf).map htmlEscape ++ r.further domain)
  := by
  rw [serverLines_generate, Ranges.further]
  have hsplit := List.map_append_flatMap_perm (sortedServers conf) htmlEscape
    fun ns => furtherServers (commentText (r.comments ns))
  apply (hsplit.symm.append_left _).trans
  rw [← List.append_assoc, ← List.append_assoc]
  apply List.Perm.append_right
  exact List.perm_append_comm

theorem nodup_map_sortedServers :
  ((sortedServers conf).map htmlEscape).Nodup
  := by
  apply List.Nodup.map_on _ nodup_sortedKeys
  intro ns hns ns' hns' heq
  obtain ⟨ip, -, rfl⟩ := mem_sortedServers.mp hns
  obtain ⟨ip', -, rfl⟩ := mem_sortedServers.mp hns'
  exact htmlEscape_string_injective heq

/-- There is one line for each server exactly when the texts add none. -/
theorem servers_iff (r : Ranges conf) :
  (∀ ip ∈ conf.servers,
      (serverLines (generateResolvConf domain r)).count (htmlEscape ip.string) = 1) ∧
    (∀ text ∈ serverLines (generateResolvConf domain r),
      ∃ ip ∈ conf.servers, htmlEscape ip.string = text) ↔
    r.further domain = []
  := by
  have hperm := serverLines_perm domain r
  have hmem : ∀ ip ∈ conf.servers, htmlEscape ip.string ∈ (sortedServers conf).map htmlEscape :=
    fun ip hip => List.mem_map_of_mem (mem_sortedServers.mpr ⟨ip, hip, rfl⟩)
  constructor
  · rintro ⟨heach, honly⟩
    apply List.eq_nil_iff_forall_not_mem.mpr
    intro text htext
    obtain ⟨ip, hip, rfl⟩ := honly text (hperm.mem_iff.mpr (List.mem_append_right _ htext))
    have hone := heach ip hip
    have hregular := List.count_pos_iff.mpr (hmem ip hip)
    have hfurther := List.count_pos_iff.mpr htext
    rw [hperm.count_eq, List.count_append] at hone
    omega
  · intro hnil
    rw [hnil, List.append_nil] at hperm
    constructor
    · intro ip hip
      rw [hperm.count_eq]
      exact List.count_eq_one_of_mem nodup_map_sortedServers (hmem ip hip)
    · intro text htext
      obtain ⟨ns, hns, rfl⟩ := List.mem_map.mp (hperm.mem_iff.mp htext)
      obtain ⟨ip, hip, rfl⟩ := mem_sortedServers.mp hns
      exact ⟨ip, hip, rfl⟩

/-- The lines are those of the servers in their order. -/
theorem serverLines_of_further_eq_nil {r : Ranges conf} (h : r.further domain = []) :
  serverLines (generateResolvConf domain r) = (sortedServers conf).map htmlEscape
  := by
  rw [Ranges.further, List.append_eq_nil_iff, List.append_eq_nil_iff] at h
  obtain ⟨⟨hsearch, hdomain⟩, hcomments⟩ := h
  rw [serverLines_generate, hsearch, hdomain, List.nil_append, List.nil_append,
    List.map_eq_flatMap]
  apply List.flatMap_congr
  intro ns hns
  rw [List.flatMap_eq_nil_iff.mp hcomments ns hns]

/-- A list keeps its order on the lines exactly when it is sorted. -/
theorem sublist_iff {entry : Entry} (hentry : entry ∈ conf.entries) :
  ((distinct (entry.2.NameServers.map IP.string)).map htmlEscape).Sublist
      ((sortedServers conf).map htmlEscape) ↔
    (distinct (entry.2.NameServers.map IP.string)).Pairwise (· ≤ ·)
  := by
  have hmem : ∀ ns ∈ distinct (entry.2.NameServers.map IP.string), ns ∈ sortedServers conf := by
    intro ns hns
    obtain ⟨ip, hip, rfl⟩ := List.mem_map.mp (mem_distinct.mp hns)
    exact mem_sortedServers.mpr ⟨ip, List.mem_flatMap.mpr ⟨entry, hentry, hip⟩, rfl⟩
  have htext : ∀ ns ∈ sortedServers conf, ∃ ip : IP, ip.string = ns := by
    intro ns hns
    obtain ⟨ip, -, hip⟩ := mem_sortedServers.mp hns
    exact ⟨ip, hip⟩
  constructor
  · intro h
    obtain ⟨sorted, hsorted, heq⟩ := List.sublist_map_iff.mp h
    have hsame : distinct (entry.2.NameServers.map IP.string) = sorted := by
      apply eq_of_map_htmlEscape_eq _ _ heq
      · intro ns hns
        apply htext ns (hmem ns hns)
      · intro ns hns
        apply htext ns (hsorted.subset hns)
    rw [hsame]
    exact (pairwise_sortedKeys _).sublist hsorted
  · intro h
    apply List.Sublist.map
    apply List.sublist_of_subperm_of_pairwise _ h (pairwise_sortedKeys _)
    exact List.subperm_of_subset (nodup_distinct _) hmem

end Lines

/-! ### The condition is exact -/

theorem further_eq_nil_iff (r : Ranges conf) :
  r.further domain = [] ↔
    furtherServers (htmlEscape ([' '].intercalate r.search)) = [] ∧
    furtherServers (htmlEscape (r.chosenDomain domain)) = [] ∧
    ∀ ip ∈ conf.servers, furtherServers (commentText (r.comments ip.string)) = []
  := by
  rw [Ranges.further, List.append_eq_nil_iff, List.append_eq_nil_iff, List.flatMap_eq_nil_iff,
    and_assoc]
  simp only [mem_sortedServers, forall_exists_index, and_imp, forall_apply_eq_imp_iff₂]

/-- Calls with the same content add the same servers. -/
theorem further_eq_nil_of_same {r r' : Ranges conf}
    (hsame : generateResolvConf domain r = generateResolvConf domain r')
    (h : r.further domain = []) :
  r'.further domain = []
  := by
  have hservers := (servers_iff r).mpr h
  rw [hsame] at hservers
  exact (servers_iff r').mp hservers

/-- Search domains may be put in any order when any two of them may be swapped. -/
theorem commute_searchPart_iff :
  Joining.Commute searchPart (distinct conf.searchDomains) ↔
    ∀ x ∈ conf.searchDomains, ∀ y ∈ conf.searchDomains,
      htmlEscape (x ++ ' ' :: y) = htmlEscape (y ++ ' ' :: x)
  := by
  have hjoined : ∀ x y, searchPart x ++ searchPart y = [' '] ++ htmlEscape (x ++ ' ' :: y) := by
    intro x y
    rw [htmlEscape_append, searchPart, List.append_assoc]
    rfl
  simp only [Joining.Commute, mem_distinct, hjoined, List.append_cancel_left_eq]

theorem commute_commentPart_iff (config : InterfaceResolvConfMap) (key : Text) :
  Joining.Commute (commentPart key) config.entries ↔
    ∀ x ∈ config.entries, ∀ y ∈ config.entries,
      commentText (x.commentsOf key ++ y.commentsOf key) =
        commentText (y.commentsOf key ++ x.commentsOf key)
  := by
  have hsep : htmlEscape [',', ' '] = [',', ' '] := rfl
  have hswap : ∀ x y : Entry, commentText (x.commentsOf key ++ y.commentsOf key) =
      commentText (y.commentsOf key ++ x.commentsOf key) ↔
        commentPart key x ++ commentPart key y = commentPart key y ++ commentPart key x := by
    intro x y
    have hperm : (x.commentsOf key ++ y.commentsOf key).Perm
        (y.commentsOf key ++ x.commentsOf key) := List.perm_append_comm
    have hjoined := htmlEscape_intercalate_eq_iff hsep hperm
    rw [List.flatMap_append, List.flatMap_append] at hjoined
    exact hjoined
  simp only [Joining.Commute, hswap]

/-- What no order may change. -/
theorem same_iff_settled :
  Same domain conf ↔
    (∀ x ∈ conf.searchDomains, ∀ y ∈ conf.searchDomains,
      htmlEscape (x ++ ' ' :: y) = htmlEscape (y ++ ' ' :: x)) ∧
    (∀ d ∈ domainChoices domain conf, ∀ d' ∈ domainChoices domain conf,
      htmlEscape d = htmlEscape d') ∧
    ∀ config ∈ [conf.ConfigIPv4, conf.ConfigIPv6], ∀ x ∈ config.entries,
      ∀ y ∈ config.entries, ∀ key,
        commentText (x.commentsOf key ++ y.commentsOf key) =
          commentText (y.commentsOf key ++ x.commentsOf key)
  := by
  rw [same_iff, commute_searchPart_iff]
  apply and_congr_right
  intro _
  apply and_congr_right
  intro _
  simp only [commute_commentPart_iff, List.forall_mem_cons]
  constructor
  · intro h
    refine ⟨fun x hx y hy key => ?_, fun x hx y hy key => ?_, nofun⟩
    · exact (h key).1 x hx y hy
    · exact (h key).2 x hx y hy
  · rintro ⟨h4, h6, -⟩ key
    constructor
    · intro x hx y hy
      apply h4 x hx y hy key
    · intro x hx y hy
      apply h6 x hx y hy key

/-- The list of an interface is in order in some order of all search domains. -/
theorem exists_search {entry : Entry} (hentry : entry ∈ conf.entries) :
  ∃ search, (distinct conf.searchDomains).Perm search ∧
    (distinct (entry.2.SearchList.map trimDots)).Sublist search
  := by
  have hsubset : distinct (entry.2.SearchList.map trimDots) ⊆ distinct conf.searchDomains := by
    intro text htext
    apply mem_distinct.mpr
    exact List.mem_flatMap.mpr ⟨entry, hentry, mem_distinct.mp htext⟩
  obtain ⟨texts, hperm, hsublist⟩ := List.subperm_of_subset (nodup_distinct _) hsubset
  obtain ⟨rest, hrest⟩ := hsublist.exists_perm_append
  refine ⟨distinct (entry.2.SearchList.map trimDots) ++ rest, ?_, List.sublist_append_left _ _⟩
  exact hrest.trans (hperm.append_right rest)

theorem Settled.canonical (h : Settled domain conf) :
  Canonical domain conf
  := by
  have hsame : Same domain conf := same_iff_settled.mpr ⟨h.search, h.domains, h.comments⟩
  have hlisted : (listed conf).further domain = [] := by
    apply (further_eq_nil_iff _).mpr
    refine ⟨h.searchText, ?_, h.commentTexts⟩
    apply h.domainText
    exact getDomain_mem domain (listed conf).domain4_perm (listed conf).domain6_perm
  have hfurther : ∀ r : Ranges conf, r.further domain = [] :=
    fun r => further_eq_nil_of_same (hsame _ r) hlisted
  constructor
  case same => exact hsame
  case idle =>
    intro r r'
    rw [update, if_pos (congrArg some (hsame r r'))]
  case eachServer => exact fun r => ((servers_iff r).mpr (hfurther r)).1
  case onlyServers => exact fun r => ((servers_iff r).mpr (hfurther r)).2
  case serverOrder =>
    intro hsingle r entry hentry
    rw [serverLines_of_further_eq_nil (hfurther r)]
    exact (sublist_iff hentry).mpr (h.sorted hsingle entry hentry)
  case searchOrder =>
    intro _ r entry hentry
    obtain ⟨search, hperm, hsublist⟩ := exists_search hentry
    refine ⟨search, hperm, hsublist, ?_⟩
    rw [hsame r { listed conf with
      search := search
      search_perm := (listed conf).search_perm.trans hperm }, generate_eq]
    simp only [List.append_assoc]
    exact List.prefix_append_right_inj _ |>.mpr (List.prefix_append _ _)

theorem Canonical.settled (h : Canonical domain conf) :
  Settled domain conf
  := by
  obtain ⟨hsearch, hdomains, hcomments⟩ := same_iff_settled.mp h.same
  have hfurther : ∀ r : Ranges conf, r.further domain = [] :=
    fun r => (servers_iff r).mp ⟨h.eachServer r, h.onlyServers r⟩
  obtain ⟨hsearchText, -, hcommentTexts⟩ := (further_eq_nil_iff _).mp (hfurther (listed conf))
  constructor
  case search => exact hsearch
  case domains => exact hdomains
  case comments => exact hcomments
  case searchText => exact hsearchText
  case domainText =>
    intro d hd
    obtain ⟨config4, config6, h4, h6, rfl⟩ := exists_getDomain hd
    obtain ⟨-, hdomain, -⟩ := (further_eq_nil_iff _).mp (hfurther
      { listed conf with
        domain4 := config4, domain6 := config6, domain4_perm := h4, domain6_perm := h6 })
    exact hdomain
  case commentTexts => exact hcommentTexts
  case sorted =>
    intro hsingle entry hentry
    have hsublist := h.serverOrder hsingle (listed conf) entry hentry
    rw [serverLines_of_further_eq_nil (hfurther _)] at hsublist
    exact (sublist_iff hentry).mp hsublist

/-- The content is canonical exactly when the configuration leaves no choice. -/
theorem canonical_iff (domain : Text) (conf : ResolvConf) :
  Canonical domain conf ↔ Settled domain conf
  := ⟨Canonical.settled, Settled.canonical⟩

/-- An interface with two servers and two search domains. -/
def twoDomains : ResolvConf where
  ConfigIPv4 := ⟨[("eth0".toList,
    { NameServers := [[192, 168, 1, 1], [1, 1, 1, 1]]
      SearchList := ["b.example".toList, "a.example".toList]
      Domain := []
      Source := "dhcp".toList })], by decide⟩
  ConfigIPv6 := ⟨[], by decide⟩

/-- The search domains in the other order. -/
def swappedRanges : Ranges twoDomains :=
  { listed twoDomains with
    search := ["a.example".toList, "b.example".toList]
    search_perm := List.Perm.swap _ _ _ }

/-- The file is written again though nothing has changed, and the first server has become the
second. -/
theorem not_canonical_twoDomains :
  ¬ Canonical [] twoDomains ∧
  update (some (generateResolvConf [] (listed twoDomains)))
    (generateResolvConf [] swappedRanges) ≠ none ∧
  serverLines (generateResolvConf [] (listed twoDomains)) =
    ["1.1.1.1".toList, "192.168.1.1".toList]
  := by
  have hwrites : update (some (generateResolvConf [] (listed twoDomains)))
      (generateResolvConf [] swappedRanges) ≠ none := by
    decide +kernel
  refine ⟨?_, hwrites, ?_⟩
  · intro h
    exact hwrites (h.idle _ _)
  · decide +kernel

end JetKvm.Resolv

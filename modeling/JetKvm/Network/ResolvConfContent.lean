import JetKvm.Network.ResolvConf
import Mathlib.Data.List.Dedup

/-!
# The content of resolv.conf in all orders

The content that is generated is a search line, a domain line and a line for each server. One call
chooses an order for each of the maps, and so the parts that depend on it are compared for any two
calls.
-/

namespace JetKvm.Resolv

open Network

variable {conf : ResolvConf} {domain : Text}

/-- The entries of both families. -/
def ResolvConf.entries (conf : ResolvConf) : List Entry :=
  conf.ConfigIPv4.entries ++ conf.ConfigIPv6.entries

def ResolvConf.servers (conf : ResolvConf) : List IP :=
  conf.entries.flatMap fun entry => entry.2.NameServers

def ResolvConf.searchDomains (conf : ResolvConf) : List Text :=
  conf.entries.flatMap fun entry => entry.2.SearchList.map trimDots

/-- A list without the later occurrences of its members. -/
def distinct (l : List Text) : List Text :=
  l.reverse.dedup.reverse

theorem mem_distinct {text : Text} {l : List Text} :
  text ∈ distinct l ↔ text ∈ l
  := by rw [distinct, List.mem_reverse, List.mem_dedup, List.mem_reverse]

theorem nodup_distinct (l : List Text) :
  (distinct l).Nodup
  := List.nodup_reverse.mpr (List.nodup_dedup _)

/-- The domains that the interfaces of a family ask for. -/
def InterfaceResolvConfMap.domains (config : InterfaceResolvConfMap) : List Text :=
  (config.entries.map fun entry => entry.2.Domain).filter (· ≠ [])

/-- The domains that may be chosen. -/
def domainChoices (domain : Text) (conf : ResolvConf) : List Text :=
  if domain ≠ [] ∧ domain ≠ ['d', 'h', 'c', 'p'] then [domain]
  else if conf.ConfigIPv4.domains ≠ [] then conf.ConfigIPv4.domains
  else if conf.ConfigIPv6.domains ≠ [] then conf.ConfigIPv6.domains
  else [['l', 'o', 'c', 'a', 'l']]

/-! ### Texts -/

section Texts

variable {s t sep : Text} {texts texts' : List Text} {ip ip' : IP}

theorem htmlEscape_append :
  htmlEscape (s ++ t) = htmlEscape s ++ htmlEscape t
  := List.flatMap_append

theorem htmlEscape_flatMap (f : Text → Text) :
  htmlEscape (texts.flatMap f) = texts.flatMap fun text => htmlEscape (f text)
  := List.flatMap_assoc

/-- Each of the joined texts is escaped. -/
theorem sep_htmlEscape_intercalate (hsep : htmlEscape sep = sep) (h : texts ≠ []) :
  sep ++ htmlEscape (sep.intercalate texts) = texts.flatMap fun text => sep ++ htmlEscape text
  := by
  have hjoined : sep ++ htmlEscape (sep.intercalate texts) =
      htmlEscape (texts.flatMap (sep ++ ·)) := by
    rw [Joining.flatMap_sep h, htmlEscape_append, hsep]
  rw [hjoined, htmlEscape_flatMap]
  simp only [htmlEscape_append, hsep]

/-- Joined texts read the same when their parts do. -/
theorem htmlEscape_intercalate_eq_iff (hsep : htmlEscape sep = sep) (hperm : texts.Perm texts') :
  htmlEscape (sep.intercalate texts) = htmlEscape (sep.intercalate texts') ↔
    (texts.flatMap fun text => sep ++ htmlEscape text) =
      texts'.flatMap fun text => sep ++ htmlEscape text
  := by
  by_cases hnil : texts = []
  · obtain rfl := hnil
    obtain rfl := List.nil_perm.mp hperm
    exact iff_of_true rfl rfl
  · have hnil' : texts' ≠ [] := by
      rintro rfl
      exact hnil (List.perm_nil.mp hperm)
    rw [← sep_htmlEscape_intercalate hsep hnil, ← sep_htmlEscape_intercalate hsep hnil',
      List.append_cancel_left_eq]

/-- The order does not change how long joined texts are. -/
theorem length_htmlEscape_intercalate (hsep : htmlEscape sep = sep) (hperm : texts.Perm texts') :
  (htmlEscape (sep.intercalate texts)).length = (htmlEscape (sep.intercalate texts')).length
  := by
  by_cases hnil : texts = []
  · obtain rfl := hnil
    rw [List.nil_perm.mp hperm]
  · have hnil' : texts' ≠ [] := by
      rintro rfl
      exact hnil (List.perm_nil.mp hperm)
    have hlength :=
      Joining.length_flatMap_perm (fun text => sep ++ htmlEscape text) hperm
    rw [← sep_htmlEscape_intercalate hsep hnil, ← sep_htmlEscape_intercalate hsep hnil',
      List.length_append, List.length_append] at hlength
    omega

/-- The characters of the text of an address. -/
theorem mem_string {c : Char} (hne : ip ≠ []) (h : c ∈ ip.string) :
  c = '.' ∨ c = ':' ∨ c = '?' ∨ IP.IsDigit c
  := by
  rcases IP.string_cases ip with ⟨hip, -⟩ | ⟨-, hs⟩ | ⟨ip4, -, hs⟩ | ⟨-, -, hs⟩
  · exact absurd hip hne
  · rw [hs] at h
    rcases List.mem_cons.mp h with h | h
    · exact Or.inr (Or.inr (Or.inl h))
    · obtain ⟨b, -, h⟩ := List.mem_flatMap.mp h
      have hlt := b.toNat_lt
      right
      right
      right
      rcases List.mem_cons.mp h with h | h
      · exact ⟨b.toNat / 16, by omega, h⟩
      · exact ⟨b.toNat % 16, by omega, List.mem_singleton.mp h⟩
  · rw [hs] at h
    rcases IP.mem_string4 h with h | h
    · exact Or.inl h
    · exact Or.inr (Or.inr (Or.inr h))
  · rw [hs] at h
    rcases IP.mem_string6 h with h | h
    · exact Or.inr (Or.inl h)
    · exact Or.inr (Or.inr (Or.inr h))

/-- The characters of an address are written as they are. -/
theorem plain_of_mem_string {c : Char} (hne : ip ≠ []) (h : c ∈ ip.string) :
  escapeChar c = [c] ∧ c ∉ [' ', '\n', '&']
  := by
  have hdigit : ∀ d < 16, escapeChar d.digitChar = [d.digitChar] ∧
      d.digitChar ∉ [' ', '\n', '&'] := by
    decide
  rcases mem_string hne h with rfl | rfl | rfl | ⟨d, hd, rfl⟩
  · decide
  · decide
  · decide
  · exact hdigit d hd

theorem htmlEscape_string (hne : ip ≠ []) :
  htmlEscape ip.string = ip.string
  := by
  have hplain : ∀ {s : Text}, (∀ c ∈ s, escapeChar c = [c]) → htmlEscape s = s := by
    intro s hs
    induction s with
    | nil => rfl
    | cons c s ih =>
        obtain ⟨hc, hs⟩ := List.forall_mem_cons.mp hs
        rw [htmlEscape, List.flatMap_cons, hc, ← htmlEscape, ih hs]
        rfl
  apply hplain
  intro c hc
  exact (plain_of_mem_string hne hc).1

/-- The text of a server is one word. -/
theorem notMem_htmlEscape_string (ip : IP) :
  ' ' ∉ htmlEscape ip.string ∧ '\n' ∉ htmlEscape ip.string
  := by
  by_cases hne : ip = []
  · obtain rfl := hne
    decide
  · rw [htmlEscape_string hne]
    constructor
    · intro h
      exact (plain_of_mem_string hne h).2 List.mem_cons_self
    · intro h
      exact (plain_of_mem_string hne h).2 (List.mem_cons_of_mem _ List.mem_cons_self)

/-- What is written for a server determines its text. -/
theorem htmlEscape_string_injective (h : htmlEscape ip.string = htmlEscape ip'.string) :
  ip.string = ip'.string
  := by
  have hnil : ∀ {ip : IP}, ip ≠ [] → htmlEscape (IP.string []) ≠ ip.string := by
    intro ip hne heq
    have hmem : '&' ∈ ip.string := by
      rw [← heq]
      decide
    exact (plain_of_mem_string hne hmem).2 (by decide)
  by_cases hip : ip = []
  · obtain rfl := hip
    by_cases hip' : ip' = []
    · rw [hip']
    · rw [htmlEscape_string hip'] at h
      exact absurd h (hnil hip')
  · rw [htmlEscape_string hip] at h
    by_cases hip' : ip' = []
    · rw [hip'] at h
      exact absurd h.symm (hnil hip)
    · rw [h, htmlEscape_string hip']

/-- What is written for the servers of a list determines their texts. -/
theorem eq_of_map_htmlEscape_eq (htexts : ∀ s ∈ texts, ∃ ip : IP, ip.string = s)
    (htexts' : ∀ s ∈ texts', ∃ ip : IP, ip.string = s)
    (h : texts.map htmlEscape = texts'.map htmlEscape) :
  texts = texts'
  := by
  induction texts generalizing texts' with
  | nil => exact (List.map_eq_nil_iff.mp h.symm).symm
  | cons s texts ih =>
      cases texts' with
      | nil => nomatch h
      | cons s' texts' =>
          obtain ⟨⟨ip, rfl⟩, hrest⟩ := List.forall_mem_cons.mp htexts
          obtain ⟨⟨ip', rfl⟩, hrest'⟩ := List.forall_mem_cons.mp htexts'
          obtain ⟨hhead, htail⟩ := List.cons_eq_cons.mp h
          rw [htmlEscape_string_injective hhead, ih hrest hrest' htail]

end Texts

/-! ### The choices of one call -/

section Choices

variable {entry : Entry} {key : Text} {d : Text}

theorem perm_distinct_searchDomains :
  (mergeBoth conf.ConfigIPv4.entries conf.ConfigIPv6.entries).searchList.keys.Perm
    (distinct conf.searchDomains)
  := by
  obtain ⟨hnodup, hmem⟩ := keys_searchList conf.ConfigIPv4.entries conf.ConfigIPv6.entries
  apply (List.perm_ext_iff_of_nodup hnodup (nodup_distinct _)).mpr
  intro key
  rw [hmem, mem_distinct, ResolvConf.searchDomains, List.mem_flatMap]
  simp only [List.mem_map, ResolvConf.entries]

/-- The orders in which the configuration is written. -/
def listed (conf : ResolvConf) : Ranges conf where
  domain4 := conf.ConfigIPv4.entries
  domain6 := conf.ConfigIPv6.entries
  merge4 := conf.ConfigIPv4.entries
  merge6 := conf.ConfigIPv6.entries
  search := distinct conf.searchDomains
  domain4_perm := List.Perm.refl _
  domain6_perm := List.Perm.refl _
  merge4_perm := List.Perm.refl _
  merge6_perm := List.Perm.refl _
  search_perm := perm_distinct_searchDomains

/-- The search domains of any call. -/
theorem Ranges.perm_search (r : Ranges conf) :
  (distinct conf.searchDomains).Perm r.search
  := perm_distinct_searchDomains.symm.trans
    ((keys_searchList_perm r.merge4_perm r.merge6_perm).trans r.search_perm)

theorem mem_domains {config : InterfaceResolvConfMap} :
  d ∈ config.domains ↔ ∃ entry ∈ config.entries, entry.2.Domain = d ∧ d ≠ []
  := by
  rw [InterfaceResolvConfMap.domains, List.mem_filter, List.mem_map, decide_eq_true_iff]
  constructor
  · rintro ⟨⟨entry, hentry, hd⟩, hne⟩
    exact ⟨entry, hentry, hd, hne⟩
  · rintro ⟨entry, hentry, hd, hne⟩
    exact ⟨⟨entry, hentry, hd⟩, hne⟩

/-- The domain of the first interface that has one. -/
theorem find?_domain {config : InterfaceResolvConfMap} {config' : List Entry}
    (hperm : config.entries.Perm config') :
  (config'.find? (fun entry => entry.2.Domain ≠ []) = none ↔ config.domains = []) ∧
    ∀ entry, config'.find? (fun entry => entry.2.Domain ≠ []) = some entry →
      entry.2.Domain ∈ config.domains
  := by
  constructor
  · rw [List.find?_eq_none, List.eq_nil_iff_forall_not_mem]
    constructor
    · intro h d hd
      obtain ⟨entry, hentry, rfl, hne⟩ := mem_domains.mp hd
      exact h entry (hperm.mem_iff.mp hentry) (decide_eq_true hne)
    · intro h entry hentry hne
      apply h entry.2.Domain
      apply mem_domains.mpr
      exact ⟨entry, hperm.mem_iff.mpr hentry, rfl, of_decide_eq_true hne⟩
  · intro entry hfind
    apply mem_domains.mpr
    have hne := List.find?_some hfind
    exact ⟨entry, hperm.mem_iff.mpr (List.mem_of_find?_eq_some hfind), rfl, of_decide_eq_true hne⟩

/-- Each domain of a family is that of the first interface in some order. -/
theorem exists_find?_domain {config : InterfaceResolvConfMap} (h : d ∈ config.domains) :
  ∃ config' entry, config.entries.Perm config' ∧
    config'.find? (fun entry => entry.2.Domain ≠ []) = some entry ∧ entry.2.Domain = d
  := by
  classical
  obtain ⟨entry, hentry, rfl, hne⟩ := mem_domains.mp h
  refine ⟨entry :: config.entries.erase entry, entry, List.perm_cons_erase hentry, ?_, rfl⟩
  apply List.find?_cons_of_pos
  exact decide_eq_true hne

theorem getDomain_mem (domain : Text) {config4 config6 : List Entry} (h4 : conf.ConfigIPv4.entries.Perm config4)
    (h6 : conf.ConfigIPv6.entries.Perm config6) :
  getDomain domain config4 config6 ∈ domainChoices domain conf
  := by
  obtain ⟨hnone4, hsome4⟩ := find?_domain h4
  obtain ⟨hnone6, hsome6⟩ := find?_domain h6
  rw [getDomain, domainChoices]
  split
  · apply List.mem_singleton_self
  · cases hfind4 : config4.find? fun entry => entry.2.Domain ≠ [] with
    | some entry =>
        have hmem := hsome4 entry hfind4
        rw [if_pos (List.ne_nil_of_mem hmem)]
        exact hmem
    | none =>
        rw [if_neg (not_not.mpr (hnone4.mp hfind4))]
        cases hfind6 : config6.find? fun entry => entry.2.Domain ≠ [] with
        | some entry =>
            have hmem := hsome6 entry hfind6
            rw [if_pos (List.ne_nil_of_mem hmem)]
            exact hmem
        | none =>
            rw [if_neg (not_not.mpr (hnone6.mp hfind6))]
            apply List.mem_singleton_self

/-- Every choice of a domain is made in some order. -/
theorem exists_getDomain (h : d ∈ domainChoices domain conf) :
  ∃ config4 config6, conf.ConfigIPv4.entries.Perm config4 ∧
    conf.ConfigIPv6.entries.Perm config6 ∧ getDomain domain config4 config6 = d
  := by
  obtain ⟨hnone4, -⟩ := find?_domain (List.Perm.refl conf.ConfigIPv4.entries)
  obtain ⟨hnone6, -⟩ := find?_domain (List.Perm.refl conf.ConfigIPv6.entries)
  rw [domainChoices] at h
  split at h
  case isTrue hset =>
    obtain rfl := List.mem_singleton.mp h
    refine ⟨_, _, List.Perm.refl _, List.Perm.refl _, ?_⟩
    rw [getDomain, if_pos hset]
  case isFalse hset =>
    split at h
    case isTrue =>
      obtain ⟨config4, entry, hperm, hfind, rfl⟩ := exists_find?_domain h
      refine ⟨config4, _, hperm, List.Perm.refl _, ?_⟩
      rw [getDomain, if_neg hset, hfind]
    case isFalse hnil4 =>
      rw [not_not, ← hnone4] at hnil4
      split at h
      case isTrue =>
        obtain ⟨config6, entry, hperm, hfind, rfl⟩ := exists_find?_domain h
        refine ⟨_, config6, List.Perm.refl _, hperm, ?_⟩
        rw [getDomain, if_neg hset, hnil4, hfind]
      case isFalse hnil6 =>
        rw [not_not, ← hnone6] at hnil6
        obtain rfl := List.mem_singleton.mp h
        refine ⟨_, _, List.Perm.refl _, List.Perm.refl _, ?_⟩
        rw [getDomain, if_neg hset, hnil4, hnil6]

/-- A choice of a domain is not empty. -/
theorem ne_nil_of_mem_domainChoices (h : d ∈ domainChoices domain conf) :
  d ≠ []
  := by
  rw [domainChoices] at h
  split at h
  case isTrue hset =>
    rw [List.mem_singleton.mp h]
    exact hset.1
  case isFalse =>
    split at h
    case isTrue =>
      obtain ⟨-, -, -, hne⟩ := mem_domains.mp h
      exact hne
    case isFalse =>
      split at h
      case isTrue =>
        obtain ⟨-, -, -, hne⟩ := mem_domains.mp h
        exact hne
      case isFalse =>
        rw [List.mem_singleton.mp h]
        exact List.cons_ne_nil _ _

end Choices

/-! ### The same content -/

section Same

variable {r r' : Ranges conf} {search search' : List Text} {d d' ns : Text}

/-- The servers in the order of the template. -/
def sortedServers (conf : ResolvConf) : List Text :=
  sortedKeys (mergeBoth conf.ConfigIPv4.entries conf.ConfigIPv6.entries).nameservers

theorem mem_sortedServers :
  ns ∈ sortedServers conf ↔ ∃ ip ∈ conf.servers, ip.string = ns
  := by
  rw [sortedServers, mem_sortedKeys]
  simp only [ResolvConf.servers, ResolvConf.entries, List.mem_flatMap]
  constructor
  · rintro ⟨entry, hentry, ip, hip, hns⟩
    exact ⟨ip, ⟨entry, hentry, hip⟩, hns⟩
  · rintro ⟨ip, ⟨entry, hentry, hip⟩, hns⟩
    exact ⟨entry, hentry, ip, hip, hns⟩

/-- The comments of a server in one call. -/
def Ranges.comments (r : Ranges conf) (ns : Text) : List Text :=
  (r.merge4 ++ r.merge6).flatMap (Entry.commentsOf ns)

/-- The domain that one call chooses. -/
def Ranges.chosenDomain (r : Ranges conf) (domain : Text) : Text :=
  getDomain domain r.domain4 r.domain6

/-- The parts of the content, each of which consists of lines. -/
theorem generate_eq_lines (domain : Text) (r : Ranges conf) :
  generateResolvConf domain r =
    header ++ (searchLines r.search ++ domainLines (r.chosenDomain domain) ++
      (sortedServers conf).map (fun ns => nameserverLine ns (r.comments ns)) ++
        [[]]).flatMap fun line => '\n' :: line
  := by
  rw [generateResolvConf, template, sortedServers, sortedKeys_eq r.merge4_perm r.merge6_perm]
  simp only [comments_mergeBoth]
  rfl

theorem generate_eq (domain : Text) (r : Ranges conf) :
  generateResolvConf domain r =
    header ++ (searchLines r.search).flatMap ('\n' :: ·) ++
      (domainLines (r.chosenDomain domain)).flatMap ('\n' :: ·) ++
        (sortedServers conf).flatMap (fun ns => '\n' :: nameserverLine ns (r.comments ns)) ++ ['\n']
  := by
  rw [generate_eq_lines]
  simp only [List.flatMap_append, List.append_assoc, List.flatMap_map]
  rfl

def searchPart (search : Text) : Text :=
  [' '] ++ htmlEscape search

def commentPart (ns : Text) (entry : Entry) : Text :=
  (entry.commentsOf ns).flatMap fun comment => [',', ' '] ++ htmlEscape comment

theorem searchLines_eq_iff (hperm : search.Perm search') :
  (searchLines search).flatMap ('\n' :: ·) = (searchLines search').flatMap ('\n' :: ·) ↔
    search.flatMap searchPart = search'.flatMap searchPart
  := by
  have hblank : htmlEscape [' '] = [' '] := rfl
  have hjoined := htmlEscape_intercalate_eq_iff hblank hperm
  by_cases hnil : search = []
  · obtain rfl := hnil
    obtain rfl := List.nil_perm.mp hperm
    exact iff_of_true rfl rfl
  · have hnil' : search' ≠ [] := by
      rintro rfl
      exact hnil (List.perm_nil.mp hperm)
    rw [searchLines, if_neg hnil, searchLines, if_neg hnil', List.flatMap_singleton,
      List.flatMap_singleton, List.cons_eq_cons, and_iff_right rfl, List.append_cancel_left_eq]
    exact hjoined

theorem domainLines_eq_iff (hd : d ≠ []) (hd' : d' ≠ []) :
  (domainLines d).flatMap ('\n' :: ·) = (domainLines d').flatMap ('\n' :: ·) ↔
    htmlEscape d = htmlEscape d'
  := by
  rw [domainLines, if_neg hd, domainLines, if_neg hd', List.flatMap_singleton,
    List.flatMap_singleton, List.cons_eq_cons, and_iff_right rfl, List.append_cancel_left_eq]

theorem comments_perm (r r' : Ranges conf) (ns : Text) :
  (r.comments ns).Perm (r'.comments ns)
  := by
  apply List.Perm.flatMap_right
  apply List.Perm.append
  · exact r.merge4_perm.symm.trans r'.merge4_perm
  · exact r.merge6_perm.symm.trans r'.merge6_perm

theorem flatMap_comments (r : Ranges conf) (ns : Text) :
  (r.comments ns).flatMap (fun comment => [',', ' '] ++ htmlEscape comment) =
    r.merge4.flatMap (commentPart ns) ++ r.merge6.flatMap (commentPart ns)
  := by
  rw [Ranges.comments, List.flatMap_append, List.flatMap_append, List.flatMap_assoc,
    List.flatMap_assoc]
  rfl

/-- The line of a server is the same when its comments read the same. -/
theorem nameserverLine_eq_iff (r r' : Ranges conf) (ns : Text) :
  nameserverLine ns (r.comments ns) = nameserverLine ns (r'.comments ns) ↔
    r.merge4.flatMap (commentPart ns) ++ r.merge6.flatMap (commentPart ns) =
      r'.merge4.flatMap (commentPart ns) ++ r'.merge6.flatMap (commentPart ns)
  := by
  have hsep : htmlEscape [',', ' '] = [',', ' '] := rfl
  have hjoined := htmlEscape_intercalate_eq_iff hsep (comments_perm r r' ns)
  rw [flatMap_comments, flatMap_comments] at hjoined
  rw [nameserverLine, nameserverLine, List.append_cancel_left_eq]
  exact hjoined

/-- All lines for the servers are the same when each of them is. -/
theorem nameserverLines_eq_iff (r r' : Ranges conf) :
  (sortedServers conf).flatMap (fun ns => '\n' :: nameserverLine ns (r.comments ns)) =
      (sortedServers conf).flatMap (fun ns => '\n' :: nameserverLine ns (r'.comments ns)) ↔
    ∀ ns ∈ sortedServers conf,
      nameserverLine ns (r.comments ns) = nameserverLine ns (r'.comments ns)
  := by
  have hsep : htmlEscape [',', ' '] = [',', ' '] := rfl
  constructor
  · intro h ns hns
    have hlength : ∀ ns ∈ sortedServers conf, ('\n' :: nameserverLine ns (r.comments ns)).length =
        ('\n' :: nameserverLine ns (r'.comments ns)).length := by
      intro ns _
      have hcomments := length_htmlEscape_intercalate hsep (comments_perm r r' ns)
      rw [List.length_cons, List.length_cons, nameserverLine, nameserverLine, List.length_append,
        hcomments, ← List.length_append]
    exact List.tail_eq_of_cons_eq (Joining.eq_of_flatMap_eq hlength h ns hns)
  · intro h
    apply List.flatMap_congr
    intro ns hns
    rw [h ns hns]

/-- An interface without a server adds nothing to its comments. -/
theorem commentPart_eq_nil {entry : Entry} (hentry : entry ∈ conf.entries)
    (h : ns ∉ sortedServers conf) :
  commentPart ns entry = []
  := by
  have hnone : entry.commentsOf ns = [] := by
    rw [Entry.commentsOf, List.map_eq_nil_iff, List.filter_eq_nil_iff]
    intro pair hpair heq
    obtain ⟨ip, hip, rfl⟩ := List.mem_map.mp hpair
    apply h
    apply mem_sortedServers.mpr
    exact ⟨ip, List.mem_flatMap.mpr ⟨entry, hentry, hip⟩, of_decide_eq_true heq⟩
  rw [commentPart, hnone]
  rfl

/-- No order of any call makes a difference. -/
def Same (domain : Text) (conf : ResolvConf) : Prop :=
  ∀ r r' : Ranges conf, generateResolvConf domain r = generateResolvConf domain r'

theorem Same.commute_search (h : Same domain conf) :
  Joining.Commute searchPart (distinct conf.searchDomains)
  := by
  apply Joining.commute_of_flatMap_eq
  intro search hperm
  have heq := h (listed conf)
    { listed conf with
      search := search
      search_perm := (listed conf).search_perm.trans hperm }
  rw [generate_eq, generate_eq] at heq
  have heq := List.append_cancel_right (List.append_cancel_right (List.append_cancel_right heq))
  exact (searchLines_eq_iff hperm).mp (List.append_cancel_left heq)

theorem Same.domains (h : Same domain conf) (hd : d ∈ domainChoices domain conf)
    (hd' : d' ∈ domainChoices domain conf) :
  htmlEscape d = htmlEscape d'
  := by
  obtain ⟨config4, config6, h4, h6, hdomain⟩ := exists_getDomain hd
  obtain ⟨config4', config6', h4', h6', hdomain'⟩ := exists_getDomain hd'
  have heq := h
    { listed conf with
      domain4 := config4, domain6 := config6, domain4_perm := h4, domain6_perm := h6 }
    { listed conf with
      domain4 := config4', domain6 := config6', domain4_perm := h4', domain6_perm := h6' }
  rw [generate_eq, generate_eq] at heq
  have heq := List.append_cancel_left (List.append_cancel_right (List.append_cancel_right heq))
  rw [← hdomain, ← hdomain']
  apply (domainLines_eq_iff _ _).mp heq
  · rw [Ranges.chosenDomain]
    exact ne_nil_of_mem_domainChoices (hdomain.symm ▸ hd)
  · rw [Ranges.chosenDomain]
    exact ne_nil_of_mem_domainChoices (hdomain'.symm ▸ hd')

/-- The comments of any two calls read the same. -/
theorem Same.comments (h : Same domain conf) (hns : ns ∈ sortedServers conf) (r r' : Ranges conf)
    (hsearch : r.search = r'.search) (hdomain : r.chosenDomain domain = r'.chosenDomain domain) :
  r.merge4.flatMap (commentPart ns) ++ r.merge6.flatMap (commentPart ns) =
    r'.merge4.flatMap (commentPart ns) ++ r'.merge6.flatMap (commentPart ns)
  := by
  have heq := h r r'
  rw [generate_eq, generate_eq, hsearch, hdomain] at heq
  have heq := List.append_cancel_left (List.append_cancel_right heq)
  exact (nameserverLine_eq_iff r r' ns).mp ((nameserverLines_eq_iff r r').mp heq ns hns)

/-- The interfaces of each family agree on the comments of a server. -/
theorem Same.commute_comments (h : Same domain conf) (ns : Text) :
  Joining.Commute (commentPart ns) conf.ConfigIPv4.entries ∧
    Joining.Commute (commentPart ns) conf.ConfigIPv6.entries
  := by
  by_cases hns : ns ∈ sortedServers conf
  · constructor
    · apply Joining.commute_of_flatMap_eq
      intro merge4 hperm
      have heq := h.comments hns (listed conf)
        { listed conf with
          merge4 := merge4
          merge4_perm := hperm
          search_perm := (keys_searchList_perm hperm (List.Perm.refl _)).symm.trans
            perm_distinct_searchDomains } rfl rfl
      exact List.append_cancel_right heq
    · apply Joining.commute_of_flatMap_eq
      intro merge6 hperm
      have heq := h.comments hns (listed conf)
        { listed conf with
          merge6 := merge6
          merge6_perm := hperm
          search_perm := (keys_searchList_perm (List.Perm.refl _) hperm).symm.trans
            perm_distinct_searchDomains } rfl rfl
      exact List.append_cancel_left heq
  · constructor
    · intro x hx y hy
      rw [commentPart_eq_nil (List.mem_append_left _ hx) hns,
        commentPart_eq_nil (List.mem_append_left _ hy) hns]
    · intro x hx y hy
      rw [commentPart_eq_nil (List.mem_append_right _ hx) hns,
        commentPart_eq_nil (List.mem_append_right _ hy) hns]

/-- The content is always the same when no order makes a difference. -/
theorem same_iff :
  Same domain conf ↔
    Joining.Commute searchPart (distinct conf.searchDomains) ∧
    (∀ d ∈ domainChoices domain conf, ∀ d' ∈ domainChoices domain conf,
      htmlEscape d = htmlEscape d') ∧
    ∀ ns, Joining.Commute (commentPart ns) conf.ConfigIPv4.entries ∧
      Joining.Commute (commentPart ns) conf.ConfigIPv6.entries
  := by
  constructor
  · intro h
    exact ⟨h.commute_search, fun d hd d' hd' => h.domains hd hd', h.commute_comments⟩
  · rintro ⟨hsearch, hdomains, hcomments⟩ r r'
    have hsearchLines : (searchLines r.search).flatMap ('\n' :: ·) =
        (searchLines r'.search).flatMap ('\n' :: ·) := by
      apply (searchLines_eq_iff (r.perm_search.symm.trans r'.perm_search)).mpr
      exact (hsearch.flatMap_eq r.perm_search).symm.trans (hsearch.flatMap_eq r'.perm_search)
    have hdomainLines : (domainLines (r.chosenDomain domain)).flatMap ('\n' :: ·) =
        (domainLines (r'.chosenDomain domain)).flatMap ('\n' :: ·) := by
      have hd := getDomain_mem domain r.domain4_perm r.domain6_perm
      have hd' := getDomain_mem domain r'.domain4_perm r'.domain6_perm
      apply (domainLines_eq_iff (ne_nil_of_mem_domainChoices hd)
        (ne_nil_of_mem_domainChoices hd')).mpr
      apply hdomains _ hd _ hd'
    have hnameserverLines := (nameserverLines_eq_iff r r').mpr fun ns _ => by
      obtain ⟨h4, h6⟩ := hcomments ns
      apply (nameserverLine_eq_iff r r' ns).mpr
      rw [← h4.flatMap_eq r.merge4_perm, ← h4.flatMap_eq r'.merge4_perm,
        ← h6.flatMap_eq r.merge6_perm, ← h6.flatMap_eq r'.merge6_perm]
    rw [generate_eq, generate_eq, hsearchLines, hdomainLines, hnameserverLines]

end Same

end JetKvm.Resolv

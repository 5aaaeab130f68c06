import JetKvm.Library.Joining
import JetKvm.Network.IP
import Mathlib.Data.Char
import Mathlib.Data.List.Lex
import Mathlib.Data.List.Sort

/-!
# The file resolv.conf

The name servers and the search lists of all interfaces are merged through two maps, whose keys are
texts. The search list is what ranging over its map gives, and the template ranges over the map of
the name servers in the order of its keys. Go ranges over its other maps in any order, and so the
orders of one call are a parameter.
-/

namespace JetKvm.Resolv

open Network

/-- The texts of the file. -/
abbrev Text :=
  List Char

/-- `types.InterfaceResolvConf`. -/
structure InterfaceResolvConf where
  NameServers : List IP
  SearchList : List Text
  Domain : Text
  Source : Text

/-- The name of an interface with its configuration. -/
abbrev Entry :=
  Text × InterfaceResolvConf

/-- `types.InterfaceResolvConfMap`. -/
structure InterfaceResolvConfMap where
  entries : List Entry
  names_nodup : (entries.map Prod.fst).Nodup

/-- `types.ResolvConf`, as far as it is used. -/
structure ResolvConf where
  ConfigIPv4 : InterfaceResolvConfMap
  ConfigIPv6 : InterfaceResolvConfMap

/-- `configMap`. -/
abbrev ConfigMap :=
  List (Text × List Text)

namespace ConfigMap

/-- A comment is appended to those of a key, which is new at first. -/
def add (key comment : Text) : ConfigMap → ConfigMap
  | [] => [(key, [comment])]
  | (other, comments) :: rest =>
      if other = key then (other, comments ++ [comment]) :: rest
      else (other, comments) :: add key comment rest

/-- The keys in the order in which they were added. -/
def keys (m : ConfigMap) : List Text :=
  m.map Prod.fst

/-- The comments of a key, in the order in which they were added. -/
def comments (m : ConfigMap) (key : Text) : List Text :=
  (m.lookup key).getD []

end ConfigMap

/-! ### Merging -/

/-- The comment of an interface. -/
def Entry.comment (entry : Entry) : Text :=
  if entry.2.Source = [] then entry.1
  else entry.1 ++ [' ', '('] ++ entry.2.Source ++ [')']

/-- `strings.Trim`, of dots. -/
def trimDots (s : Text) : Text :=
  ((s.dropWhile (· = '.')).reverse.dropWhile (· = '.')).reverse

/-- The two maps that are merged. -/
structure Merged where
  nameservers : ConfigMap
  searchList : ConfigMap

/-- A round of the loop of `mergeConfig`. -/
def mergeInterface (merged : Merged) (entry : Entry) : Merged where
  nameservers :=
    entry.2.NameServers.foldl (fun m ip => m.add ip.string entry.comment) merged.nameservers
  searchList :=
    entry.2.SearchList.foldl (fun m search => m.add (trimDots search) entry.comment)
      merged.searchList

/-- The servers and search domains of some interfaces. -/
def mergeConfig (merged : Merged) (config : List Entry) : Merged :=
  config.foldl mergeInterface merged

/-- Both families are merged, in the orders of the two loops. -/
def mergeBoth (config4 config6 : List Entry) : Merged :=
  mergeConfig (mergeConfig ⟨[], []⟩ config4) config6

/-- The domain of the manager, or else that of the first interface that has one. -/
def getDomain (domain : Text) (config4 config6 : List Entry) : Text :=
  if domain ≠ [] ∧ domain ≠ ['d', 'h', 'c', 'p'] then domain
  else
    match config4.find? fun entry => entry.2.Domain ≠ [] with
    | some entry => entry.2.Domain
    | none =>
        match config6.find? fun entry => entry.2.Domain ≠ [] with
        | some entry => entry.2.Domain
        | none => ['l', 'o', 'c', 'a', 'l']

/-! ### The template -/

/-- What the package `html/template` writes for a character. -/
def escapeChar (c : Char) : Text :=
  if c = '\x00' then ['\uFFFD']
  else if c = '"' then ['&', '#', '3', '4', ';']
  else if c = '&' then ['&', 'a', 'm', 'p', ';']
  else if c = '\'' then ['&', '#', '3', '9', ';']
  else if c = '+' then ['&', '#', '4', '3', ';']
  else if c = '<' then ['&', 'l', 't', ';']
  else if c = '>' then ['&', 'g', 't', ';']
  else [c]

/-- What the template escapes. -/
def htmlEscape (s : Text) : Text :=
  s.flatMap escapeChar

/-- The first lines of the template, up to its first part. -/
def header : Text :=
  ("# the resolv.conf file is managed by JetKVM\n" ++
    "# DO NOT EDIT THIS FILE BY HAND -- YOUR CHANGES WILL BE OVERWRITTEN\n\n").toList

/-- The line of the search domains, if there are any. -/
def searchLines (searchList : List Text) : List Text :=
  if searchList = [] then []
  else [['s', 'e', 'a', 'r', 'c', 'h', ' '] ++ htmlEscape ([' '].intercalate searchList)]

/-- The line of the domain, if there is one. -/
def domainLines (domain : Text) : List Text :=
  if domain = [] then [] else [['d', 'o', 'm', 'a', 'i', 'n', ' '] ++ htmlEscape domain]

/-- The beginning of a line for a server. -/
def nameserverKey : Text :=
  ['n', 'a', 'm', 'e', 's', 'e', 'r', 'v', 'e', 'r', ' ']

/-- The line of a server, with its comments. -/
def nameserverLine (ns : Text) (comments : List Text) : Text :=
  nameserverKey ++ htmlEscape ns ++ [' ', '#', ' '] ++ htmlEscape ([',', ' '].intercalate comments)

/-- The keys of a map in the order in which a template ranges over them. -/
def sortedKeys (m : ConfigMap) : List Text :=
  m.keys.insertionSort (· ≤ ·)

/-- `resolvConfTemplate`. Each of its parts begins with a line break, and so does its end. -/
def template (domain : Text) (nameservers : ConfigMap) (searchList : List Text) : Text :=
  header ++ (searchLines searchList ++ domainLines domain ++
    (sortedKeys nameservers).map (fun ns => nameserverLine ns (nameservers.comments ns)) ++
      [[]]).flatMap fun line => '\n' :: line

/-- The orders in which one call ranges over the maps of a configuration. -/
structure Ranges (conf : ResolvConf) where
  domain4 : List Entry
  domain6 : List Entry
  merge4 : List Entry
  merge6 : List Entry
  search : List Text
  domain4_perm : conf.ConfigIPv4.entries.Perm domain4
  domain6_perm : conf.ConfigIPv6.entries.Perm domain6
  merge4_perm : conf.ConfigIPv4.entries.Perm merge4
  merge6_perm : conf.ConfigIPv6.entries.Perm merge6
  search_perm : (mergeBoth merge4 merge6).searchList.keys.Perm search

variable {conf : ResolvConf}

/-- The content for the domain of the manager. -/
def generateResolvConf (domain : Text) (ranges : Ranges conf) : Text :=
  template (getDomain domain ranges.domain4 ranges.domain6)
    (mergeBoth ranges.merge4 ranges.merge6).nameservers ranges.search

/-- What `update` writes, if anything: the content, unless the file exists with this content. -/
def update (existingContent : Option Text) (content : Text) : Option Text :=
  if existingContent = some content then none else some content

/-! ### Maps -/

namespace ConfigMap

variable {m : ConfigMap} {key key' comment : Text} {pairs : List (Text × Text)}

/-- The first entry of a key has its comments. -/
theorem comments_cons {comments' : List Text} :
  comments ((key, comments') :: m) key' = if key = key' then comments' else comments m key'
  := by
  rw [comments, List.lookup_cons]
  by_cases h : key = key'
  · rw [if_pos h, h, beq_self_eq_true]
    rfl
  · have hne : (key' == key) = false := beq_eq_false_iff_ne.mpr (Ne.symm h)
    rw [if_neg h, hne]
    rfl

/-- A key is added once. -/
theorem keys_add :
  keys (add key comment m) = if key ∈ keys m then keys m else keys m ++ [key]
  := by
  induction m with
  | nil => rfl
  | cons entry m ih =>
      have hcons : keys (entry :: m) = entry.1 :: keys m := rfl
      rw [add, hcons]
      by_cases h : entry.1 = key
      · rw [if_pos h, if_pos (List.mem_cons.mpr (Or.inl h.symm))]
        rfl
      · rw [if_neg h, keys, List.map_cons, ← keys, ih]
        by_cases hkey : key ∈ keys m
        · rw [if_pos hkey, if_pos (List.mem_cons_of_mem _ hkey)]
        · rw [if_neg hkey, if_neg]
          · rfl
          · intro hmem
            rcases List.mem_cons.mp hmem with heq | hmem
            · exact h heq.symm
            · exact hkey hmem

/-- Its comments are added each time. -/
theorem comments_add :
  comments (add key comment m) key' =
    if key = key' then comments m key' ++ [comment] else comments m key'
  := by
  induction m with
  | nil => exact comments_cons
  | cons entry m ih =>
      rw [add]
      by_cases hentry : entry.1 = key
      · rw [if_pos hentry, comments_cons, comments_cons, hentry]
        split
        · rfl
        · rfl
      · rw [if_neg hentry, comments_cons, comments_cons, ih]
        by_cases hkey : entry.1 = key'
        · rw [if_pos hkey, if_pos hkey, if_neg]
          rintro rfl
          exact hentry hkey
        · rw [if_neg hkey, if_neg hkey]

/-- Many comments are added. -/
def addAll (m : ConfigMap) (pairs : List (Text × Text)) : ConfigMap :=
  pairs.foldl (fun m pair => m.add pair.1 pair.2) m

/-- No key is added twice. -/
theorem keys_addAll (pairs : List (Text × Text)) (hnodup : m.keys.Nodup) :
  (m.addAll pairs).keys.Nodup ∧
    ∀ key, key ∈ (m.addAll pairs).keys ↔ key ∈ m.keys ∨ key ∈ pairs.map Prod.fst
  := by
  induction pairs generalizing m with
  | nil => exact ⟨hnodup, fun key => by simp [addAll]⟩
  | cons pair pairs ih =>
      have hadd : (m.add pair.1 pair.2).keys.Nodup ∧
          ∀ key, key ∈ (m.add pair.1 pair.2).keys ↔ key ∈ m.keys ∨ key = pair.1 := by
        rw [keys_add]
        split
        case isTrue hkey =>
          use hnodup
          intro key
          constructor
          · exact Or.inl
          · rintro (hmem | rfl)
            · exact hmem
            · exact hkey
        case isFalse hkey =>
          constructor
          · rw [List.nodup_append_comm, List.singleton_append, List.nodup_cons]
            exact ⟨hkey, hnodup⟩
          · intro key
            rw [List.mem_append, List.mem_singleton]
      obtain ⟨hnodup', hmem⟩ := ih hadd.1
      use hnodup'
      intro key
      rw [addAll, List.foldl_cons, ← addAll, hmem, hadd.2, List.map_cons, List.mem_cons, or_assoc]

/-- The comments of a key are those that were added with it. -/
theorem comments_addAll :
  (m.addAll pairs).comments key =
    m.comments key ++ (pairs.filter fun pair => pair.1 = key).map Prod.snd
  := by
  induction pairs generalizing m with
  | nil => simp [addAll]
  | cons pair pairs ih =>
      rw [addAll, List.foldl_cons, ← addAll, ih, comments_add]
      by_cases h : pair.1 = key
      · rw [if_pos h, List.filter_cons_of_pos (by simpa using h), List.map_cons, List.append_assoc,
          List.singleton_append]
      · rw [if_neg h, List.filter_cons_of_neg (by simpa using h)]

end ConfigMap

/-! ### Merged maps -/

section Merging

variable {config4 config6 config4' config6' : List Entry} {key : Text} {merged : Merged}

/-- What an interface adds to the map of the name servers. -/
def Entry.serverPairs (entry : Entry) : List (Text × Text) :=
  entry.2.NameServers.map fun ip => (ip.string, entry.comment)

/-- The search domains of an interface, with its name. -/
def Entry.searchPairs (entry : Entry) : List (Text × Text) :=
  entry.2.SearchList.map fun search => (trimDots search, entry.comment)

/-- The comments that an interface adds to those of a server. -/
def Entry.commentsOf (key : Text) (entry : Entry) : List Text :=
  (entry.serverPairs.filter fun pair => pair.1 = key).map Prod.snd

/-- The servers are added in their order. -/
theorem nameservers_mergeConfig (config : List Entry) :
  (mergeConfig merged config).nameservers =
    merged.nameservers.addAll (config.flatMap Entry.serverPairs)
  := by
  induction config generalizing merged with
  | nil => rfl
  | cons entry config ih =>
      rw [mergeConfig, List.foldl_cons, ← mergeConfig, ih, List.flatMap_cons, ConfigMap.addAll,
        ConfigMap.addAll, List.foldl_append, Entry.serverPairs, List.foldl_map]
      rfl

/-- So are the search domains. -/
theorem searchList_mergeConfig (config : List Entry) :
  (mergeConfig merged config).searchList =
    merged.searchList.addAll (config.flatMap Entry.searchPairs)
  := by
  induction config generalizing merged with
  | nil => rfl
  | cons entry config ih =>
      rw [mergeConfig, List.foldl_cons, ← mergeConfig, ih, List.flatMap_cons, ConfigMap.addAll,
        ConfigMap.addAll, List.foldl_append, Entry.searchPairs, List.foldl_map]
      rfl

/-- The servers of IPv4 come before those of IPv6. -/
theorem nameservers_mergeBoth :
  (mergeBoth config4 config6).nameservers =
    ConfigMap.addAll [] ((config4 ++ config6).flatMap Entry.serverPairs)
  := by
  rw [mergeBoth, nameservers_mergeConfig, nameservers_mergeConfig, List.flatMap_append,
    ConfigMap.addAll, ConfigMap.addAll, ConfigMap.addAll, List.foldl_append]

/-- So do the search domains. -/
theorem searchList_mergeBoth :
  (mergeBoth config4 config6).searchList =
    ConfigMap.addAll [] ((config4 ++ config6).flatMap Entry.searchPairs)
  := by
  rw [mergeBoth, searchList_mergeConfig, searchList_mergeConfig, List.flatMap_append,
    ConfigMap.addAll, ConfigMap.addAll, ConfigMap.addAll, List.foldl_append]

/-- The comments of a server are those of the interfaces in turn. -/
theorem comments_mergeBoth :
  (mergeBoth config4 config6).nameservers.comments key =
    (config4 ++ config6).flatMap (Entry.commentsOf key)
  := by
  rw [nameservers_mergeBoth, ConfigMap.comments_addAll, List.filter_flatMap, List.map_flatMap]
  rfl

/-- Each server is there once. -/
theorem keys_nameservers (config4 config6 : List Entry) :
  (mergeBoth config4 config6).nameservers.keys.Nodup ∧
    ∀ key, key ∈ (mergeBoth config4 config6).nameservers.keys ↔
      ∃ entry ∈ config4 ++ config6, ∃ ip ∈ entry.2.NameServers, ip.string = key
  := by
  rw [nameservers_mergeBoth]
  obtain ⟨hnodup, hmem⟩ := ConfigMap.keys_addAll (m := [])
    ((config4 ++ config6).flatMap Entry.serverPairs) List.nodup_nil
  use hnodup
  intro key
  rw [hmem, List.map_flatMap, List.mem_flatMap]
  simp [ConfigMap.keys, Entry.serverPairs]

/-- So is each search domain. -/
theorem keys_searchList (config4 config6 : List Entry) :
  (mergeBoth config4 config6).searchList.keys.Nodup ∧
    ∀ key, key ∈ (mergeBoth config4 config6).searchList.keys ↔
      ∃ entry ∈ config4 ++ config6, ∃ search ∈ entry.2.SearchList, trimDots search = key
  := by
  rw [searchList_mergeBoth]
  obtain ⟨hnodup, hmem⟩ := ConfigMap.keys_addAll (m := [])
    ((config4 ++ config6).flatMap Entry.searchPairs) List.nodup_nil
  use hnodup
  intro key
  rw [hmem, List.map_flatMap, List.mem_flatMap]
  simp [ConfigMap.keys, Entry.searchPairs]

/-- The search domains do not depend on the order. -/
theorem keys_searchList_perm (h4 : config4.Perm config4') (h6 : config6.Perm config6') :
  (mergeBoth config4 config6).searchList.keys.Perm (mergeBoth config4' config6').searchList.keys
  := by
  obtain ⟨hnodup, hmem⟩ := keys_searchList config4 config6
  obtain ⟨hnodup', hmem'⟩ := keys_searchList config4' config6'
  apply (List.perm_ext_iff_of_nodup hnodup hnodup').mpr
  intro key
  rw [hmem, hmem']
  simp only [(h4.append h6).mem_iff]

/-- The template sorts the keys. -/
theorem pairwise_sortedKeys (m : ConfigMap) :
  (sortedKeys m).Pairwise (· ≤ ·)
  := List.pairwise_insertionSort _ _

/-- The servers come in the same order, whatever the order of the interfaces is. -/
theorem sortedKeys_eq (h4 : config4.Perm config4') (h6 : config6.Perm config6') :
  sortedKeys (mergeBoth config4 config6).nameservers =
    sortedKeys (mergeBoth config4' config6').nameservers
  := by
  obtain ⟨hnodup, hmem⟩ := keys_nameservers config4 config6
  obtain ⟨hnodup', hmem'⟩ := keys_nameservers config4' config6'
  have hperm : (mergeBoth config4 config6).nameservers.keys.Perm
      (mergeBoth config4' config6').nameservers.keys := by
    apply (List.perm_ext_iff_of_nodup hnodup hnodup').mpr
    intro key
    rw [hmem, hmem']
    simp only [(h4.append h6).mem_iff]
  apply List.Perm.eq_of_pairwise' (pairwise_sortedKeys _) (pairwise_sortedKeys _)
  exact (List.perm_insertionSort _ _).trans (hperm.trans (List.perm_insertionSort _ _).symm)

/-- The sorted keys are the servers. -/
theorem mem_sortedKeys :
  key ∈ sortedKeys (mergeBoth config4 config6).nameservers ↔
    ∃ entry ∈ config4 ++ config6, ∃ ip ∈ entry.2.NameServers, ip.string = key
  := by
  rw [sortedKeys, List.mem_insertionSort, (keys_nameservers _ _).2]

/-- Each of them is there once. -/
theorem nodup_sortedKeys :
  (sortedKeys (mergeBoth config4 config6).nameservers).Nodup
  := ((List.perm_insertionSort _ _).nodup_iff).mpr (keys_nameservers _ _).1

end Merging

end JetKvm.Resolv

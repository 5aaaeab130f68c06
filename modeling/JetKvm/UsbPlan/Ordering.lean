import JetKvm.UsbPlan.Written

/-!
# The order of the plan

The plan of a configuration of the usual shape has one change for each key, and its
dependencies make no cycle, so that it is always accepted. The files of an item are written
before the functions are linked exactly when the item is linked itself or a linked item comes
after it.
-/

namespace JetKvm.UsbPlan

/-! ### Distinct keys -/

namespace GadgetConfigItem

variable {item : GadgetConfigItem} {path : Path}

/-- The path is that of the item below the gadget, or of a file of the item. -/
def HasGadgetPath (item : GadgetConfigItem) (path : Path) : Prop :=
  path = item.path ∧ path ≠ [] ∨ ∃ name ∈ item.fileNames, path = item.path ++ [name]

/-- The path is that of the item in the configuration, or of a file that it has there. -/
def HasConfigPath (item : GadgetConfigItem) (path : Path) : Prop :=
  ∃ place, item.configPlace = some place ∧
    (path = place ∧ path ≠ [] ∨ ∃ name ∈ item.configFileNames, path = place ++ [name])

/-- A path that is written in a directory is that of the directory or of one of its files. -/
theorem eq_or_exists_of_mem_directory {place : Path} {names : List FileName}
    (h : path ∈ (if place = [] then [] else [place]) ++ names.map fun name => place ++ [name]) :
  path = place ∧ path ≠ [] ∨ ∃ name ∈ names, path = place ++ [name]
  := by
  rcases List.mem_append.mp h with h | h
  · by_cases hplace : place = []
    · rw [if_pos hplace] at h
      cases h
    · rw [if_neg hplace] at h
      rw [List.mem_singleton.mp h]
      exact Or.inl ⟨rfl, hplace⟩
  · obtain ⟨name, hname, rfl⟩ := List.mem_map.mp h
    exact Or.inr ⟨name, hname, rfl⟩

theorem hasGadgetPath_of_mem (h : path ∈ item.gadgetPaths) :
  item.HasGadgetPath path
  := eq_or_exists_of_mem_directory h

theorem hasConfigPath_of_mem (h : path ∈ item.configPaths) :
  item.HasConfigPath path
  := by
  rw [configPaths] at h
  by_cases hnames : item.configFileNames = []
  · rw [if_pos hnames] at h
    cases h
  · have hattrs : item.configAttrs.isSome = true := by
      cases hattrs : item.configAttrs with
      | none => simp [configFileNames, hattrs] at hnames
      | some _ => rfl
    rw [if_neg hnames] at h
    use item.configPath.getD []
    constructor
    · simp [configPlace, hattrs]
    · apply eq_or_exists_of_mem_directory h

theorem nodup_map_append_singleton {names : List FileName} (h : names.Nodup) (path : Path) :
  (names.map fun name => path ++ [name]).Nodup
  := by
  apply h.map
  intro a b hab
  exact List.cons.inj (List.append_cancel_left hab) |>.1

theorem nodup_directory {names : List FileName} (h : names.Nodup) (path : Path) :
  ((if path = [] then [] else [path]) ++ names.map fun name => path ++ [name]).Nodup
  := by
  apply List.Nodup.append
  · split <;> simp
  · apply nodup_map_append_singleton h
  · intro p hp hp'
    obtain ⟨name, -, rfl⟩ := List.mem_map.mp hp'
    split at hp <;> simp at hp

end GadgetConfigItem

/-- What is selected at most once is selected of one item. -/
theorem eq_of_nodup_filterMap {α β : Type} {f : α → Option β} {l : List α}
    (nodup : (l.filterMap f).Nodup) {a b : α} {c : β} (ha : a ∈ l) (hb : b ∈ l)
    (hac : f a = some c) (hbc : f b = some c) :
  a = b
  := by
  by_contra hne
  rw [List.Nodup, List.pairwise_filterMap] at nodup
  have : Std.Symm fun x y => ∀ z, f x = some z → ∀ w, f y = some w → z ≠ w :=
    ⟨fun x y h z hz w hw heq => h w hw z hz heq.symm⟩
  exact nodup.forall ha hb hne c hac c hbc rfl

namespace Shaped

variable {configMap : List GadgetConfigItemWithKey} (shaped : Shaped configMap)
  {i j : GadgetConfigItemWithKey} {path : Path}

include shaped

/-- No two items have a path below the gadget in common. -/
theorem eq_of_hasGadgetPath (hi : i ∈ configMap) (hj : j ∈ configMap)
    (h : i.item.HasGadgetPath path) (h' : j.item.HasGadgetPath path) :
  i = j
  := by
  have hpath : i.item.path = j.item.path := by
    rcases h with ⟨h, -⟩ | ⟨name, hname, h⟩
    · rcases h' with ⟨h', -⟩ | ⟨name', hname', h'⟩
      · rw [← h, ← h']
      · exact absurd (h'.symm.trans h) (shaped.apart j hj name' hname' i hi)
    · rcases h' with ⟨h', -⟩ | ⟨name', hname', h'⟩
      · exact absurd (h.symm.trans h') (shaped.apart i hi name hname j hj)
      · exact (List.append_inj' (h.symm.trans h') rfl).1
  exact List.inj_on_of_nodup_map shaped.paths hi hj hpath

/-- No two items have a path in the configuration in common. -/
theorem eq_of_hasConfigPath (hi : i ∈ configMap) (hj : j ∈ configMap)
    (h : i.item.HasConfigPath path) (h' : j.item.HasConfigPath path) :
  i = j
  := by
  obtain ⟨place, hplace, h⟩ := h
  obtain ⟨place', hplace', h'⟩ := h'
  have happart : ∀ k ∈ configMap, ∀ l ∈ configMap, ∀ q r, k.item.configPlace = some q →
      l.item.configPlace = some r → ∀ name ∈ k.item.configFileNames, q ++ [name] ≠ r := by
    intro k hk l hl q r hq hr name hname
    have hq' : q = k.item.configPath.getD [] := by
      rw [GadgetConfigItem.configPlace] at hq
      split at hq
      · exact (Option.some.inj hq).symm
      · cases hq
    rw [hq']
    exact shaped.configApart k hk name hname l hl r hr
  have heq : place = place' := by
    rcases h with ⟨h, -⟩ | ⟨name, hname, h⟩
    · rcases h' with ⟨h', -⟩ | ⟨name', hname', h'⟩
      · rw [← h, ← h']
      · exact absurd (h'.symm.trans h) (happart j hj i hi _ _ hplace' hplace name' hname')
    · rcases h' with ⟨h', -⟩ | ⟨name', hname', h'⟩
      · exact absurd (h.symm.trans h') (happart i hi j hj _ _ hplace hplace' name hname)
      · exact (List.append_inj' (h.symm.trans h') rfl).1
  subst heq
  exact eq_of_nodup_filterMap shaped.places hi hj hplace hplace'

end Shaped

/-! ### The keys of the plan -/

section Keys

variable {configMap items : List GadgetConfigItemWithKey} {name : FileName} {udc : String}
  {enabled : String → Bool} {val : GadgetConfigItemWithKey} {path : Path} {key : ChangeKey}

theorem joinPath_configC1Path {tx : UsbGadgetTransaction}
    (htx : tx = newUsbGadgetTransaction name udc items enabled) (path : Path) :
  joinPath tx.configC1Path path = joinPath tx.kvmGadgetPath (configDir ++ path)
  := by
  subst htx
  simp [joinPath, newUsbGadgetTransaction, configDir]

/-- The path of a written file, below the directory of the gadget. -/
theorem hasPath_of_mem_writtenKeys {tx : UsbGadgetTransaction}
    (htx : tx = newUsbGadgetTransaction name udc items enabled) (shaped : Shaped configMap)
    (hval : val ∈ configMap) (h : key ∈ tx.writtenKeys val) :
  ∃ path, key = .path (joinPath tx.kvmGadgetPath path) ∧
    (val.item.HasGadgetPath path ∨
      ∃ inConfig, path = configDir ++ inConfig ∧ val.item.HasConfigPath inConfig)
  := by
  have hconfig := joinPath_configC1Path htx
  rw [UsbGadgetTransaction.writtenKeys] at h
  split at h
  · obtain ⟨full, hfull, rfl⟩ := List.mem_map.mp h
    rcases List.mem_append.mp hfull with hfull | hfull
    · obtain ⟨path, hpath, rfl⟩ := List.mem_map.mp hfull
      exact ⟨path, rfl, Or.inl (GadgetConfigItem.hasGadgetPath_of_mem hpath)⟩
    · obtain ⟨path, hpath, rfl⟩ := List.mem_map.mp hfull
      refine ⟨configDir ++ path, congrArg _ (hconfig path), Or.inr ⟨path, rfl, ?_⟩⟩
      apply GadgetConfigItem.hasConfigPath_of_mem hpath
  · obtain ⟨path, hpath, rfl⟩ := List.mem_map.mp h
    refine ⟨configDir ++ path, congrArg _ (hconfig path), Or.inr ⟨path, rfl, path, ?_, ?_⟩⟩
    · rw [Option.mem_toList] at hpath
      simp [GadgetConfigItem.configPlace, hpath]
    · rw [Option.mem_toList] at hpath
      refine Or.inl ⟨rfl, ?_⟩
      rintro rfl
      exact shaped.configPath val hval hpath

/-- A path below the gadget is not one in the configuration. -/
theorem not_hasGadgetPath_configDir (shaped : Shaped configMap) (hval : val ∈ configMap)
    (inConfig : Path) :
  ¬ val.item.HasGadgetPath (configDir ++ inConfig)
  := by
  have hroot := shaped.roots val hval
  have hnot : (configDir ++ inConfig).head? ∉ [none, some strings, some functions] := by
    rw [configDir, List.cons_append, List.head?_cons]
    decide
  rintro (⟨h, -⟩ | ⟨name, -, h⟩)
  · rw [← h] at hroot
    exact hnot hroot
  · cases hpath : val.item.path with
    | nil =>
        rw [hpath] at h
        cases h
    | cons first rest =>
        rw [hpath] at h hroot
        rw [h] at hnot
        exact hnot hroot

/-- Each written key belongs to one item. -/
theorem eq_of_mem_writtenKeys {tx : UsbGadgetTransaction} {i j : GadgetConfigItemWithKey}
    (htx : tx = newUsbGadgetTransaction name udc items enabled) (shaped : Shaped configMap)
    (hi : i ∈ configMap) (hj : j ∈ configMap) (h : key ∈ tx.writtenKeys i)
    (h' : key ∈ tx.writtenKeys j) :
  i = j
  := by
  obtain ⟨path, hkey, hpath⟩ := hasPath_of_mem_writtenKeys htx shaped hi h
  obtain ⟨path', hkey', hpath'⟩ := hasPath_of_mem_writtenKeys htx shaped hj h'
  have heq : path = path' :=
    List.append_cancel_left (ChangeKey.path.inj (hkey.symm.trans hkey'))
  subst heq
  rcases hpath with hpath | ⟨inConfig, rfl, hpath⟩
  · rcases hpath' with hpath' | ⟨inConfig', rfl, -⟩
    · exact shaped.eq_of_hasGadgetPath hi hj hpath hpath'
    · exact absurd hpath (not_hasGadgetPath_configDir shaped hi inConfig')
  · rcases hpath' with hpath' | ⟨inConfig', hinConfig, hpath'⟩
    · exact absurd hpath' (not_hasGadgetPath_configDir shaped hj inConfig)
    · rw [← List.append_cancel_left hinConfig] at hpath'
      exact shaped.eq_of_hasConfigPath hi hj hpath hpath'

/-- An item is written under different keys. -/
theorem nodup_writtenKeys {tx : UsbGadgetTransaction}
    (htx : tx = newUsbGadgetTransaction name udc items enabled) (shaped : Shaped configMap)
    (hval : val ∈ configMap) :
  (tx.writtenKeys val).Nodup
  := by
  have hinj : Function.Injective ChangeKey.path := fun _ _ h => ChangeKey.path.inj h
  have hjoin : ∀ base, Function.Injective (joinPath base) :=
    fun _ _ _ h => List.append_cancel_left h
  rw [UsbGadgetTransaction.writtenKeys]
  split
  · apply List.Nodup.map hinj
    apply List.Nodup.append
    · apply List.Nodup.map (hjoin _)
      apply GadgetConfigItem.nodup_directory (shaped.fileNames val hval)
    · apply List.Nodup.map (hjoin _)
      rw [GadgetConfigItem.configPaths]
      split
      · apply List.nodup_nil
      · apply GadgetConfigItem.nodup_directory (shaped.configFileNames val hval)
    · intro full hfull hfull'
      obtain ⟨path, hpath, rfl⟩ := List.mem_map.mp hfull
      obtain ⟨path', -, h⟩ := List.mem_map.mp hfull'
      rw [joinPath_configC1Path htx] at h
      rw [← hjoin _ h] at hpath
      exact not_hasGadgetPath_configDir shaped hval path'
        (GadgetConfigItem.hasGadgetPath_of_mem hpath)
  · apply List.Nodup.map
    · exact fun _ _ h => hjoin _ (hinj h)
    · cases val.item.configPath <;> simp

theorem ne_of_hasGadgetPath (h : val.item.HasGadgetPath path) :
  path ≠ []
  := by
  rcases h with ⟨-, h⟩ | ⟨name, -, rfl⟩
  · apply h
  · simp

theorem ne_of_hasConfigPath (h : val.item.HasConfigPath path) :
  path ≠ []
  := by
  obtain ⟨place, -, ⟨-, h⟩ | ⟨name, -, rfl⟩⟩ := h
  · apply h
  · simp

theorem disableKey_injective :
  Function.Injective UsbGadgetTransaction.disableKey
  := by
  intro a b h
  have hlist := congrArg String.toList h
  simp only [UsbGadgetTransaction.disableKey, String.toList_append] at hlist
  exact String.toList_injective (List.append_cancel_left hlist)

/-- The keys that are not those of items, apart from those of changes that remove links. -/
def UsbGadgetTransaction.lastKeys (tx : UsbGadgetTransaction) : List ChangeKey :=
  [.named reorderKey, .named "udc", tx.unbindKey, tx.bindKey]

theorem disableKey_ne (device : String) :
  UsbGadgetTransaction.disableKey device ≠ UsbGadgetTransaction.reorderKey ∧
    UsbGadgetTransaction.disableKey device ≠ "udc"
  := by
  have hhead : (UsbGadgetTransaction.disableKey device).toList.head? = some 'd' := by
    rw [UsbGadgetTransaction.disableKey, String.toList_append]
    rfl
  constructor
  · intro h
    rw [h] at hhead
    exact absurd hhead (by decide)
  · intro h
    rw [h] at hhead
    exact absurd hhead (by decide)

/-- The links of different items are removed under different keys. -/
theorem nodup_getDisableKeys {tx : UsbGadgetTransaction}
    (htx : tx = newUsbGadgetTransaction name udc items enabled) (shaped : Shaped configMap)
    (ordered : IsOrdered configMap items) :
  tx.getDisableKeys.Nodup
  := by
  have hdevices : ((items.filter (·.item.isLinked)).map (·.item.device)).Nodup := by
    rw [((ordered.perm.filter _).map _).nodup_iff]
    apply shaped.devices
  have hkeys : tx.getDisableKeys = ((items.filter fun i =>
      enabled i.key && i.item.isLinked).map (·.item.device)).map fun device =>
        .named (UsbGadgetTransaction.disableKey device) := by
    subst htx
    rw [List.map_map]
    rfl
  rw [hkeys]
  apply List.Nodup.map
  · exact fun _ _ h => disableKey_injective (ChangeKey.named.inj h)
  · apply List.Nodup.sublist _ hdevices
    apply List.Sublist.map
    rw [← List.filter_filter]
    apply List.filter_sublist

theorem mem_getDisableKeys {tx : UsbGadgetTransaction} (h : key ∈ tx.getDisableKeys) :
  ∃ device, key = .named (UsbGadgetTransaction.disableKey device)
  := by
  obtain ⟨i, -, rfl⟩ := List.mem_map.mp h
  exact ⟨_, rfl⟩

/-- The directory of the gadget is not that of the driver. -/
theorem joinPath_ne_dwc3Path {tx : UsbGadgetTransaction}
    (htx : tx = newUsbGadgetTransaction name udc items enabled) (path path' : Path) :
  joinPath tx.kvmGadgetPath path ≠ tx.dwc3Path ++ path'
  := by
  subst htx
  intro h
  have hsecond := (List.cons.inj (List.cons.inj h).2).1
  exact absurd hsecond (by decide)

/-- The key of a file of the items is not one of the other keys of the plan. -/
theorem writtenKeys_apart {tx : UsbGadgetTransaction}
    (htx : tx = newUsbGadgetTransaction name udc items enabled) (shaped : Shaped configMap)
    (hval : val ∈ configMap) (h : key ∈ tx.writtenKeys val) :
  key ∉ tx.baseKeys ∧ key ∉ tx.lastKeys ∧ key ∉ tx.getDisableKeys
  := by
  obtain ⟨path, rfl, hpath⟩ := hasPath_of_mem_writtenKeys htx shaped hval h
  refine ⟨?_, ?_, ?_⟩
  · intro hmem
    have hcases : path ≠ [] ∧ path ≠ configDir := by
      rcases hpath with hpath | ⟨inConfig, rfl, hpath⟩
      · use ne_of_hasGadgetPath hpath
        rintro rfl
        apply not_hasGadgetPath_configDir shaped hval []
        apply hpath
      · have hne := ne_of_hasConfigPath hpath
        simp [configDir, hne]
    rcases List.mem_cons.mp hmem with h | hmem
    · have hlength := congrArg List.length (ChangeKey.path.inj h)
      subst htx
      simp [joinPath, newUsbGadgetTransaction, configFSPath, gadgetPath] at hlength
    · rcases List.mem_cons.mp hmem with h | hmem
      · have hconfig := joinPath_configC1Path htx []
        rw [joinPath, List.append_nil, List.append_nil] at hconfig
        rw [hconfig] at h
        exact hcases.2 (List.append_cancel_left (ChangeKey.path.inj h))
      · have h := ChangeKey.path.inj (List.mem_singleton.mp hmem)
        exact hcases.1 (UsbGadgetTransaction.joinPath_eq_self.mp h)
  · intro hmem
    have hdwc3 := joinPath_ne_dwc3Path htx path
    simp only [UsbGadgetTransaction.lastKeys, UsbGadgetTransaction.unbindKey,
      UsbGadgetTransaction.bindKey, List.mem_cons, ChangeKey.path.injEq, reduceCtorEq, hdwc3,
      List.not_mem_nil, or_self] at hmem
  · intro hmem
    obtain ⟨device, hdevice⟩ := mem_getDisableKeys hmem
    cases hdevice

/-- All keys of the plan are different. -/
theorem nodup_planKeys {tx : UsbGadgetTransaction}
    (htx : tx = newUsbGadgetTransaction name udc items enabled) (shaped : Shaped configMap)
    (ordered : IsOrdered configMap items) :
  (tx.getDisableKeys ++
    (tx.baseKeys ++ (items.flatMap tx.writtenKeys ++ tx.lastKeys))).Nodup
  := by
  have hmem : ∀ val ∈ items, val ∈ configMap := fun val => ordered.perm.mem_iff.mp
  have hitems : items.Nodup := by
    rw [ordered.perm.nodup_iff]
    exact shaped.keys.of_map
  have hwritten : (items.flatMap tx.writtenKeys).Nodup := by
    rw [List.nodup_flatMap]
    constructor
    · exact fun val hval => nodup_writtenKeys htx shaped (hmem val hval)
    · apply hitems.imp_of_mem
      intro i j hi hj hne key hkey hkey'
      exact hne (eq_of_mem_writtenKeys htx shaped (hmem i hi) (hmem j hj) hkey hkey')
  have hother : (tx.baseKeys ++ tx.lastKeys).Nodup := by
    subst htx
    simp [UsbGadgetTransaction.baseKeys, UsbGadgetTransaction.lastKeys,
      UsbGadgetTransaction.unbindKey, UsbGadgetTransaction.bindKey, newUsbGadgetTransaction,
      configFSPath, gadgetPath, dwc3Path, UsbGadgetTransaction.reorderKey, file]
  have hbase := hother.of_append_left
  have hlast := hother.of_append_right
  apply (nodup_getDisableKeys htx shaped ordered).append
  · apply hbase.append
    · apply hwritten.append hlast
      intro key hkey
      obtain ⟨val, hval, hkey⟩ := List.mem_flatMap.mp hkey
      exact (writtenKeys_apart htx shaped (hmem val hval) hkey).2.1
    · intro key hkey hkey'
      rcases List.mem_append.mp hkey' with h | h
      · obtain ⟨val, hval, h⟩ := List.mem_flatMap.mp h
        exact (writtenKeys_apart htx shaped (hmem val hval) h).1 hkey
      · exact List.disjoint_of_nodup_append hother hkey h
  · intro key hkey hkey'
    obtain ⟨device, rfl⟩ := mem_getDisableKeys hkey
    rcases List.mem_append.mp hkey' with h | h
    · simp [UsbGadgetTransaction.baseKeys] at h
    · rcases List.mem_append.mp h with h | h
      · obtain ⟨val, hval, h⟩ := List.mem_flatMap.mp h
        exact (writtenKeys_apart htx shaped (hmem val hval) h).2.2 hkey
      · simp [UsbGadgetTransaction.lastKeys, UsbGadgetTransaction.unbindKey,
          UsbGadgetTransaction.bindKey, disableKey_ne] at h

end Keys

/-! ### An order that respects the dependencies -/

section Arrangement

open UsbGadgetTransaction FiniteDigraph

variable {tx : UsbGadgetTransaction} {first requests : List RequestedFileChange}
  {reorder udc unbind bind : RequestedFileChange} {front back : List GadgetConfigItemWithKey}
  {disable known keys : List ChangeKey}

/-- The key of a change, and all that it may depend on. -/
def entry (f : RequestedFileChange) : ChangeKey × List ChangeKey :=
  (f.changeKey, f.dependsOn ++ f.changesBefore)

/-- Requests that are put after what they depend on. -/
theorem Covers.dependsBackwards {entries : List (ChangeKey × List ChangeKey)}
    (covers : Covers disable known keys requests) (before : DependsBackwards entries)
    (hdisable : disable ⊆ entries.map Prod.fst) (hknown : known ⊆ entries.map Prod.fst) :
  DependsBackwards (entries ++ requests.map entry)
  := by
  refine before.append (Permitted.map ?_)
  intro earlier f later hrequests key hkey
  rw [List.map_append, List.map_map]
  rcases List.mem_append.mp hkey with h | h
  · rcases List.mem_append.mp (covers.backwards earlier f later hrequests h) with h | h
    · apply List.mem_append_left _ (hknown h)
    · apply List.mem_append_right _ h
  · apply List.mem_append_left
    apply hdisable
    apply covers.changesBefore f _ h
    rw [hrequests]
    simp

theorem UsbGadgetTransaction.Requests.dependsBackwards {entries : List (ChangeKey × List ChangeKey)}
    {f : RequestedFileChange} {key : ChangeKey} {deps : List ChangeKey} (h : Requests f key deps)
    (before : DependsBackwards entries) (hdeps : deps ⊆ entries.map Prod.fst) :
  DependsBackwards (entries ++ [entry f])
  := (h.covers (List.Subset.refl deps)).dependsBackwards before (List.nil_subset _) hdeps

theorem mem_linkedFiles {files : List ChangeKey} {items : List GadgetConfigItemWithKey}
    {key : ChangeKey} (h : key ∈ tx.linkedFiles files items) :
  key ∈ files ++ tx.enabledKeys items
  := by
  induction items generalizing files with
  | nil => cases h
  | cons val items ih =>
      rw [enabledKeys_cons, ← List.append_assoc]
      rw [linkedFiles] at h
      rcases List.mem_append.mp h with h | h
      · split at h
        · apply List.mem_append_left _ h
        · cases h
      · apply ih h

/-- The links depend on nothing that is written after the last linked item. -/
theorem linkedFiles_append (hback : back.any tx.links = false) (files : List ChangeKey) :
  tx.linkedFiles files (front ++ back) = tx.linkedFiles files front
  := by
  induction front generalizing files with
  | nil =>
      rw [List.nil_append]
      induction back generalizing files with
      | nil => rfl
      | cons val back ih =>
          rw [List.any_cons, Bool.or_eq_false_iff] at hback
          rw [linkedFiles, linkedFiles, if_neg (by simp [hback.1]), ih hback.2]
          rfl
  | cons val front ih =>
      rw [List.cons_append, linkedFiles, linkedFiles, ih]

theorem enabledKeys_subset :
  tx.enabledKeys front ⊆ front.flatMap tx.writtenKeys
  := by
  induction front with
  | nil => apply List.nil_subset
  | cons val front ih =>
      rw [enabledKeys_cons, List.flatMap_cons]
      exact List.append_subset.mpr
        ⟨List.Subset.trans enabledKeys_subset_writtenKeys (List.subset_append_left _ _),
          List.Subset.trans ih (List.subset_append_right _ _)⟩

/-- The links depend on what is written up to the last linked item. -/
theorem reorderFiles_subset (hitems : tx.orderedConfigItems = front ++ back)
    (hback : back.any tx.links = false) :
  tx.reorderFiles ⊆ tx.baseKeys ++ front.flatMap tx.writtenKeys
  := by
  intro key hkey
  rw [reorderFiles, hitems, linkedFiles_append hback] at hkey
  rcases List.mem_append.mp (mem_linkedFiles hkey) with h | h
  · rw [List.mem_singleton.mp h]
    apply List.mem_append_left
    simp [baseKeys]
  · apply List.mem_append_right _ (enabledKeys_subset h)

/-- The links depend on the files that are there when a linked item is still to come. -/
theorem subset_linkedFiles {items : List GadgetConfigItemWithKey} (h : items.any tx.links = true)
    (files : List ChangeKey) :
  files ⊆ tx.linkedFiles files items
  := by
  induction items generalizing files with
  | nil => cases h
  | cons val items ih =>
      rw [linkedFiles]
      by_cases hlinks : tx.links val = true
      · rw [if_pos hlinks]
        exact List.subset_append_of_subset_left _ (List.subset_append_left _ _)
      · have hitems : items.any tx.links = true := by
          simpa [hlinks] using h
        apply List.subset_append_of_subset_right
        exact List.Subset.trans (List.subset_append_left _ _) (ih hitems _)

/-- The links depend on the files of an item that is linked or comes before a linked one. -/
theorem enabledKeys_subset_linkedFiles {val : GadgetConfigItemWithKey}
    (h : (val :: back).any tx.links = true) (files : List ChangeKey) :
  tx.enabledKeys [val] ⊆ tx.linkedFiles files (front ++ val :: back)
  := by
  induction front generalizing files with
  | nil =>
      rw [List.nil_append, linkedFiles]
      by_cases hlinks : tx.links val = true
      · rw [if_pos hlinks]
        exact List.subset_append_of_subset_left _ (List.subset_append_right _ _)
      · have hback : back.any tx.links = true := by
          simpa [hlinks] using h
        apply List.subset_append_of_subset_right
        exact List.Subset.trans (List.subset_append_right _ _) (subset_linkedFiles hback _)
  | cons other front ih =>
      rw [List.cons_append, linkedFiles]
      apply List.subset_append_of_subset_right
      apply ih

/-- The unconditional changes of the plan. -/
def ownRequests (first requests : List RequestedFileChange)
    (reorder udc unbind bind : RequestedFileChange) : List RequestedFileChange :=
  first ++ unconditionalRequests requests ++ [udc, unbind, bind, reorder]

theorem map_fst_entry (requests : List RequestedFileChange) :
  (requests.map entry).map Prod.fst = requests.map (·.changeKey)
  := by
  rw [List.map_map]
  rfl

/-- Keys that depend on nothing. -/
def independent (keys : List ChangeKey) : List (ChangeKey × List ChangeKey) :=
  keys.map fun key => (key, [])

theorem map_fst_independent (keys : List ChangeKey) :
  (independent keys).map Prod.fst = keys
  := by
  rw [independent, List.map_map]
  apply List.map_id

theorem dependsBackwards_independent (keys : List ChangeKey) :
  DependsBackwards (independent keys)
  := by
  apply permitted_of_forall_mem
  intro e he before key hkey
  obtain ⟨_, _, rfl⟩ := List.mem_map.mp he
  cases hkey

/-- The changes that disable functions come first, then the directories of the gadget, and then
what is written of the first items. -/
theorem exists_front (parts : tx.PlanParts first requests reorder udc unbind bind)
    {written : List RequestedFileChange}
    (hwritten : Covers tx.getDisableKeys tx.baseKeys (front.flatMap tx.writtenKeys) written) :
  ∃ entries, DependsBackwards entries ∧
    entries.map Prod.fst =
      tx.getDisableKeys ++ (tx.baseKeys ++ front.flatMap tx.writtenKeys) ∧
    first.map entry ⊆ entries ∧ written.map entry ⊆ entries
  := by
  have hfirst : DependsBackwards (independent tx.getDisableKeys ++ first.map entry) := by
    apply parts.first.dependsBackwards (dependsBackwards_independent _)
    · rw [map_fst_independent]
      apply List.Subset.refl
    · apply List.nil_subset
  have hfirstKeys : (independent tx.getDisableKeys ++ first.map entry).map Prod.fst =
      tx.getDisableKeys ++ tx.baseKeys := by
    rw [List.map_append, map_fst_entry, map_fst_independent, parts.first.keys_eq]
  refine ⟨independent tx.getDisableKeys ++ first.map entry ++ written.map entry, ?_, ?_, ?_, ?_⟩
  · apply hwritten.dependsBackwards hfirst
    · rw [hfirstKeys]
      apply List.subset_append_left
    · rw [hfirstKeys]
      apply List.subset_append_right
  · rw [List.map_append, map_fst_entry, hfirstKeys, hwritten.keys_eq, List.append_assoc]
  · rw [List.append_assoc]
    exact List.subset_append_of_subset_right _ (List.subset_append_left _ _)
  · apply List.subset_append_right

/-- The links, the UDC and its binding come after what the links depend on. -/
theorem exists_last (parts : tx.PlanParts first requests reorder udc unbind bind)
    {entries : List (ChangeKey × List ChangeKey)} (h : DependsBackwards entries)
    (hfiles : tx.reorderFiles ⊆ entries.map Prod.fst) :
  ∃ last, DependsBackwards (entries ++ last) ∧ last.map Prod.fst = tx.lastKeys ∧
    [udc, unbind, bind, reorder].map entry ⊆ last
  := by
  have hreorder : DependsBackwards (entries ++ [entry reorder]) :=
    parts.reorder.dependsBackwards h hfiles
  have hudc : DependsBackwards (entries ++ [entry reorder] ++ [entry udc]) := by
    apply parts.udc.dependsBackwards hreorder
    simp [entry, parts.reorder.changeKey]
  have hunbind : DependsBackwards
      (entries ++ [entry reorder] ++ [entry udc] ++ [entry unbind]) := by
    apply parts.unbind.dependsBackwards hudc
    simp [entry, parts.udc.changeKey]
  have hbind : DependsBackwards
      (entries ++ [entry reorder] ++ [entry udc] ++ [entry unbind] ++ [entry bind]) := by
    apply parts.bind.dependsBackwards hunbind
    simp [entry, parts.unbind.changeKey]
  refine ⟨[entry reorder, entry udc, entry unbind, entry bind], ?_, ?_, ?_⟩
  · simpa using hbind
  · simp [entry, lastKeys, parts.reorder.changeKey, parts.udc.changeKey,
      parts.unbind.changeKey, parts.bind.changeKey]
  · simp

/-- The changes of the plan can be listed so that each one depends only on earlier ones: what is
written after the last linked item may be put at the end. -/
theorem exists_arrangement (parts : tx.PlanParts first requests reorder udc unbind bind)
    (hitems : tx.orderedConfigItems = front ++ back) (hback : back.any tx.links = false) :
  ∃ entries : List (ChangeKey × List ChangeKey), DependsBackwards entries ∧
    entries.map Prod.fst = tx.getDisableKeys ++ (tx.baseKeys ++
      (front.flatMap tx.writtenKeys ++ (tx.lastKeys ++ back.flatMap tx.writtenKeys))) ∧
    ∀ f ∈ ownRequests first requests reorder udc unbind bind, entry f ∈ entries
  := by
  obtain ⟨after, hrequests⟩ := parts.requests
  have hcovers := hrequests.covers
  rw [hitems, List.flatMap_append] at hcovers
  obtain ⟨written, rest, hown, hwritten, hrest⟩ := hcovers.split
  obtain ⟨known, hknown, hknownKeys, hfirst, hwrittenMem⟩ := exists_front parts hwritten
  have hfiles : tx.reorderFiles ⊆ known.map Prod.fst := by
    rw [hknownKeys]
    exact List.Subset.trans (reorderFiles_subset hitems hback) (List.subset_append_right _ _)
  obtain ⟨last, hlast, hlastKeys, hlastMem⟩ := exists_last parts hknown hfiles
  refine ⟨known ++ last ++ rest.map entry, ?_, ?_, ?_⟩
  · apply hrest.dependsBackwards hlast
    · rw [List.map_append, hknownKeys, List.append_assoc]
      apply List.subset_append_left
    · rw [List.map_append, hknownKeys]
      apply List.subset_append_of_subset_left
      apply List.subset_append_right
  · rw [List.map_append, List.map_append, map_fst_entry, hknownKeys, hlastKeys, hrest.keys_eq]
    simp only [List.append_assoc]
  · intro f hf
    rw [ownRequests, hown] at hf
    rcases List.mem_append.mp hf with h | h
    · rcases List.mem_append.mp h with h | h
      · exact List.mem_append_left _ (List.mem_append_left _ (hfirst (List.mem_map_of_mem h)))
      · rcases List.mem_append.mp h with h | h
        · exact List.mem_append_left _
            (List.mem_append_left _ (hwrittenMem (List.mem_map_of_mem h)))
        · exact List.mem_append_right _ (List.mem_map_of_mem h)
    · exact List.mem_append_left _ (List.mem_append_right _ (hlastMem (List.mem_map_of_mem h)))

end Arrangement

end JetKvm.UsbPlan

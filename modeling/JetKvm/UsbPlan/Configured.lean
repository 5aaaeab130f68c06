import JetKvm.UsbPlan.Attributes
import JetKvm.UsbPlan.Contents
import JetKvm.UsbPlan.Settled

/-!
# The configured gadget

When the plan has been applied, the links in the configuration are those of the linked items, and
the attributes of the enabled items have their contents. The links are already so when the gadget
is bound, and so are the attributes of an item that is linked or comes before a linked one.
-/

namespace JetKvm.UsbPlan

open UsbGadgetTransaction

/-- The shape of a configuration in which every linked item has one name in the configuration, and
in which no attribute of the gadget has the name of the file that binds it. -/
structure ShapedGadget (configMap : List GadgetConfigItemWithKey) : Prop extends
    Shaped configMap where
  single : ∀ val ∈ configMap, val.item.isLinked = true → ∃ name, val.item.configPath = some [name]
  controller : ∀ val ∈ configMap, val.item.path = [] → file "UDC" ∉ val.item.attrs.map Prod.fst

theorem shapedGadget_defaultGadgetConfig : ShapedGadget defaultGadgetConfig
  := by
  use shaped_defaultGadgetConfig
  · exact exists_configPath_of_function fun val hval => List.mem_map_of_mem hval
  · decide +kernel

/-- The attributes of the item are configured. -/
def UsbGadgetTransaction.AttributesConfigured (tx : UsbGadgetTransaction) (k : Kernel)
    (changes : List FileChange) (start files : Files) (val : GadgetConfigItemWithKey) : Prop :=
  ∀ path text, (path, text) ∈ tx.itemAttributes val.item →
    Configured k changes start files path (bytes text)

/-! ### The order of the changes -/

/-- The unconditional requests of the plan are resolved, each after what it depends on. -/
structure InOrder (plan : ChangeSet) (resolved : List FileChange) : Prop where
  nodup : (resolved.map (·.changeKey)).Nodup
  complete : ∀ f ∈ plan, f.condition = "" → ∃ change ∈ resolved, change.toRequestedFileChange = f
  before : ∀ f ∈ plan, f.condition = "" → ∀ dep ∈ f.dependsOn, dep ∈ resolved.map (·.changeKey) →
    Before (resolved.map (·.changeKey)) dep f.changeKey

variable {configMap items : List GadgetConfigItemWithKey} {name : FileName} {udcName : String}
  {enabled : String → Bool} {tx : UsbGadgetTransaction} {first requests : List RequestedFileChange}
  {plan : ChangeSet} {reorder udc unbind bind : RequestedFileChange} {dag : Bool → Dag ChangeKey}
  {k : Kernel} {files files' : Files} {fs : FileSystem} {resolved : List FileChange}
  {val : GadgetConfigItemWithKey} {path : Path} {text : String}

theorem mem_unconditionalRequests {f : RequestedFileChange} :
  f ∈ unconditionalRequests plan ↔ f ∈ plan ∧ f.condition = ""
  := by
  simp [unconditionalRequests, RequestedFileChange.IsConditional]

theorem InOrder.mem_keys (inOrder : InOrder plan resolved) {f : RequestedFileChange}
    (hf : f ∈ plan) (hcondition : f.condition = "") :
  f.changeKey ∈ resolved.map (·.changeKey)
  := by
  obtain ⟨change, hchange, rfl⟩ := inOrder.complete f hf hcondition
  exact List.mem_map_of_mem hchange

/-- The plan is resolved in order. -/
theorem inOrder_getChanges (htx : tx = newUsbGadgetTransaction name udcName items enabled)
    (shaped : Shaped configMap) (ordered : IsOrdered configMap items)
    (parts : tx.PlanParts first requests reorder udc unbind bind)
    (hsub : plan.Sublist (first ++ requests ++ [udc, unbind, bind, reorder]))
    (hconditional : conditionalRequests plan =
      conditionalRequests (first ++ requests ++ [udc, unbind, bind, reorder]))
    (lawful : ∀ initial, (dag initial).Lawful) (hok : getChanges dag fs plan = .ok resolved) :
  InOrder plan resolved
  := by
  have hacceptable := (acceptable_plan htx shaped ordered parts).of_sublist hsub hconditional
  have hdisjoint := disjoint_conditionalRequests htx shaped ordered parts hsub hconditional
  obtain ⟨initial, g, resolved', hok', hresolution, -, -⟩ :=
    hacceptable.getChanges_judged hdisjoint fs lawful
  rw [hok] at hok'
  obtain rfl := Except.ok.inj hok'
  have hacyclic := hacceptable.acyclic g hresolution.within
  have hmem : ∀ f ∈ plan, f.condition = "" → f.changeKey ∈ resolved.map (·.changeKey) := by
    intro f hf hcondition
    apply hresolution.mem_keys (lawful initial) hacyclic
    exact mem_unconditionalRequests.mpr ⟨hf, hcondition⟩
  constructor
  · exact hresolution.nodup (lawful initial) hacyclic
  · intro f hf hcondition
    have hown := mem_unconditionalRequests.mpr ⟨hf, hcondition⟩
    obtain ⟨change, hchange, hkey⟩ := List.mem_map.mp (hmem f hf hcondition)
    use change, hchange
    obtain h | h := List.mem_append.mp (hresolution.requests change hchange)
    · exact List.inj_on_of_nodup_map hacceptable.nodup_own h hown hkey
    · have hkeys := List.mem_map_of_mem (f := (·.changeKey)) h
      rw [hkey] at hkeys
      exact absurd hkeys (hdisjoint f hown)
  · intro f hf hcondition dep hdep hdepMem
    apply hresolution.before (lawful initial) hacyclic _ hdepMem (hmem f hf hcondition)
    exact hresolution.edges f (mem_unconditionalRequests.mpr ⟨hf, hcondition⟩) dep hdep

/-! ### The paths of attributes -/

section Paths

/-- Attributes are in the directory of the item, or in its directory in the configuration. -/
theorem mem_itemAttributes {item : GadgetConfigItem} (h : (path, text) ∈ tx.itemAttributes item) :
  (∃ name ∈ item.attrs.map Prod.fst, path = joinPath tx.kvmGadgetPath item.path ++ [name]) ∨
    ∃ name ∈ item.configFileNames,
      path = joinPath tx.configC1Path (item.configPath.getD []) ++ [name]
  := by
  obtain h | h := List.mem_append.mp h
  · obtain ⟨attr, hattr, h⟩ := List.mem_map.mp h
    left
    exact ⟨attr.1, List.mem_map_of_mem hattr, (Prod.mk.inj h).1.symm⟩
  · obtain ⟨attr, hattr, h⟩ := List.mem_map.mp h
    right
    exact ⟨attr.1, List.mem_map_of_mem hattr, (Prod.mk.inj h).1.symm⟩

/-- The attributes of an item are among its files. -/
theorem mem_itemKeys_of_itemAttributes {item : GadgetConfigItem}
    (h : (path, text) ∈ tx.itemAttributes item) :
  .path path ∈ tx.itemKeys item
  := by
  apply List.mem_map_of_mem
  obtain ⟨name, hname, rfl⟩ | ⟨name, hname, rfl⟩ := mem_itemAttributes h
  · apply List.mem_append_left
    apply List.mem_map.mpr
    refine ⟨item.path ++ [name], ?_, (List.append_assoc _ _ _).symm⟩
    apply List.mem_append_right
    apply List.mem_map_of_mem (f := fun name => item.path ++ [name])
    apply List.mem_append_left _ hname
  · apply List.mem_append_right
    apply List.mem_map.mpr
    refine ⟨item.configPath.getD [] ++ [name], ?_, (List.append_assoc _ _ _).symm⟩
    rw [GadgetConfigItem.configPaths, if_neg (List.ne_nil_of_mem hname)]
    apply List.mem_append_right
    apply List.mem_map_of_mem (f := fun name => item.configPath.getD [] ++ [name]) hname

variable (htx : tx = newUsbGadgetTransaction name udcName items enabled)
  (hval : val ∈ configMap) (h : (path, text) ∈ tx.itemAttributes val.item)

include htx hval h

/-- No attribute is the link of an item. -/
theorem configPath_ne_attribute (shaped : Shaped configMap) {other : GadgetConfigItemWithKey}
    (hother : other ∈ configMap) (hlinked : other.item.isLinked = true) :
  joinPath tx.configC1Path (other.item.configPath.getD []) ≠ path
  := by
  obtain ⟨name, hname, rfl⟩ | ⟨name, hname, rfl⟩ := mem_itemAttributes h
  · rw [joinPath_configC1Path htx, joinPath, joinPath, List.append_assoc]
    intro heq
    apply not_hasGadgetPath_configDir shaped hval (other.item.configPath.getD [])
    right
    use name, List.mem_append_left _ hname
    exact List.append_cancel_left heq
  · rw [joinPath, joinPath, List.append_assoc]
    intro heq
    apply shaped.configApart val hval name hname other hother _ _
      (List.append_cancel_left heq).symm
    rw [GadgetConfigItem.isLinked, Bool.and_eq_true] at hlinked
    rw [GadgetConfigItem.configPlace, hlinked.1, Bool.true_or]
    rfl

/-- No attribute is the file that binds the gadget. -/
theorem controller_ne_attribute (shaped : ShapedGadget configMap) :
  tx.kvmGadgetPath ++ [file "UDC"] ≠ path
  := by
  obtain ⟨name, hname, rfl⟩ | ⟨name, hname, rfl⟩ := mem_itemAttributes h
  · rw [joinPath, List.append_assoc]
    intro heq
    have hnames := List.append_cancel_left heq
    cases hpath : val.item.path with
    | nil =>
        rw [hpath, List.nil_append] at hnames
        apply shaped.controller val hval hpath
        rw [List.singleton_inj.mp hnames]
        exact hname
    | cons first rest =>
        rw [hpath] at hnames
        simp at hnames
  · rw [joinPath_configC1Path htx, joinPath, List.append_assoc]
    intro heq
    have hlength := congrArg List.length (List.append_cancel_left heq)
    simp [configDir] at hlength

end Paths

/-! ### What comes after an attribute has been written -/

section Late

variable (htx : tx = newUsbGadgetTransaction name udcName items enabled)
  (shaped : ShapedGadget configMap) (ordered : IsOrdered configMap items)
  (parts : tx.PlanParts first requests reorder udc unbind bind)
  (hsub : plan.Sublist (first ++ requests ++ [udc, unbind, bind, reorder]))
  (asked : tx.PlanRequests plan) (attributes : tx.PlanAttributes plan)
  (inOrder : InOrder plan resolved)
  (hval : val ∈ tx.orderedConfigItems) (henabled : tx.isEnabled val = true)
  (h : (path, text) ∈ tx.itemAttributes val.item)

section Mounted

include asked attributes inOrder hval henabled h

/-- The configuration file system is mounted before an attribute is written. -/
theorem mount_before_attribute (hmem : .path configFSPath ∈ resolved.map (·.changeKey)) :
  Before (resolved.map (·.changeKey)) (.path configFSPath) (.path path)
  := by
  obtain ⟨config, hconfig, hconfigKey, hconfigDeps⟩ := asked.config
  obtain ⟨gadget, hgadget, hgadgetKey, hgadgetDeps⟩ := asked.gadget
  obtain ⟨hconfig, hconfigCondition⟩ := mem_unconditionalRequests.mp hconfig
  obtain ⟨hgadget, hgadgetCondition⟩ := mem_unconditionalRequests.mp hgadget
  obtain ⟨⟨f, hf, hwrites⟩, hmade⟩ := attributes.attributes val hval henabled path text h
  have hconfigMem := inOrder.mem_keys hconfig hconfigCondition
  have hgadgetMem := inOrder.mem_keys hgadget hgadgetCondition
  have hmount := inOrder.before config hconfig hconfigCondition _ hconfigDeps hmem
  rw [hconfigKey] at hmount hconfigMem
  have hmake := inOrder.before gadget hgadget hgadgetCondition _ hgadgetDeps hconfigMem
  rw [hgadgetKey] at hmake hgadgetMem
  have hwrite := inOrder.before f hf hwrites.condition _ hwrites.directory
  rw [hwrites.changeKey] at hwrite
  obtain hdir | hdir | ⟨made, hmade, hkey, hcondition, hdeps⟩ := hmade
  · rw [hdir] at hwrite
    exact (hmount.trans inOrder.nodup hmake).trans inOrder.nodup (hwrite hgadgetMem)
  · rw [hdir] at hwrite
    exact hmount.trans inOrder.nodup (hwrite hconfigMem)
  · have hmadeMem := inOrder.mem_keys hmade hcondition
    have hdirectory := inOrder.before made hmade hcondition _ hdeps hgadgetMem
    rw [hkey] at hmadeMem hdirectory
    apply ((hmount.trans inOrder.nodup hmake).trans inOrder.nodup hdirectory).trans inOrder.nodup
    exact hwrite hmadeMem

end Mounted

theorem path_of_changeKey {f : RequestedFileChange} (h : f.changeKey = .path path) :
  f.path = path
  := by
  rw [RequestedFileChange.changeKey] at h
  split at h
  · exact ChangeKey.path.inj h
  · cases h

theorem exists_path_of_mem_writtenKeys {key : ChangeKey} (hkey : key ∈ tx.writtenKeys val) :
  ∃ path, key = .path path
  := by
  rw [writtenKeys] at hkey
  split at hkey
  · obtain ⟨path, -, rfl⟩ := List.mem_map.mp hkey
    use path
  · obtain ⟨path, -, rfl⟩ := List.mem_map.mp hkey
    exact ⟨_, rfl⟩

include parts hsub in
/-- The unconditional requests are known by their paths, apart from two. -/
theorem changeKey_cases {f : RequestedFileChange} (hf : f ∈ plan) (hcondition : f.condition = "") :
  f.changeKey = .path f.path ∨ f.changeKey = .named "udc" ∨ f.changeKey = .named reorderKey
  := by
  have hown : f ∈ ownRequests first requests reorder udc unbind bind := by
    rw [← parts.unconditionalRequests_eq]
    exact (hsub.filter _).subset (mem_unconditionalRequests.mpr ⟨hf, hcondition⟩)
  have hkey := List.mem_map_of_mem (f := (·.changeKey)) hown
  have hpath : ∀ path, f.changeKey = .path path → f.changeKey = .path f.path := by
    intro path h
    rw [path_of_changeKey h, h]
  rw [parts.keys_ownRequests] at hkey
  obtain hkey | hkey := List.mem_append.mp hkey
  · left
    obtain hkey | hkey := List.mem_append.mp hkey
    · simp only [baseKeys, List.mem_cons, List.not_mem_nil, or_false] at hkey
      obtain hkey | hkey | hkey := hkey
      · exact hpath _ hkey
      · exact hpath _ hkey
      · exact hpath _ hkey
    · obtain ⟨other, -, hkey⟩ := List.mem_flatMap.mp hkey
      obtain ⟨path, hkey⟩ := exists_path_of_mem_writtenKeys hkey
      exact hpath path hkey
  · simp only [List.mem_cons, List.not_mem_nil, or_false] at hkey
    obtain hkey | hkey | hkey | hkey := hkey
    · exact Or.inr (Or.inl hkey)
    · exact Or.inl (hpath _ hkey)
    · exact Or.inl (hpath _ hkey)
    · exact Or.inr (Or.inr hkey)

/-- Changes with the same key are the same. -/
theorem InOrder.eq_of_changeKey (inOrder : InOrder plan resolved) {change other : FileChange}
    (hchange : change ∈ resolved) (hother : other ∈ resolved)
    (hkey : change.changeKey = other.changeKey) :
  change = other
  := List.inj_on_of_nodup_map inOrder.nodup hchange hother hkey

include htx shaped ordered parts hsub asked attributes inOrder hval henabled h

/-- The links are ordered after the attributes of an item that is linked or comes before a linked
one. -/
theorem attribute_before_links {early late : List GadgetConfigItemWithKey}
    (hearly : tx.orderedConfigItems = early ++ val :: late)
    (hlinks : (val :: late).any tx.links = true) :
  Before (resolved.map (·.changeKey)) (.path path) (.named reorderKey)
  := by
  obtain ⟨finalize, hfinalize, hordersLinks⟩ := asked.reorder
  have hdeps := dependsOn_finalize htx shaped.toShaped ordered parts hsub hfinalize hordersLinks
  obtain ⟨hfinalize, hcondition⟩ := mem_unconditionalRequests.mp hfinalize
  obtain ⟨⟨f, hf, hwrites⟩, -⟩ := attributes.attributes val hval henabled path text h
  rw [← hordersLinks.changeKey]
  apply inOrder.before finalize hfinalize hcondition
  · rw [hdeps, reorderFiles, hearly]
    apply enabledKeys_subset_linkedFiles hlinks
    simpa [enabledKeys, henabled] using mem_itemKeys_of_itemAttributes h
  · rw [← hwrites.changeKey]
    exact inOrder.mem_keys hf hwrites.condition

/-- What comes after the change that writes an attribute is not about it. -/
theorem leavesFile_of_before (hsome : tx.itemLinks tx.orderedConfigItems ≠ [])
    {change : FileChange} (hchange : change ∈ resolved) (hplan : change.toRequestedFileChange ∈ plan)
    (hlate : Before (resolved.map (·.changeKey)) (.path path) change.changeKey) :
  LeavesFile path change.toRequestedFileChange
  := by
  have hitems : tx.orderedConfigItems = items := by
    rw [htx]
    rfl
  have hconfigMap : ∀ i ∈ tx.orderedConfigItems, i ∈ configMap :=
    fun i hi => ordered.perm.mem_iff.mp (hitems ▸ hi)
  by_cases hcondition : change.condition = ""
  · obtain ⟨reorder, hreorder, hlinks⟩ := asked.reorder
    obtain ⟨hreorder, hreorderCondition⟩ := mem_unconditionalRequests.mp hreorder
    obtain ⟨last, hlast, hlastRequest⟩ := inOrder.complete reorder hreorder hreorderCondition
    obtain ⟨udc, hudc, hudcKey, hudcPath, hudcCondition, -⟩ := attributes.udc
    obtain ⟨bound, hbound, hboundRequest⟩ := inOrder.complete udc hudc hudcCondition
    by_cases hlastKey : change.changeKey = .named reorderKey
    · -- the change orders the links
      have hsame : change = last := by
        apply inOrder.eq_of_changeKey hchange hlast
        rw [hlastKey, hlastRequest, hlinks.changeKey]
      right
      right
      rw [hsame, hlastRequest]
      exact ⟨hlinks.state, hlinks.links.trans_ne hsome⟩
    · have hne : change.path ≠ path := by
        obtain hkey | hkey | hkey := changeKey_cases parts hsub hplan hcondition
        · intro heq
          rw [hkey, heq] at hlate
          exact absurd hlate (hlate.asymm inOrder.nodup)
        · have hsame : change = bound := by
            apply inOrder.eq_of_changeKey hchange hbound
            rw [hkey, hboundRequest, hudcKey]
          rw [hsame, hboundRequest, hudcPath]
          exact controller_ne_attribute htx (hconfigMap val hval) h shaped
        · exact absurd hkey hlastKey
      cases asked.requests _ hplan with
      | mounted path before =>
          rw [path] at hlate
          have hmount := mount_before_attribute asked attributes inOrder hval henabled h hlate.mem.2
          exact absurd hlate (hmount.asymm inOrder.nodup)
      | written state before =>
          simp only [List.mem_cons, List.not_mem_nil, or_false] at state
          obtain state | state | state := state
          · exact Or.inl state
          · exact Or.inr (Or.inl ⟨by simp [state], hne⟩)
          · exact Or.inr (Or.inl ⟨by simp [state], hne⟩)
      | conditional condition => exact absurd hcondition condition
      | ordered links => exact absurd links.changeKey hlastKey
      | item other mem asked =>
          cases asked with
          | removed disabled state before configPath hpath path =>
              exact Or.inr (Or.inl ⟨by simp [state], hne⟩)
          | written enabled request key =>
              obtain hstate | ⟨hstate, -⟩ := request.state
              · simp only [List.mem_cons, List.not_mem_nil, or_false] at hstate
                obtain hstate | hstate := hstate
                · exact Or.inl hstate
                · exact Or.inr (Or.inl ⟨by simp [hstate], hne⟩)
              · exact Or.inr (Or.inl ⟨by simp [hstate], hne⟩)
  · -- the change removes the link of an item
    obtain ⟨other, hother, hremoves⟩ := attributes.conditional _ hplan hcondition
    have hlinked := hremoves.links
    rw [links, Bool.and_eq_true] at hlinked
    right
    left
    rw [hremoves.file]
    refine ⟨by simp [hremoves.state], ?_⟩
    exact configPath_ne_attribute htx (hconfigMap val hval) h shaped.toShaped
      (hconfigMap other hother) hlinked.2

/-- An attribute whose change has been applied is configured. -/
theorem configured_of_mem_front (hkeeps : k.KeepsContents)
    (hsome : tx.itemLinks tx.orderedConfigItems ≠ []) {front back : List FileChange}
    (hfront : resolved = front ++ back)
    (hplan : ∀ change ∈ resolved, change.toRequestedFileChange ∈ plan)
    (hmem : .path path ∈ front.map (·.changeKey))
    (happly : applyChanges k front files = some files') :
  Configured k front files files' path (bytes text)
  := by
  obtain ⟨change, hchange, hkey⟩ := List.mem_map.mp hmem
  obtain ⟨⟨f, hf, hwrites⟩, -⟩ := attributes.attributes val hval henabled path text h
  obtain ⟨written, hwritten, hrequest⟩ := inOrder.complete f hf hwrites.condition
  have hsame : change = written := by
    apply inOrder.eq_of_changeKey (hfront ▸ List.mem_append_left _ hchange) hwritten
    rw [hkey, hrequest, hwrites.changeKey]
  rw [← hsame] at hrequest
  have hpath : change.path = path := hrequest ▸ hwrites.file
  have hcontent : change.expectedContent = bytes text := hrequest ▸ hwrites.content
  obtain ⟨early, late, rfl⟩ := List.append_of_mem hchange
  rw [← hpath, ← hcontent]
  apply configured_applyChanges hkeeps (hrequest ▸ hwrites.state) _ happly
  intro other hother
  have hmemOther : other ∈ resolved := by
    simp [hfront, hother]
  rw [hpath]
  apply leavesFile_of_before htx shaped ordered parts hsub asked attributes inOrder hval henabled h
    hsome hmemOther (hplan other hmemOther)
  rw [hfront, List.map_append, List.map_append, List.map_cons, hkey]
  apply Before.append_right
  apply Before.append_left
  rw [before_cons]
  right
  exact ⟨rfl, List.mem_map_of_mem hother⟩

end Late

/-! ### The configured gadget -/

/-- The links of the items have different places. -/
theorem nodup_itemLinks (shaped : Shaped configMap) (ordered : IsOrdered configMap items) :
  ((tx.itemLinks items).map (·.path)).Nodup
  := by
  rw [itemLinks, List.map_map]
  have hitems : items.Nodup := ordered.perm.nodup_iff.mpr shaped.keys.of_map
  apply List.Nodup.map_on _ (hitems.filter _)
  intro i hi j hj heq
  obtain ⟨hi, hlinks⟩ := List.mem_filter.mp hi
  obtain ⟨hj, hlinks'⟩ := List.mem_filter.mp hj
  have hplace : ∀ i : GadgetConfigItemWithKey, tx.links i = true →
      i.item.configPlace = some (i.item.configPath.getD []) := by
    intro i hlinks
    rw [links, GadgetConfigItem.isLinked, Bool.and_eq_true, Bool.and_eq_true] at hlinks
    rw [GadgetConfigItem.configPlace, hlinks.2.1, Bool.true_or]
    rfl
  apply eq_of_nodup_filterMap shaped.places (ordered.perm.mem_iff.mp hi)
    (ordered.perm.mem_iff.mp hj) (hplace i hlinks)
  rw [hplace j hlinks']
  exact congrArg some (List.append_cancel_left heq).symm

/-- When the links have been ordered they are those of the linked items, whatever has been applied
since. -/
theorem ResolvedPlan.linked_front {change : FileChange}
    (hresolved : ResolvedPlan tx plan fs resolved change) (hk : k.Lawful)
    (hsome : tx.itemLinks tx.orderedConfigItems ≠ [])
    (hexpected : ∀ link ∈ tx.itemLinks tx.orderedConfigItems,
      ∃ name, link.path = tx.configC1Path ++ [name] ∧ filepathIsAbs link.target = true)
    {front back : List FileChange} (hfront : resolved = front ++ back) (hmem : change ∈ front)
    (happly : applyChanges k front files = some files') :
  Linked files' tx.configC1Path (tx.itemLinks tx.orderedConfigItems)
  := by
  apply linked_applyChanges hk hmem hresolved.links hsome hexpected _ happly
  intro other hother hlate
  apply hresolved.late other (hfront ▸ List.mem_append_left _ hother)
  rw [hfront, List.map_append]
  exact hlate.append_right

/-- When the plan has been applied, the links are those of the linked items and the attributes of
the enabled items are configured. When the gadget is bound, the links are so already, and the
attributes of the items that are linked or come before a linked one. -/
theorem configured_apply (htx : tx = newUsbGadgetTransaction name udcName items enabled)
    (shaped : ShapedGadget configMap) (ordered : IsOrdered configMap items) {resetUsb : Bool}
    (hplan : tx.configureUsbGadget resetUsb = some plan) (lawful : ∀ initial, (dag initial).Lawful)
    (hk : k.Lawful) (hkeeps : k.KeepsContents) (happly : apply dag k plan files = some files') :
  ((tx.itemLinks items).map (·.path)).Nodup ∧
    ∃ front udc back bound, getChanges dag files.fileSystem plan = .ok (front ++ udc :: back) ∧
      udc.changeKey = .named "udc" ∧
      applyChanges k front files = some bound ∧
      applyChanges k (udc :: back) bound = some files' ∧
      (Linked bound tx.configC1Path (tx.itemLinks items) ∧
        ∀ before val after, items = before ++ val :: after → tx.isEnabled val = true →
          (val :: after).any tx.links = true →
            tx.AttributesConfigured k front files bound val) ∧
      Linked files' tx.configC1Path (tx.itemLinks items) ∧
      ∀ val ∈ items, tx.isEnabled val = true →
        tx.AttributesConfigured k (front ++ udc :: back) files files' val
  := by
  have hchanges : tx.changes = [] := by
    rw [htx]
    rfl
  have hnone : tx.reorderSymlinkChanges = none := by
    rw [htx]
    rfl
  have hitems : tx.orderedConfigItems = items := by
    rw [htx]
    rfl
  have hlinked := any_links_of_configureUsbGadget hnone hplan
  have asked := planRequests_configureUsbGadget hchanges hnone hplan
  have attributes := planAttributes_configureUsbGadget hchanges hnone hplan
  obtain ⟨full, hfull, hsub, hconditional⟩ := exists_reset hplan
  obtain ⟨first, requests, reorder, udc, unbind, bind, hparts, parts⟩ :=
    tx.configureUsbGadget_eq hchanges hnone hlinked
  rw [hfull] at hparts
  obtain rfl := Option.some.inj hparts
  obtain ⟨resolved, change, hok, hresolved⟩ := exists_resolvedPlan htx shaped.toShaped ordered
    hlinked parts hsub hconditional asked lawful files.fileSystem
  have inOrder := inOrder_getChanges htx shaped.toShaped ordered parts hsub hconditional lawful hok
  rw [apply, hok] at happly
  have hsome : tx.itemLinks tx.orderedConfigItems ≠ [] := itemLinks_ne_nil hlinked
  have hconfigMap : ∀ val ∈ tx.orderedConfigItems, val ∈ configMap :=
    fun val hval => ordered.perm.mem_iff.mp (hitems ▸ hval)
  have hexpected : ∀ link ∈ tx.itemLinks tx.orderedConfigItems,
      ∃ name, link.path = tx.configC1Path ++ [name] ∧ filepathIsAbs link.target = true :=
    exists_name_of_mem_itemLinks fun val hval => shaped.single val (hconfigMap val hval)
  -- the change that binds the gadget comes after the one that orders the links
  obtain ⟨udc, hudc, hudcKey, -, hudcCondition, hudcDeps⟩ := attributes.udc
  obtain ⟨bound, hbound, hrequest⟩ := inOrder.complete udc hudc hudcCondition
  have hboundKey : bound.changeKey = .named "udc" := by
    rw [hrequest, hudcKey]
  have hreorderMem : .named reorderKey ∈ resolved.map (·.changeKey) := by
    rw [← hresolved.links.changeKey]
    exact List.mem_map_of_mem hresolved.mem
  have hreorder := inOrder.before udc hudc hudcCondition _ hudcDeps hreorderMem
  rw [hudcKey] at hreorder
  obtain ⟨front, back, hsplit⟩ := List.append_of_mem hbound
  have hfront : ∀ key, Before (resolved.map (·.changeKey)) key (.named "udc") →
      key ∈ front.map (·.changeKey) := by
    have hnodup := inOrder.nodup
    rw [hsplit, List.map_append, List.map_cons, hboundKey] at hnodup ⊢
    exact fun key hbefore => hbefore.mem_front hnodup
  obtain ⟨last, hlast, hlastKey⟩ := List.mem_map.mp (hfront _ hreorder)
  have hlastMem : last ∈ resolved := hsplit ▸ List.mem_append_left _ hlast
  rw [hresolved.unique last hlastMem hlastKey] at hlast
  have hall : applyChanges k (front ++ bound :: back) files = some files' := by
    rw [← hsplit]
    exact happly
  obtain ⟨before, hbefore, hafter⟩ := Option.bind_eq_some_iff.mp
    ((List.foldlM_append ..).symm.trans hall)
  rw [← hitems]
  refine ⟨nodup_itemLinks shaped.toShaped (hitems ▸ ordered), front, bound, back, before,
    hsplit ▸ hok, hboundKey, hbefore, hafter, ⟨?_, ?_⟩, ?_, ?_⟩
  · exact hresolved.linked_front hk hsome hexpected hsplit hlast hbefore
  · intro early val late hearly henabled hlinks path text h
    have hval : val ∈ tx.orderedConfigItems := by
      rw [hearly]
      exact List.mem_append_cons_self
    apply configured_of_mem_front htx shaped ordered parts hsub asked attributes inOrder hval
      henabled h hkeeps hsome hsplit hresolved.requests _ hbefore
    apply hfront
    apply Before.trans inOrder.nodup _ hreorder
    exact attribute_before_links htx shaped ordered parts hsub asked attributes inOrder hval
      henabled h hearly hlinks
  · exact hresolved.linked_front hk hsome hexpected (List.append_nil _).symm hresolved.mem happly
  · intro val hval henabled path text h
    rw [← hsplit]
    apply configured_of_mem_front htx shaped ordered parts hsub asked attributes inOrder hval
      henabled h hkeeps hsome (List.append_nil _).symm hresolved.requests _ happly
    obtain ⟨⟨f, hf, hwrites⟩, -⟩ := attributes.attributes val hval henabled path text h
    rw [← hwrites.changeKey]
    exact inOrder.mem_keys hf hwrites.condition

theorem configured_apply_serialConsole :
  ∃ files', apply (fun _ => Dag.preferring []) plainKernel serialConsolePlan
      (filesAfter serialConsolePlan) = some files' ∧
    Linked files' (defaultTransaction serialConsoleDevices).configC1Path
      ((defaultTransaction serialConsoleDevices).itemLinks defaultGadgetConfig)
  := by
  have hlawful : ∀ _ : Bool, (Dag.preferring ([] : List ChangeKey)).Lawful :=
    fun _ => Dag.lawful_preferring []
  obtain ⟨files', happly⟩ := exists_apply_serialConsole hlawful
  use files', happly
  obtain ⟨-, front, udc, back, bound, -, -, -, -, -, hlinked, -⟩ :=
    configured_apply (rfl : defaultTransaction serialConsoleDevices = _)
      shapedGadget_defaultGadgetConfig isOrdered_defaultGadgetConfig
      configureUsbGadget_serialConsole hlawful lawful_plainKernel (fun _ _ _ h => h) happly
  exact hlinked

/-! ### A drive without a medium -/

section Drive

/-- The request is applied to the files. -/
def Applies (k : Kernel) (f : RequestedFileChange) (files files' : Files) : Prop :=
  applyChange k files (FileChange.resolveAction files.fileSystem
    (FileChange.resetActionResolution { toRequestedFileChange := f })) = some files'

instance (k : Kernel) (f : RequestedFileChange) (files files' : Files) :
    Decidable (Applies k f files files') :=
  inferInstanceAs (Decidable (_ = _))

theorem Applies.applyChange_eq {change : FileChange}
    (h : Applies k change.toRequestedFileChange files files') :
  applyChange k files (change.resetActionResolution.resolveAction files.fileSystem) = some files'
  := by
  rw [← show applyChange k files _ = some files' from h]
  exact applyChange_congr rfl

theorem Applies.applyNext_eq {change : FileChange}
    (h : Applies k change.toRequestedFileChange files files') :
  applyNext k files change = some files'
  := by
  have happlied := h.applyChange_eq
  simp only [applyNext, happlied]

/-- No file is where another kind of file is to be. -/
def isExpectedKind (files : Files) (f : RequestedFileChange) : Bool :=
  match files.tree.node f.path with
  | none => true
  | some .directory =>
      f.expectedState ∈ [.directory, .mountedConfigFS, .symlinkInOrderConfigFS]
  | some (.regular _) => f.expectedState ∈ [.fileContentMatch, .fileWrite, .absent]
  | some (.link _) => f.expectedState = .absent

/-- Only the mass storage is enabled. -/
def massStorageDevices : Devices where
  absoluteMouse := false
  relativeMouse := false
  keyboard := false
  massStorage := true

/-- The plan with the mass storage. -/
def massStoragePlan : ChangeSet :=
  defaultPlan massStorageDevices

/-- The path of a file of the drive. -/
def drivePath (name : FileName) : Path :=
  joinPath (defaultTransaction massStorageDevices).kvmGadgetPath massStorageLun0Config.path ++ [name]

/-- The files after the plan has been applied, with a drive that is no cdrom and has no medium. -/
def driveFiles : Files :=
  { filesAfter massStoragePlan with
    tree := ((filesAfter massStoragePlan).tree.put (drivePath mediumName) (.regular [])).put
      (drivePath cdromName) (.regular (bytes "0")) }

/-- The states of the files while the plan is applied anew, until the drive is a cdrom. -/
def driveStates : List Files :=
  withoutLinks driveFiles ((defaultTransaction massStorageDevices).itemLink wakeHIDConfig).path
    ((defaultTransaction massStorageDevices).itemLink massStorageBaseConfig).path

/-- The files with a drive that is a cdrom. -/
def withCdrom (files : Files) : Files :=
  { files with tree := files.tree.put (drivePath cdromName) (.regular (bytes "1")) }

/-- The states of the files while the plan is applied anew. -/
def cdromStates : List Files :=
  driveStates ++ driveStates.map withCdrom

/-- Every request can be applied, the drive stays without a medium, and it stays as it is unless
the request is about that. -/
theorem closed_cdromStates :
  (∀ f ∈ massStoragePlan, isExpectedKind driveFiles f = true) ∧
    (driveFiles.tree.node (drivePath cdromName) = some (.regular (bytes "0")) ∧
      ∀ files ∈ cdromStates, files.tree.node (drivePath mediumName) = some (.regular [])) ∧
    ∀ files ∈ cdromStates, ∀ f ∈ massStoragePlan, ∃ files' ∈ cdromStates,
      Applies plainKernel f files files' ∧
        (f.changeKey = .path (drivePath cdromName) ∨
          files'.tree.node (drivePath cdromName) = files.tree.node (drivePath cdromName))
  := by decide +kernel

theorem not_hasContent_of_node {actual content : List UInt8}
    (hnode : files.tree.node path = some (.regular actual))
    (hcompare : compareFileContent actual content (baseName path = "inquiry_string") = false) :
  ¬ HasContent files path content
  := by
  rintro ⟨other, hother, h⟩
  rw [hnode] at hother
  cases hother
  rw [hcompare] at h
  cases h

theorem configureUsbGadget_massStorage :
  (defaultTransaction massStorageDevices).configureUsbGadget true = some massStoragePlan
  := by
  rw [massStoragePlan, defaultPlan]
  rfl

/-- A drive without a medium is not given the line break, and whether the drive is a cdrom may be
written after the gadget has been bound. -/
theorem drive_not_configured :
  plainKernel.Lawful ∧ plainKernel.KeepsContents ∧
    isGadgetConfigItemEnabled massStorageDevices "mass_storage_lun0" = true ∧
    ∃ dag files' front udc back bound, (∀ initial : Bool, (dag initial).Lawful) ∧
    (∀ f ∈ massStoragePlan, isExpectedKind driveFiles f = true) ∧
    getChanges dag driveFiles.fileSystem massStoragePlan = .ok (front ++ udc :: back) ∧
    apply dag plainKernel massStoragePlan driveFiles = some files' ∧
    (∀ change before, AppliedTo plainKernel (front ++ udc :: back) driveFiles change before →
      ¬ Fails plainKernel before change) ∧
    udc.changeKey = .named "udc" ∧ applyChanges plainKernel front driveFiles = some bound ∧
    (defaultTransaction massStorageDevices).configureUsbGadget true = some massStoragePlan ∧
    (drivePath cdromName, "1") ∈
      (defaultTransaction massStorageDevices).itemAttributes massStorageLun0Config ∧
    (drivePath mediumName, "\n") ∈
      (defaultTransaction massStorageDevices).itemAttributes massStorageLun0Config ∧
    ¬ HasContent bound (drivePath cdromName) (bytes "1") ∧
    ¬ HasContent files' (drivePath mediumName) (bytes "\n")
  := by
  use lawful_plainKernel, fun _ _ _ h => h, rfl
  obtain ⟨hkinds, ⟨hcdrom, hfile⟩, hclosed⟩ := closed_cdromStates
  have hlinked : (defaultTransaction massStorageDevices).orderedConfigItems.any
      (defaultTransaction massStorageDevices).links = true := by
    decide
  have asked := planRequests_configureUsbGadget rfl rfl configureUsbGadget_massStorage
  have attributes := planAttributes_configureUsbGadget rfl rfl configureUsbGadget_massStorage
  obtain ⟨first, requests, reorder, udc, unbind, bind, hplan, parts⟩ :=
    (defaultTransaction massStorageDevices).configureUsbGadget_eq rfl rfl hlinked
  rw [configureUsbGadget_massStorage] at hplan
  have hsame := Option.some.inj hplan
  have hitems : defaultGadgetConfig = defaultGadgetConfig.take 8 ++ defaultGadgetConfig.drop 8 :=
    (List.take_append_drop 8 _).symm
  obtain ⟨dag, lawful, hlate⟩ := exists_lateOrder rfl shaped_defaultGadgetConfig
    isOrdered_defaultGadgetConfig parts hitems (by decide)
  rw [← hsame] at hlate
  obtain ⟨resolved, change, hok, hresolved⟩ := exists_resolvedPlan rfl shaped_defaultGadgetConfig
    isOrdered_defaultGadgetConfig hlinked parts (hsame ▸ List.Sublist.refl _) (by rw [hsame])
    asked lawful driveFiles.fileSystem
  have inOrder := inOrder_getChanges rfl shaped_defaultGadgetConfig isOrdered_defaultGadgetConfig
    parts (hsame ▸ List.Sublist.refl _) (by rw [hsame]) lawful hok
  have hstart : driveFiles ∈ cdromStates := List.mem_append_left _ List.mem_cons_self
  have hstates : ∀ files ∈ cdromStates, ∀ f ∈ massStoragePlan, ∃ files' ∈ cdromStates,
      applyNext plainKernel files { toRequestedFileChange := f } = some files' := by
    intro files hfiles f hf
    obtain ⟨files', hfiles', happlies, -⟩ := hclosed files hfiles f hf
    use files', hfiles'
    exact happlies.applyNext_eq
  obtain ⟨files', hfiles', happly⟩ := exists_applyChanges hstates hresolved.requests hstart
  obtain ⟨udc, hudc, hudcKey, -, hudcCondition, -⟩ := attributes.udc
  obtain ⟨bound, hbound, hrequest⟩ := inOrder.complete udc hudc hudcCondition
  obtain ⟨front, back, rfl⟩ := List.append_of_mem hbound
  have hboundKey : bound.changeKey = .named "udc" := by
    rw [hrequest, hudcKey]
  -- what is applied before the gadget is bound is not about the cdrom
  have hfront : ∀ change ∈ front, change.changeKey ≠ .path (drivePath cdromName) := by
    intro change hchange hkey
    have hafter : Before ((front ++ bound :: back).map (·.changeKey)) (.named "udc")
        (.path (drivePath cdromName)) := by
      apply hlate _ _ hok
      · simp [lastKeys]
      · decide +kernel
    apply hafter.asymm inOrder.nodup
    rw [List.map_append, List.map_cons, hboundKey, ← hkey]
    apply before_append
    · exact List.mem_map_of_mem hchange
    · exact List.mem_cons_self
  have hquiet : ∀ files ∈ cdromStates.filter fun files =>
      files.tree.node (drivePath cdromName) = some (.regular (bytes "0")),
      ∀ f ∈ massStoragePlan.filter fun f => f.changeKey ≠ .path (drivePath cdromName),
      ∃ files' ∈ cdromStates.filter fun files =>
        files.tree.node (drivePath cdromName) = some (.regular (bytes "0")),
      applyNext plainKernel files { toRequestedFileChange := f } = some files' := by
    intro files hfiles f hf
    obtain ⟨hfiles, hnode⟩ := List.mem_filter.mp hfiles
    obtain ⟨hf, hkey⟩ := List.mem_filter.mp hf
    obtain ⟨files', hfiles', happlies, hcases⟩ := hclosed files hfiles f hf
    refine ⟨files', List.mem_filter.mpr ⟨hfiles', ?_⟩, happlies.applyNext_eq⟩
    rw [hcases.resolve_left (of_decide_eq_true hkey)]
    exact hnode
  obtain ⟨before, hbefore, happlyFront⟩ := exists_applyChanges hquiet
    (fun change hchange => List.mem_filter.mpr
      ⟨hresolved.requests change (List.mem_append_left _ hchange),
        decide_eq_true (hfront change hchange)⟩)
    (List.mem_filter.mpr ⟨hstart, decide_eq_true hcdrom⟩)
  refine ⟨dag, files', front, bound, back, before, lawful, hkinds, hok, ?_, ?_, hboundKey,
    happlyFront, configureUsbGadget_massStorage, ?_, ?_, ?_, ?_⟩
  · rw [apply, hok]
    exact happly
  · rintro change between ⟨early, late, hsplit, hearly⟩ hfails
    have hrequests : ∀ other ∈ early ++ change :: late,
        other.toRequestedFileChange ∈ massStoragePlan := hsplit ▸ hresolved.requests
    obtain ⟨reached, hreached, happlyEarly⟩ := exists_applyChanges hstates
      (fun other hother => hrequests other (List.mem_append_left _ hother)) hstart
    rw [hearly] at happlyEarly
    obtain rfl := Option.some.inj happlyEarly
    obtain ⟨after, -, happlies, -⟩ := hclosed between hreached _
      (hrequests change List.mem_append_cons_self)
    rw [Fails, happlies.applyChange_eq] at hfails
    cases hfails
  · decide +kernel
  · decide +kernel
  · apply not_hasContent_of_node (of_decide_eq_true (List.mem_filter.mp hbefore).2)
    decide +kernel
  · apply not_hasContent_of_node (hfile files' hfiles')
    decide +kernel

end Drive

end JetKvm.UsbPlan

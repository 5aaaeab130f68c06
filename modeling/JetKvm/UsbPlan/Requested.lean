import JetKvm.UsbPlan.Ordering

/-!
# What the plan asks for

The requests of the plan make directories, write files, and remove report descriptors and the links
of disabled functions. One request orders the links: it asks for those of the linked items, in the
order of the items.
-/

namespace JetKvm.UsbPlan

namespace UsbGadgetTransaction

variable {tx tx' : UsbGadgetTransaction} {item : GadgetConfigItem} {f : RequestedFileChange}
  {component description : String} {basePath path : Path} {files beforeChange : List ChangeKey}

/-! ### The requests of an item -/

/-- The directory of an item is requested, and nothing else. -/
theorem mem_writeItemDirectory
    (h : f ∈ (tx.writeItemDirectory component basePath path description files).1.changes) :
  f ∈ tx.changes ∨ f.expectedState = .directory ∧ f.changesBefore = []
  := by
  rw [writeItemDirectory] at h
  split at h
  · rcases List.mem_append.mp h with h | h
    · exact Or.inl h
    · rw [List.mem_singleton.mp h]
      exact Or.inr ⟨rfl, rfl⟩
  · exact Or.inl h

/-- Its attributes are. -/
theorem mem_writeGadgetAttrs {attrs : GadgetAttributes}
    (h : f ∈ (tx.writeGadgetAttrs basePath attrs component beforeChange).1.changes) :
  f ∈ tx.changes ∨ f.expectedState = .fileContentMatch ∧ f.changesBefore = beforeChange
  := by
  rw [writeGadgetAttrs_eq] at h
  rcases List.mem_append.mp h with h | h
  · exact Or.inl h
  · obtain ⟨attr, -, rfl⟩ := List.mem_map.mp h
    exact Or.inr ⟨rfl, rfl⟩

/-- Its report descriptor is, or that it is absent. -/
theorem mem_writeReportDesc {reportDesc : Option (List UInt8)}
    (h : f ∈ (tx.writeReportDesc component path reportDesc beforeChange files).1.changes) :
  f ∈ tx.changes ∨ (f.expectedState = .fileContentMatch ∨
    f.expectedState = .absent ∧ f.path = path ++ [GadgetConfigItem.reportDescName]) ∧
    f.changesBefore = beforeChange
  := by
  rcases List.mem_append.mp h with h | h
  · exact Or.inl h
  · rw [List.mem_singleton.mp h]
    cases reportDesc with
    | none => exact Or.inr ⟨Or.inr ⟨rfl, rfl⟩, rfl⟩
    | some reportDesc => exact Or.inr ⟨Or.inl rfl, rfl⟩

/-- The attributes of its configuration are, with their directory. -/
theorem mem_writeConfigAttrs {configAttrs : GadgetAttributes}
    (h : f ∈ (tx.writeConfigAttrs component path configAttrs beforeChange files).1.changes) :
  f ∈ tx.changes ∨ f.expectedState = .directory ∧ f.changesBefore = [] ∨
    f.expectedState = .fileContentMatch ∧ f.changesBefore = beforeChange
  := by
  rw [writeConfigAttrs] at h
  split at h
  · rcases mem_writeGadgetAttrs h with h | h
    · rcases mem_writeItemDirectory h with h | h
      · exact Or.inl h
      · exact Or.inr (Or.inl h)
    · exact Or.inr (Or.inr h)
  · exact Or.inl h

/-- Its link is requested conditionally. -/
theorem mem_linkItem (h : f ∈ (tx.linkItem item path files).changes) :
  f ∈ tx.changes ∨ f.IsConditional
  := by
  rw [linkItem] at h
  split at h
  · rcases List.mem_append.mp h with h | h
    · exact Or.inl h
    · right
      rw [List.mem_singleton.mp h]
      change "beforeChange" ≠ ""
      decide
  · exact Or.inl h

/-- What the unconditional requests of an enabled item ask for. -/
structure ItemRequest (tx : UsbGadgetTransaction) (item : GadgetConfigItem)
    (f : RequestedFileChange) : Prop where
  state : f.expectedState ∈ [.directory, .fileContentMatch] ∨
    f.expectedState = .absent ∧
      f.path = joinPath tx.kvmGadgetPath item.path ++ [GadgetConfigItem.reportDescName]
  before : item.isLinked = false → f.changesBefore = []

/-- All that is requested for an item belongs to it. -/
theorem mem_writeGadgetItemConfig (h : f ∈ (tx.writeGadgetItemConfig item files).1.changes) :
  f ∈ tx.changes ∨ tx.ItemRequest item f ∨ f.IsConditional
  := by
  unfold writeGadgetItemConfig at h
  dsimp only at h
  rcases mem_linkItem h with h | h
  · rcases mem_writeConfigAttrs h with h | ⟨hstate, hbefore⟩ | ⟨hstate, hbefore⟩
    · rcases mem_writeReportDesc h with h | ⟨hstate, hbefore⟩
      · rcases mem_writeGadgetAttrs h with h | ⟨hstate, hbefore⟩
        · rcases mem_writeItemDirectory h with h | ⟨hstate, hbefore⟩
          · exact Or.inl h
          · exact Or.inr (Or.inl ⟨Or.inl (by simp [hstate]), fun _ => hbefore⟩)
        · refine Or.inr (Or.inl ⟨Or.inl (by simp [hstate]), fun hlinked => ?_⟩)
          rw [hbefore, hlinked]
          rfl
      · refine Or.inr (Or.inl ⟨hstate.imp_left (fun hstate => by simp [hstate]), fun hlinked => ?_⟩)
        rw [hbefore, hlinked]
        rfl
    · exact Or.inr (Or.inl ⟨Or.inl (by simp [hstate]), fun _ => hbefore⟩)
    · refine Or.inr (Or.inl ⟨Or.inl (by simp [hstate]), fun hlinked => ?_⟩)
      rw [hbefore, hlinked]
      rfl
  · exact Or.inr (Or.inr h)

/-! ### The requests of all items -/

/-- What the unconditional requests of an item ask for. -/
inductive Asked (tx : UsbGadgetTransaction) (val : GadgetConfigItemWithKey)
    (f : RequestedFileChange) : Prop where
  | written (enabled : tx.isEnabled val = true) (request : tx.ItemRequest val.item f)
      (key : f.changeKey ∈ tx.itemKeys val.item)
  | removed (disabled : tx.isEnabled val = false) (state : f.expectedState = .absent)
      (before : f.changesBefore = []) (configPath : Path)
      (hpath : val.item.configPath = some configPath)
      (path : f.path = joinPath tx.configC1Path configPath)

/-- The link of an item. -/
def itemLink (tx : UsbGadgetTransaction) (item : GadgetConfigItem) : Symlink where
  path := joinPath tx.configC1Path (item.configPath.getD [])
  target := (joinPath tx.kvmGadgetPath item.path).chars

/-- The links of the linked items, in their order. -/
def itemLinks (tx : UsbGadgetTransaction) (items : List GadgetConfigItemWithKey) : List Symlink :=
  (items.filter tx.links).map fun val => tx.itemLink val.item

/-- The request asks for the links to be in order. -/
structure OrdersLinks (tx : UsbGadgetTransaction) (links : List Symlink)
    (f : RequestedFileChange) : Prop where
  changeKey : f.changeKey = .named reorderKey
  path : f.path = tx.configC1Path
  state : f.expectedState = .symlinkInOrderConfigFS
  links : f.paramSymlinks = links
  errors : f.ignoreErrors = false
  condition : f.condition = ""
  before : f.changesBefore = []

/-- The links that are asked for so far. -/
def LinksSoFar (tx : UsbGadgetTransaction) (links : List Symlink) :
    Option RequestedFileChange → Prop
  | none => links = []
  | some f => tx.OrdersLinks links f

/-- The transactions are about the same gadget. -/
structure SameGadget (tx tx' : UsbGadgetTransaction) : Prop where
  gadget : tx'.kvmGadgetPath = tx.kvmGadgetPath
  config : tx'.configC1Path = tx.configC1Path
  enabled : tx'.isGadgetConfigItemEnabled = tx.isGadgetConfigItemEnabled

variable {links : List Symlink} {val : GadgetConfigItemWithKey}
  {items : List GadgetConfigItemWithKey}

/-- The gadget is the same the other way round. -/
theorem SameGadget.symm (same : SameGadget tx tx') :
  SameGadget tx' tx
  := ⟨same.gadget.symm, same.config.symm, same.enabled.symm⟩

/-- The gadget stays the same step by step. -/
theorem SameGadget.trans {tx'' : UsbGadgetTransaction} (first : SameGadget tx tx')
    (second : SameGadget tx' tx'') :
  SameGadget tx tx''
  := ⟨second.gadget.trans first.gadget, second.config.trans first.config,
    second.enabled.trans first.enabled⟩

/-- The links depend on the gadget alone. -/
theorem LinksSoFar.transport {reorder : Option RequestedFileChange}
    (h : tx.LinksSoFar links reorder) (same : SameGadget tx tx') :
  tx'.LinksSoFar links reorder
  := by
  cases reorder with
  | none => apply h
  | some f =>
      obtain ⟨key, path, state, hlinks, errors, condition, before⟩ := h
      use key, path.trans same.config.symm, state, hlinks, errors, condition, before

/-- So does what is asked for. -/
theorem SameGadget.asked (same : SameGadget tx tx') (h : tx'.Asked val f) :
  tx.Asked val f
  := by
  have henabled : tx'.isEnabled val = tx.isEnabled val := by
    rw [isEnabled, same.enabled, isEnabled]
  cases h with
  | written enabled request key =>
      apply Asked.written
      · rw [← henabled]
        apply enabled
      · constructor
        · rw [← same.gadget]
          apply request.state
        · apply request.before
      · rw [itemKeys, itemPaths, same.gadget, same.config] at key
        apply key
  | removed disabled state before configPath hpath path =>
      apply Asked.removed _ state before configPath hpath
      · rw [← same.config]
        apply path
      · rw [← henabled]
        apply disabled

/-- When an item is linked, its link is added to those that are asked for. -/
theorem linkItem_linksSoFar (same : SameGadget tx tx')
    (h : tx.LinksSoFar links tx'.reorderSymlinkChanges) :
  tx.LinksSoFar (links ++ if item.isLinked then [tx.itemLink item] else [])
    (tx'.linkItem item (joinPath tx'.kvmGadgetPath item.path) files).reorderSymlinkChanges
  := by
  rw [linkItem]
  unfold addReorderSymlinkChange
  cases hlinked : item.isLinked with
  | false => simpa using h
  | true =>
      rw [if_pos rfl, if_pos rfl]
      cases hreorder : tx'.reorderSymlinkChanges with
      | none =>
          rw [hreorder] at h
          obtain rfl : links = [] := h
          constructor
          · simp [addFileChange, hreorder, RequestedFileChange.changeKey, reorderKey]
          · simp [addFileChange, hreorder, same.config]
          · simp [addFileChange, hreorder]
          · simp [addFileChange, hreorder, itemLink, same.config, same.gadget]
          · simp [addFileChange, hreorder]
          · simp [addFileChange, hreorder]
          · simp [addFileChange, hreorder, RequestedFileChange.changesBefore]
      | some f =>
          rw [hreorder] at h
          obtain ⟨key, path, state, hlinks, errors, condition, before⟩ := h
          constructor
          · simpa [addFileChange, hreorder, RequestedFileChange.changeKey] using key
          · simpa [addFileChange, hreorder] using path
          · simpa [addFileChange, hreorder] using state
          · simp [addFileChange, hreorder, itemLink, same.config, same.gadget, hlinks]
          · simpa [addFileChange, hreorder] using errors
          · simpa [addFileChange, hreorder] using condition
          · simpa [addFileChange, hreorder, RequestedFileChange.changesBefore] using before

variable {known : List ChangeKey}

/-- The requests of an item are for its keys, apart from the one that removes its link. -/
theorem key_of_mem_writeGadgetItemConfig (prepared : tx.Prepared known files)
    (h : f ∈ (tx.writeGadgetItemConfig item files).1.changes) :
  f ∈ tx.changes ∨ f.changeKey ∈ tx.itemKeys item ∨ f.IsConditional
  := by
  obtain ⟨requests, hcovers, hwrite⟩ : ∃ requests,
      Covers tx.getDisableKeys known (tx.itemKeys item) requests ∧
      tx.writeGadgetItemConfig item files = _ :=
    writeGadgetItemConfig_eq prepared.files prepared.gadget prepared.config
  rw [hwrite] at h
  rcases mem_linkItem h with h | h
  · rcases List.mem_append.mp h with h | h
    · exact Or.inl h
    · right
      left
      rw [← hcovers.keys_eq]
      apply List.mem_map_of_mem h
  · exact Or.inr (Or.inr h)

/-- All that is requested for an item is asked for it, or conditional. -/
theorem mem_writeItem (prepared : tx.Prepared known files)
    (h : f ∈ (writeItem (tx, files) val).1.changes) :
  f ∈ tx.changes ∨ tx.Asked val f ∨ f.IsConditional
  := by
  by_cases henabled : tx.isEnabled val = true
  · have hwrite : writeItem (tx, files) val = tx.writeGadgetItemConfig val.item files :=
      if_pos henabled
    rw [hwrite] at h
    rcases mem_writeGadgetItemConfig h with hmem | hrequest | hconditional
    · exact Or.inl hmem
    · rcases key_of_mem_writeGadgetItemConfig prepared h with hmem | hkey | hconditional
      · exact Or.inl hmem
      · exact Or.inr (Or.inl (Asked.written henabled hrequest hkey))
      · exact Or.inr (Or.inr hconditional)
    · exact Or.inr (Or.inr hconditional)
  · have hwrite : writeItem (tx, files) val = (tx.disableGadgetItemConfig val.item, files) :=
      if_neg henabled
    rw [hwrite, disableGadgetItemConfig] at h
    split at h
    · exact Or.inl h
    · rename_i configPath hpath
      rcases List.mem_append.mp h with h | h
      · exact Or.inl h
      · right
        left
        rw [List.mem_singleton.mp h]
        exact Asked.removed (Bool.eq_false_iff.mpr henabled) rfl rfl configPath hpath rfl

/-- The link of an item is asked for when the item is written. -/
theorem linksSoFar_writeItem (prepared : tx'.Prepared known files) (same : SameGadget tx tx')
    (h : tx.LinksSoFar links tx'.reorderSymlinkChanges) :
  tx.LinksSoFar (links ++ tx.itemLinks [val])
    (writeItem (tx', files) val).1.reorderSymlinkChanges
  := by
  have hsame : tx'.isEnabled val = tx.isEnabled val := by
    rw [isEnabled, same.enabled, isEnabled]
  by_cases henabled : tx'.isEnabled val = true
  · have hwrite : writeItem (tx', files) val = tx'.writeGadgetItemConfig val.item files :=
      if_pos henabled
    obtain ⟨requests, -, hresult⟩ : ∃ requests,
        Covers tx'.getDisableKeys known (tx'.itemKeys val.item) requests ∧
        tx'.writeGadgetItemConfig val.item files = _ :=
      writeGadgetItemConfig_eq prepared.files prepared.gadget prepared.config
    have hlinks : tx.itemLinks [val] =
        if val.item.isLinked then [tx.itemLink val.item] else [] := by
      rw [itemLinks, List.filter_cons, UsbGadgetTransaction.links, ← hsame, henabled,
        Bool.true_and]
      split
      · rfl
      · rfl
    rw [hwrite, hresult, hlinks]
    have hadded : SameGadget tx (tx'.add requests) := ⟨same.gadget, same.config, same.enabled⟩
    apply linkItem_linksSoFar hadded h
  · have hwrite : writeItem (tx', files) val = (tx'.disableGadgetItemConfig val.item, files) :=
      if_neg henabled
    have hlinks : tx.itemLinks [val] = [] := by
      rw [itemLinks, List.filter_cons_of_neg]
      · rfl
      · rw [UsbGadgetTransaction.links, ← hsame, Bool.eq_false_iff.mpr henabled, Bool.false_and]
        exact Bool.false_ne_true
    rw [hwrite, hlinks, List.append_nil, disableGadgetItemConfig]
    split
    · apply h
    · apply h

/-- What is asked for after some items have been written. -/
structure WrittenItems (tx tx' : UsbGadgetTransaction) (items : List GadgetConfigItemWithKey)
    (links : List Symlink) : Prop where
  same : SameGadget tx tx'
  grows : tx.changes ⊆ tx'.changes
  asked : ∀ f ∈ tx'.changes, f ∈ tx.changes ∨ (∃ val ∈ items, tx.Asked val f) ∨ f.IsConditional
  links : tx.LinksSoFar (links ++ tx.itemLinks items) tx'.reorderSymlinkChanges

/-- All that is requested for the items is asked for one of them. -/
theorem writtenItems_foldl (prepared : tx.Prepared known files)
    (h : tx.LinksSoFar links tx.reorderSymlinkChanges) :
  WrittenItems tx (items.foldl writeItem (tx, files)).1 items links
  := by
  induction items generalizing tx known files links with
  | nil =>
      refine ⟨⟨rfl, rfl, rfl⟩, List.Subset.refl _, fun f hf => Or.inl hf, ?_⟩
      rw [itemLinks, List.filter_nil, List.map_nil, List.append_nil]
      apply h
  | cons val items ih =>
      obtain ⟨requests, reorder, -, hwrite⟩ : tx.WritesItems known files [val] _ :=
        writesItems_writeItem prepared
      have hmem : ∀ f ∈ (writeItem (tx, files) val).1.changes, _ :=
        fun f hf => mem_writeItem prepared hf
      have hlinks : tx.LinksSoFar (links ++ tx.itemLinks [val])
          (writeItem (tx, files) val).1.reorderSymlinkChanges :=
        linksSoFar_writeItem prepared ⟨rfl, rfl, rfl⟩ h
      rw [List.foldl_cons]
      rw [hwrite] at hmem hlinks ⊢
      have hprepared : Prepared { tx with
          changes := tx.changes ++ requests
          reorderSymlinkChanges := reorder }
          (known ++ tx.writtenKeys val) (files ++ tx.enabledKeys [val]) := prepared.next
      generalize hbetween : ({ tx with
        changes := tx.changes ++ requests
        reorderSymlinkChanges := reorder } : UsbGadgetTransaction) = between at *
      have hsame : SameGadget tx between := by
        subst hbetween
        exact ⟨rfl, rfl, rfl⟩
      have hall : tx.itemLinks (val :: items) = tx.itemLinks [val] ++ between.itemLinks items := by
        subst hbetween
        rw [itemLinks, ← List.singleton_append, List.filter_append, List.map_append]
        rfl
      have hlinksBetween : between.LinksSoFar (links ++ tx.itemLinks [val])
          between.reorderSymlinkChanges := hlinks.transport hsame
      obtain ⟨same, grows, asked, hrest⟩ := ih hprepared hlinksBetween
      constructor
      · apply hsame.trans same
      · intro f hf
        apply grows
        subst hbetween
        apply List.mem_append_left _ hf
      · intro f hf
        rcases asked f hf with h | ⟨other, hother, h⟩ | h
        · rcases hmem f h with h | h | h
          · exact Or.inl h
          · exact Or.inr (Or.inl ⟨val, List.mem_cons_self, h⟩)
          · exact Or.inr (Or.inr h)
        · exact Or.inr (Or.inl ⟨other, List.mem_cons_of_mem _ hother, hsame.asked h⟩)
        · exact Or.inr (Or.inr h)
      · rw [hall, ← List.append_assoc]
        apply hrest.transport hsame.symm

/-! ### The requests of the plan -/

/-- What a request of the plan asks for. -/
inductive PlanRequest (tx : UsbGadgetTransaction) (f : RequestedFileChange) : Prop where
  | mounted (path : f.changeKey = .path configFSPath) (before : f.changesBefore = [])
  | written (state : f.expectedState ∈ [.directory, .fileContentMatch, .fileWrite])
      (before : f.changesBefore = [])
  | item (val : GadgetConfigItemWithKey) (mem : val ∈ tx.orderedConfigItems)
      (asked : tx.Asked val f)
  | conditional (condition : f.IsConditional)
  | ordered (links : tx.OrdersLinks (tx.itemLinks tx.orderedConfigItems) f)

/-- What the requests of the plan ask for, and those that come before the links are ordered. -/
structure PlanRequests (tx : UsbGadgetTransaction) (plan : List RequestedFileChange) : Prop where
  requests : ∀ f ∈ plan, tx.PlanRequest f
  config : ∃ f ∈ unconditionalRequests plan, f.changeKey = .path tx.configC1Path ∧
    .path configFSPath ∈ f.dependsOn
  gadget : ∃ f ∈ unconditionalRequests plan, f.changeKey = .path tx.kvmGadgetPath ∧
    .path tx.configC1Path ∈ f.dependsOn
  reorder : ∃ f ∈ unconditionalRequests plan,
    tx.OrdersLinks (tx.itemLinks tx.orderedConfigItems) f

/-- Requests that write files before which nothing is changed may be added. -/
structure WritesMore (tx tx' : UsbGadgetTransaction) : Prop where
  reorder : tx'.reorderSymlinkChanges = tx.reorderSymlinkChanges
  grows : tx.changes ⊆ tx'.changes
  written : ∀ f ∈ tx'.changes, f ∈ tx.changes ∨
    f.expectedState ∈ [.directory, .fileContentMatch, .fileWrite] ∧ f.changesBefore = []

/-- Writing the controller adds to what is requested. -/
theorem writesMore_writeUDC :
  WritesMore tx tx.writeUDC
  := by
  constructor
  · rfl
  · apply List.subset_append_left
  · intro f hf
    rcases List.mem_append.mp hf with h | h
    · exact Or.inl h
    · rw [List.mem_singleton.mp h]
      exact Or.inr ⟨by simp, rfl⟩

/-- So does binding it again. -/
theorem writesMore_rebindUsb {ignoreUnbindError : Bool} :
  WritesMore tx (tx.rebindUsb ignoreUnbindError)
  := by
  constructor
  · rfl
  · exact List.subset_append_of_subset_left _ (List.subset_append_left _ _)
  · intro f hf
    rcases List.mem_append.mp hf with h | h
    · rcases List.mem_append.mp h with h | h
      · exact Or.inl h
      · rw [List.mem_singleton.mp h]
        exact Or.inr ⟨by simp [unbindChange], rfl⟩
    · rw [List.mem_singleton.mp h]
      exact Or.inr ⟨by simp [bindChange], rfl⟩

/-- Requests are added step by step. -/
theorem WritesMore.trans {tx'' : UsbGadgetTransaction} (first : WritesMore tx tx')
    (second : WritesMore tx' tx'') :
  WritesMore tx tx''
  := by
  use second.reorder.trans first.reorder, List.Subset.trans first.grows second.grows
  intro f hf
  rcases second.written f hf with h | h
  · apply first.written f h
  · exact Or.inr h

/-! ### The whole plan -/

/-- The transaction after the first directories have been asked for. -/
def madeDirectories (tx : UsbGadgetTransaction) : UsbGadgetTransaction :=
  (tx.mountConfigFS.createConfigPath.mkdirAll "gadget" tx.kvmGadgetPath
    "create kvm gadget path" [.path tx.configC1Path]).1

/-- The transaction after the items have been written. -/
def writtenItems (tx : UsbGadgetTransaction) : UsbGadgetTransaction :=
  (tx.orderedConfigItems.foldl writeItem (tx.madeDirectories, [.path tx.kvmGadgetPath])).1

/-- The transaction before the request that orders the links is added. -/
def finished (tx : UsbGadgetTransaction) (resetUsb : Bool) : UsbGadgetTransaction :=
  if resetUsb then tx.writtenItems.writeUDC.rebindUsb true else tx.writtenItems.writeUDC

/-- The configuration commits what has been requested. -/
theorem configureUsbGadget_eq_commit {resetUsb : Bool} :
  tx.configureUsbGadget resetUsb = (tx.finished resetUsb).commit
  := rfl

/-- Requesting the directories leaves the gadget. -/
theorem sameGadget_madeDirectories : SameGadget tx tx.madeDirectories := ⟨rfl, rfl, rfl⟩

/-- The directories in which the items are written have been asked for. -/
theorem prepared_madeDirectories :
  tx.madeDirectories.Prepared tx.baseKeys [.path tx.kvmGadgetPath]
  := by
  constructor
  · simp [baseKeys]
  · simp [baseKeys, madeDirectories, mountConfigFS, createConfigPath, mkdirAll, addFileChange]
  · simp [baseKeys, madeDirectories, mountConfigFS, createConfigPath, mkdirAll, addFileChange]

/-- What is asked for after the items have been written. -/
theorem writtenItems_madeDirectories (hreorder : tx.reorderSymlinkChanges = none) :
  WrittenItems tx.madeDirectories tx.writtenItems tx.orderedConfigItems []
  := by
  apply writtenItems_foldl prepared_madeDirectories
  change tx.madeDirectories.LinksSoFar [] tx.reorderSymlinkChanges
  rw [hreorder]
  rfl

/-- Finishing adds to what is requested. -/
theorem writesMore_finished {resetUsb : Bool} :
  WritesMore tx.writtenItems (tx.finished resetUsb)
  := by
  rw [finished]
  split
  · apply writesMore_writeUDC.trans writesMore_rebindUsb
  · apply writesMore_writeUDC

/-- The requests that make the first directories. -/
theorem mem_madeDirectories (hchanges : tx.changes = []) (h : f ∈ tx.madeDirectories.changes) :
  tx.PlanRequest f
  := by
  rcases List.mem_append.mp h with h | h
  · rcases List.mem_append.mp h with h | h
    · rcases List.mem_append.mp h with h | h
      · rw [hchanges] at h
        cases h
      · rw [List.mem_singleton.mp h]
        apply PlanRequest.mounted
        · simp [RequestedFileChange.changeKey]
        · rfl
    · rw [List.mem_singleton.mp h]
      apply PlanRequest.written
      · simp
      · rfl
  · rw [List.mem_singleton.mp h]
    apply PlanRequest.written
    · simp
    · rfl

/-- The plan mounts the configuration file system, makes directories, writes files, and removes
files and links. -/
theorem planRequests_configureUsbGadget {resetUsb : Bool} {plan : List RequestedFileChange}
    (hchanges : tx.changes = []) (hreorder : tx.reorderSymlinkChanges = none)
    (h : tx.configureUsbGadget resetUsb = some plan) :
  tx.PlanRequests plan
  := by
  obtain ⟨same, grows, asked, hlinks⟩ := writtenItems_madeDirectories hreorder
  replace hlinks := hlinks.transport sameGadget_madeDirectories.symm
  rw [List.nil_append] at hlinks
  have hmore : WritesMore tx.writtenItems (tx.finished resetUsb) := writesMore_finished
  rw [configureUsbGadget_eq_commit, commit] at h
  obtain ⟨reorder, hsome, hplan⟩ := Option.map_eq_some_iff.mp h
  rw [hmore.reorder] at hsome
  rw [hsome] at hlinks
  have hordered : tx.OrdersLinks (tx.itemLinks tx.orderedConfigItems)
      { reorder with component := "gadget-finalize" } := by
    obtain ⟨key, path, state, hlinks, errors, condition, before⟩ := hlinks
    use key, path, state, hlinks, errors, condition, before
  obtain rfl : (tx.finished resetUsb).changes ++
      [{ reorder with component := "gadget-finalize" }] = plan := hplan
  have hmem : ∀ f ∈ tx.madeDirectories.changes, f.condition = "" → f ∈ unconditionalRequests
      ((tx.finished resetUsb).changes ++ [{ reorder with component := "gadget-finalize" }]) := by
    intro f hf hcondition
    apply List.mem_filter.mpr
    constructor
    · apply List.mem_append_left
      apply hmore.grows (grows hf)
    · simpa [RequestedFileChange.IsConditional] using hcondition
  constructor
  · intro f hf
    rcases List.mem_append.mp hf with hf | hf
    · rcases hmore.written f hf with hf | ⟨hstate, hbefore⟩
      · rcases asked f hf with hf | ⟨val, hval, hasked⟩ | hcondition
        · apply mem_madeDirectories hchanges hf
        · exact PlanRequest.item val hval (sameGadget_madeDirectories.asked hasked)
        · exact PlanRequest.conditional hcondition
      · exact PlanRequest.written hstate hbefore
    · rw [List.mem_singleton.mp hf]
      exact PlanRequest.ordered hordered
  · refine ⟨_, hmem _ (List.mem_append_left _ (List.mem_append_right _ List.mem_cons_self)) rfl,
      ?_, ?_⟩
    · simp [RequestedFileChange.changeKey, mountConfigFS, addFileChange]
    · simp
  · refine ⟨_, hmem _ (List.mem_append_right _ List.mem_cons_self) rfl, ?_, ?_⟩
    · simp [RequestedFileChange.changeKey]
    · simp
  · refine ⟨_, List.mem_filter.mpr ⟨List.mem_append_right _ List.mem_cons_self, ?_⟩, hordered⟩
    simpa [RequestedFileChange.IsConditional] using hordered.condition

end UsbGadgetTransaction

end JetKvm.UsbPlan

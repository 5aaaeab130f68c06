import JetKvm.UsbPlan.Requested

/-!
# The attributes that the plan asks for

For every attribute of an enabled item the plan has a request that writes it, after the directory
that it is in. The directories of the items are made after that of the gadget. What is removed
before changes are the links of linked items.
-/

namespace JetKvm.UsbPlan

namespace UsbGadgetTransaction

variable {tx tx' tx'' : UsbGadgetTransaction} {item : GadgetConfigItem} {f : RequestedFileChange}
  {component description : String} {basePath path : Path} {files deps beforeChange : List ChangeKey}
  {text : String} {val : GadgetConfigItemWithKey} {items : List GadgetConfigItemWithKey}

/-- The paths of the attributes of an item, with their values. -/
def itemAttributes (tx : UsbGadgetTransaction) (item : GadgetConfigItem) : List (Path × String) :=
  (item.attrs.map fun attr => (joinPath tx.kvmGadgetPath item.path ++ [attr.1], attr.2)) ++
    (item.configAttrs.getD []).map fun attr =>
      (joinPath tx.configC1Path (item.configPath.getD []) ++ [attr.1], attr.2)

/-- The request writes an attribute, after the directory that it is in. -/
structure WritesAttribute (path : Path) (text : String) (f : RequestedFileChange) : Prop where
  changeKey : f.changeKey = .path path
  file : f.path = path
  state : f.expectedState = .fileContentMatch
  content : f.expectedContent = bytes text
  condition : f.condition = ""
  directory : .path path.dropLast ∈ f.dependsOn

/-- The directory is that of the gadget or of its configuration, or one of the requests makes it
after that of the gadget. -/
def MadeLater (tx : UsbGadgetTransaction) (requests : List RequestedFileChange) (dir : Path) :
    Prop :=
  dir = tx.kvmGadgetPath ∨ dir = tx.configC1Path ∨
    ∃ f ∈ requests, f.changeKey = .path dir ∧ f.condition = "" ∧
      .path tx.kvmGadgetPath ∈ f.dependsOn

/-! ### Requests are only added -/

/-- The transaction is about the same gadget, and has all earlier requests. -/
structure Grows (tx tx' : UsbGadgetTransaction) : Prop where
  same : SameGadget tx tx'
  changes : tx.changes ⊆ tx'.changes

/-- A transaction has the changes that it has. -/
theorem Grows.refl (tx : UsbGadgetTransaction) :
  Grows tx tx
  := ⟨⟨rfl, rfl, rfl⟩, List.Subset.refl _⟩

/-- It grows step by step. -/
theorem Grows.trans (first : Grows tx tx') (second : Grows tx' tx'') :
  Grows tx tx''
  := ⟨first.same.trans second.same, List.Subset.trans first.changes second.changes⟩

/-- A change is added at the end. -/
theorem grows_addFileChange (component : String) (f : RequestedFileChange) :
  Grows tx (tx.addFileChange component f).1
  := ⟨⟨rfl, rfl, rfl⟩, List.subset_append_left _ _⟩

/-- The directory of an item is added. -/
theorem grows_writeItemDirectory :
  Grows tx (tx.writeItemDirectory component basePath path description files).1
  := by
  rw [writeItemDirectory]
  split
  · apply grows_addFileChange
  · apply Grows.refl

/-- So are its attributes. -/
theorem grows_writeGadgetAttrs {attrs : GadgetAttributes} :
  Grows tx (tx.writeGadgetAttrs basePath attrs component beforeChange).1
  := by
  rw [writeGadgetAttrs_eq]
  exact ⟨⟨rfl, rfl, rfl⟩, List.subset_append_left _ _⟩

/-- So is its report descriptor. -/
theorem grows_writeReportDesc {reportDesc : Option (List UInt8)} :
  Grows tx (tx.writeReportDesc component path reportDesc beforeChange files).1
  := by
  apply grows_addFileChange

/-- So are the attributes of its configuration. -/
theorem grows_writeConfigAttrs {configAttrs : GadgetAttributes} :
  Grows tx (tx.writeConfigAttrs component path configAttrs beforeChange files).1
  := by
  rw [writeConfigAttrs]
  split
  · exact grows_writeItemDirectory.trans grows_writeGadgetAttrs
  · apply Grows.refl

/-- So is its link. -/
theorem grows_linkItem :
  Grows tx (tx.linkItem item path files)
  := by
  rw [linkItem]
  split
  · exact ⟨⟨rfl, rfl, rfl⟩, List.subset_append_left _ _⟩
  · apply Grows.refl

/-- So is all that belongs to it. -/
theorem grows_writeGadgetItemConfig :
  Grows tx (tx.writeGadgetItemConfig item files).1
  := by
  unfold writeGadgetItemConfig
  dsimp only
  apply Grows.trans _ grows_linkItem
  apply Grows.trans _ grows_writeConfigAttrs
  apply Grows.trans _ grows_writeReportDesc
  apply Grows.trans _ grows_writeGadgetAttrs
  apply grows_writeItemDirectory

variable {written : UsbGadgetTransaction × List ChangeKey}

/-- An item adds its changes, or removes its link. -/
theorem grows_writeItem :
  Grows written.1 (writeItem written val).1
  := by
  unfold writeItem
  split
  · apply grows_writeGadgetItemConfig
  · rw [disableGadgetItemConfig]
    split
    · apply Grows.refl
    · apply grows_addFileChange

/-- Items only add changes. -/
theorem grows_foldl :
  Grows written.1 (items.foldl writeItem written).1
  := by
  induction items generalizing written with
  | nil => apply Grows.refl
  | cons val items ih =>
      rw [List.foldl_cons]
      exact grows_writeItem.trans ih

/-! ### Attributes -/

/-- A directory that is made later is still made when more is requested. -/
theorem MadeLater.mono {requests requests' : List RequestedFileChange} {dir : Path}
    (h : tx.MadeLater requests dir) (hsub : requests ⊆ requests') :
  tx.MadeLater requests' dir
  := by
  obtain h | h | ⟨f, hf, h⟩ := h
  · exact Or.inl h
  · exact Or.inr (Or.inl h)
  · exact Or.inr (Or.inr ⟨f, hsub hf, h⟩)

/-- Whether it is depends on the gadget alone. -/
theorem SameGadget.madeLater {requests : List RequestedFileChange} {dir : Path}
    (same : SameGadget tx tx') (h : tx'.MadeLater requests dir) :
  tx.MadeLater requests dir
  := by
  rw [MadeLater, same.gadget, same.config] at h
  exact h

/-- So do the attributes of an item. -/
theorem SameGadget.itemAttributes_eq (same : SameGadget tx tx') (item : GadgetConfigItem) :
  tx'.itemAttributes item = tx.itemAttributes item
  := by
  rw [itemAttributes, same.gadget, same.config, itemAttributes]

/-- An attribute that is written has its request. -/
theorem exists_writesAttribute {attrs : GadgetAttributes} {attr : FileName × String}
    (hattr : attr ∈ attrs) :
  ∃ f ∈ (tx.writeGadgetAttrs basePath attrs component beforeChange).1.changes,
    WritesAttribute (basePath ++ [attr.1]) attr.2 f
  := by
  rw [writeGadgetAttrs_eq]
  refine ⟨_, List.mem_append_right _ (List.mem_map_of_mem hattr), ?_⟩
  constructor
  · simp [gadgetAttrChange, RequestedFileChange.changeKey]
  · rfl
  · rfl
  · rfl
  · rfl
  · simp [gadgetAttrChange]

/-- The directory of an item is made after that of the gadget. -/
theorem madeLater_writeItemDirectory (hbase : basePath = tx.kvmGadgetPath ∨
      basePath = tx.configC1Path) (hfiles : .path tx.kvmGadgetPath ∈ files) :
  tx.MadeLater (tx.writeItemDirectory component basePath path description files).1.changes path
  := by
  rw [writeItemDirectory]
  split
  · right
    right
    refine ⟨_, List.mem_append_right _ (List.mem_singleton_self _), ?_, rfl, hfiles⟩
    simp [RequestedFileChange.changeKey]
  · rename_i h
    rw [not_not] at h
    rw [h]
    exact hbase.imp_right Or.inl

/-- The files that are known remain known. -/
theorem subset_writeItemDirectory :
  files ⊆ (tx.writeItemDirectory component basePath path description files).2
  := by
  rw [writeItemDirectory]
  split
  · apply List.subset_append_left
  · apply List.Subset.refl

/-- An attribute in the configuration has its request, and its directory is made. -/
theorem attribute_writeConfigAttrs {place : Path} {configAttrs : GadgetAttributes}
    {attr : FileName × String} {known : List ChangeKey} (same : SameGadget tx tx')
    (hfiles : .path tx.kvmGadgetPath ∈ files) (hattr : attr ∈ configAttrs) :
  (∃ f ∈ ((tx'.writeConfigAttrs component (joinPath tx'.configC1Path place) configAttrs
        beforeChange files).1.linkItem item path known).changes,
      WritesAttribute (joinPath tx.configC1Path place ++ [attr.1]) attr.2 f) ∧
    tx.MadeLater ((tx'.writeConfigAttrs component (joinPath tx'.configC1Path place) configAttrs
        beforeChange files).1.linkItem item path known).changes (joinPath tx.configC1Path place)
  := by
  rw [writeConfigAttrs, if_pos (List.length_pos_of_mem hattr), ← same.config]
  constructor
  · obtain ⟨f, hf, hwrites⟩ := exists_writesAttribute hattr
    exact ⟨f, grows_linkItem.changes hf, hwrites⟩
  · apply same.madeLater
    rw [← same.gadget] at hfiles
    apply MadeLater.mono (madeLater_writeItemDirectory (Or.inr rfl) hfiles)
    exact (grows_writeGadgetAttrs.trans grows_linkItem).changes

/-- Every attribute of an item that is written has its request, and its directory is made. -/
theorem attribute_writeGadgetItemConfig (hfiles : .path tx.kvmGadgetPath ∈ files)
    (h : (path, text) ∈ tx.itemAttributes item) :
  (∃ f ∈ (tx.writeGadgetItemConfig item files).1.changes, WritesAttribute path text f) ∧
    tx.MadeLater (tx.writeGadgetItemConfig item files).1.changes path.dropLast
  := by
  unfold writeGadgetItemConfig
  dsimp only
  obtain h | h := List.mem_append.mp h
  · obtain ⟨attr, hattr, h⟩ := List.mem_map.mp h
    obtain ⟨rfl, rfl⟩ := Prod.mk.inj h
    rw [List.dropLast_concat]
    constructor
    · obtain ⟨f, hf, hwrites⟩ := exists_writesAttribute hattr
      refine ⟨f, ?_, hwrites⟩
      apply grows_linkItem.changes
      apply grows_writeConfigAttrs.changes
      apply grows_writeReportDesc.changes
      exact hf
    · apply MadeLater.mono (madeLater_writeItemDirectory (Or.inl rfl) hfiles)
      apply List.Subset.trans grows_writeGadgetAttrs.changes
      apply List.Subset.trans grows_writeReportDesc.changes
      apply List.Subset.trans grows_writeConfigAttrs.changes
      exact grows_linkItem.changes
  · obtain ⟨attr, hattr, h⟩ := List.mem_map.mp h
    obtain ⟨rfl, rfl⟩ := Prod.mk.inj h
    rw [List.dropLast_concat]
    apply attribute_writeConfigAttrs _ _ hattr
    · exact (grows_writeItemDirectory.trans
        (grows_writeGadgetAttrs.trans grows_writeReportDesc)).same
    · apply List.Subset.trans subset_writeItemDirectory
      apply List.Subset.trans (List.subset_append_left _ _) (List.subset_append_left _ _)
      exact hfiles

/-! ### The attributes of all items -/

/-- They remain so with the configuration. -/
theorem subset_writeConfigAttrs {configAttrs : GadgetAttributes} :
  files ⊆ (tx.writeConfigAttrs component path configAttrs beforeChange files).2
  := by
  rw [writeConfigAttrs]
  split
  · exact List.Subset.trans subset_writeItemDirectory (List.subset_append_left _ _)
  · apply List.Subset.refl

/-- They remain so with a whole item. -/
theorem subset_writeGadgetItemConfig :
  files ⊆ (tx.writeGadgetItemConfig item files).2
  := by
  unfold writeGadgetItemConfig
  dsimp only
  apply List.Subset.trans _ subset_writeConfigAttrs
  apply List.Subset.trans subset_writeItemDirectory
  apply List.Subset.trans (List.subset_append_left _ _) (List.subset_append_left _ _)

/-- They remain so whether the item is enabled or not. -/
theorem subset_writeItem :
  written.2 ⊆ (writeItem written val).2
  := by
  unfold writeItem
  split
  · apply subset_writeGadgetItemConfig
  · apply List.Subset.refl

/-- Every attribute of an enabled item has its request, and its directory is made. -/
theorem attribute_foldl (same : SameGadget tx written.1)
    (hfiles : .path tx.kvmGadgetPath ∈ written.2) (hval : val ∈ items)
    (henabled : tx.isEnabled val = true) (h : (path, text) ∈ tx.itemAttributes val.item) :
  (∃ f ∈ (items.foldl writeItem written).1.changes, WritesAttribute path text f) ∧
    tx.MadeLater (items.foldl writeItem written).1.changes path.dropLast
  := by
  induction items generalizing written with
  | nil => cases hval
  | cons first items ih =>
      rw [List.foldl_cons]
      obtain rfl | hval := List.mem_cons.mp hval
      · have hwrite : writeItem written val =
            written.1.writeGadgetItemConfig val.item written.2 := by
          apply if_pos
          rw [same.enabled]
          exact henabled
        rw [← same.itemAttributes_eq] at h
        rw [← same.gadget] at hfiles
        obtain ⟨⟨f, hf, hwrites⟩, hmade⟩ := attribute_writeGadgetItemConfig hfiles h
        rw [← hwrite] at hf hmade
        constructor
        · exact ⟨f, grows_foldl.changes hf, hwrites⟩
        · exact same.madeLater (hmade.mono grows_foldl.changes)
      · apply ih (same.trans grows_writeItem.same) (subset_writeItem hfiles) hval

/-! ### The links that are removed before changes -/

/-- The request removes the link of an item before changes. -/
structure RemovesLink (tx : UsbGadgetTransaction) (val : GadgetConfigItemWithKey)
    (f : RequestedFileChange) : Prop where
  links : tx.links val = true
  state : f.expectedState = .absent
  file : f.path = joinPath tx.configC1Path (val.item.configPath.getD [])

/-- Whether a link is removed depends on the gadget alone. -/
theorem SameGadget.removesLink (same : SameGadget tx tx') (h : tx'.RemovesLink val f) :
  tx.RemovesLink val f
  := by
  constructor
  · have hlinks := h.links
    rw [links, isEnabled, same.enabled] at hlinks
    exact hlinks
  · exact h.state
  · rw [← same.config]
    exact h.file

variable {known : List ChangeKey}

/-- The conditional request of an item removes its link. -/
theorem removesLink_of_mem_writeItem (prepared : tx.Prepared known files)
    (h : f ∈ (writeItem (tx, files) val).1.changes) (hcondition : f.IsConditional) :
  f ∈ tx.changes ∨ tx.RemovesLink val f
  := by
  by_cases henabled : tx.isEnabled val = true
  · have hwrite : writeItem (tx, files) val = tx.writeGadgetItemConfig val.item files :=
      if_pos henabled
    obtain ⟨requests, hcovers, hresult⟩ : ∃ requests,
        Covers tx.getDisableKeys known (tx.itemKeys val.item) requests ∧
        tx.writeGadgetItemConfig val.item files = _ :=
      writeGadgetItemConfig_eq prepared.files prepared.gadget prepared.config
    rw [hwrite, hresult, linkItem] at h
    have hadded : f ∈ (tx.add requests).changes → f ∈ tx.changes ∨ tx.RemovesLink val f := by
      intro h
      obtain h | h := List.mem_append.mp h
      · exact Or.inl h
      · exact absurd hcondition (hcovers.unconditional f h)
    split at h
    · rename_i hlinked
      obtain h | h := List.mem_append.mp h
      · exact hadded h
      · right
        rw [List.mem_singleton.mp h]
        exact ⟨by rw [links, henabled, hlinked, Bool.and_self], rfl, rfl⟩
    · exact hadded h
  · have hwrite : writeItem (tx, files) val = (tx.disableGadgetItemConfig val.item, files) :=
      if_neg henabled
    rw [hwrite, disableGadgetItemConfig] at h
    split at h
    · exact Or.inl h
    · obtain h | h := List.mem_append.mp h
      · exact Or.inl h
      · rw [List.mem_singleton.mp h] at hcondition
        exact absurd rfl hcondition

/-- A conditional change of the items removes a link. -/
theorem removesLink_of_mem_foldl (prepared : tx.Prepared known files)
    (h : f ∈ (items.foldl writeItem (tx, files)).1.changes) (hcondition : f.IsConditional) :
  f ∈ tx.changes ∨ ∃ val ∈ items, tx.RemovesLink val f
  := by
  induction items generalizing tx known files with
  | nil => exact Or.inl h
  | cons val items ih =>
      obtain ⟨requests, reorder, -, hwrite⟩ : tx.WritesItems known files [val] _ :=
        writesItems_writeItem prepared
      rw [List.foldl_cons, hwrite] at h
      have hnext : Prepared { tx with
          changes := tx.changes ++ requests
          reorderSymlinkChanges := reorder }
          (known ++ tx.writtenKeys val) (files ++ tx.enabledKeys [val]) := prepared.next
      have hmem : ∀ f ∈ tx.changes ++ requests, f.IsConditional →
          f ∈ tx.changes ∨ tx.RemovesLink val f := by
        intro f hf
        apply removesLink_of_mem_writeItem prepared
        rw [hwrite]
        exact hf
      obtain h | ⟨other, hother, h⟩ := ih hnext h
      · obtain h | h := hmem f h hcondition
        · exact Or.inl h
        · exact Or.inr ⟨val, List.mem_cons_self, h⟩
      · have same : SameGadget tx { tx with
            changes := tx.changes ++ requests
            reorderSymlinkChanges := reorder } := ⟨rfl, rfl, rfl⟩
        exact Or.inr ⟨other, List.mem_cons_of_mem _ hother, same.removesLink h⟩

/-! ### The plan -/

/-- What the plan asks for besides: every attribute of an enabled item is written, links are removed
before changes only, and the gadget is bound after the links have been ordered. -/
structure PlanAttributes (tx : UsbGadgetTransaction) (plan : List RequestedFileChange) : Prop where
  attributes : ∀ val ∈ tx.orderedConfigItems, tx.isEnabled val = true → ∀ path text,
    (path, text) ∈ tx.itemAttributes val.item →
      (∃ f ∈ plan, WritesAttribute path text f) ∧ tx.MadeLater plan path.dropLast
  conditional : ∀ f ∈ plan, f.IsConditional → ∃ val ∈ tx.orderedConfigItems, tx.RemovesLink val f
  udc : ∃ f ∈ plan, f.changeKey = .named "udc" ∧ f.path = tx.kvmGadgetPath ++ [file "UDC"] ∧
    f.condition = "" ∧ .named reorderKey ∈ f.dependsOn

/-- The plan of a whole configuration writes the attributes of the items. -/
theorem planAttributes_configureUsbGadget {resetUsb : Bool} {plan : List RequestedFileChange}
    (hchanges : tx.changes = []) (hreorder : tx.reorderSymlinkChanges = none)
    (h : tx.configureUsbGadget resetUsb = some plan) :
  tx.PlanAttributes plan
  := by
  have hsame : SameGadget tx tx.madeDirectories := sameGadget_madeDirectories
  let start : UsbGadgetTransaction × List ChangeKey :=
    (tx.madeDirectories, [.path tx.kvmGadgetPath])
  have hlinks : tx.madeDirectories.LinksSoFar (tx.madeDirectories.itemLinks tx.orderedConfigItems)
      tx.writtenItems.reorderSymlinkChanges := (writtenItems_madeDirectories hreorder).links
  obtain ⟨late, hlate, rfl⟩ : ∃ late, (∀ f ∈ late, f.condition = "") ∧
      plan = tx.writtenItems.writeUDC.changes ++ late := by
    rw [configureUsbGadget_eq_commit, commit] at h
    obtain ⟨reorder, hsome, hplan⟩ := Option.map_eq_some_iff.mp h
    have hlast : reorder.condition = "" := by
      rw [writesMore_finished.reorder] at hsome
      rw [hsome] at hlinks
      exact hlinks.condition
    cases resetUsb with
    | true =>
        refine ⟨[{ tx.writtenItems.writeUDC.unbindChange true with component := "udc" },
          { tx.writtenItems.writeUDC.bindChange with component := "udc" },
          { reorder with component := "gadget-finalize" }], ?_, ?_⟩
        · simp [hlast, unbindChange, bindChange]
        · rw [← hplan]
          simp [finished, rebindUsb, addFileChange, bindChange]
    | false =>
        refine ⟨[{ reorder with component := "gadget-finalize" }], ?_, ?_⟩
        · simp [hlast]
        · rw [← hplan]
          simp [finished, addFileChange]
  have hwritten : tx.writtenItems.changes ⊆ tx.writtenItems.writeUDC.changes ++ late :=
    List.subset_append_of_subset_left _ (List.subset_append_left _ _)
  constructor
  · intro val hval henabled path text hmem
    have hstart : SameGadget tx start.1 := hsame
    have hfiles : .path tx.kvmGadgetPath ∈ start.2 := List.mem_singleton_self _
    obtain ⟨⟨f, hf, hwrites⟩, hmade⟩ := attribute_foldl hstart hfiles hval henabled hmem
    exact ⟨⟨f, hwritten hf, hwrites⟩, hmade.mono hwritten⟩
  · intro f hf hcondition
    have hmem : f ∈ tx.writtenItems.changes := by
      obtain hf | hf := List.mem_append.mp hf
      · obtain hf | hf := List.mem_append.mp hf
        · exact hf
        · rw [List.mem_singleton.mp hf] at hcondition
          exact absurd rfl hcondition
      · exact absurd (hlate f hf) hcondition
    obtain hbase | ⟨val, hval, hremoves⟩ := removesLink_of_mem_foldl
      prepared_madeDirectories hmem hcondition
    · simp [madeDirectories, mountConfigFS, createConfigPath, mkdirAll, addFileChange,
        hchanges] at hbase
      obtain rfl | rfl | rfl := hbase
      · exact absurd rfl hcondition
      · exact absurd rfl hcondition
      · exact absurd rfl hcondition
    · exact ⟨val, hval, hsame.removesLink hremoves⟩
  · refine ⟨_, List.mem_append_left _ (List.mem_append_right _ (List.mem_singleton_self _)), ?_, ?_,
      rfl, ?_⟩
    · simp [RequestedFileChange.changeKey]
    · have hgrows : Grows start.1 (tx.orderedConfigItems.foldl writeItem start).1 := grows_foldl
      change tx.writtenItems.kvmGadgetPath ++ _ = _
      rw [writtenItems, hgrows.same.gadget]
      rfl
    · simp

/-- The plan is only made when some item is linked. -/
theorem any_links_of_configureUsbGadget {resetUsb : Bool} {plan : List RequestedFileChange}
    (hreorder : tx.reorderSymlinkChanges = none) (h : tx.configureUsbGadget resetUsb = some plan) :
  tx.orderedConfigItems.any tx.links = true
  := by
  obtain ⟨requests, reorder, hrequests, hwritten⟩ :
      tx.madeDirectories.WritesItems _ _ tx.orderedConfigItems _ :=
    writesItems_foldl prepared_madeDirectories
  rw [configureUsbGadget_eq_commit, commit] at h
  obtain ⟨last, hsome, -⟩ := Option.map_eq_some_iff.mp h
  have hlast : reorder = some last := by
    rw [← hsome, writesMore_finished.reorder, writtenItems, hwritten]
  have hisSome := hrequests.reorders.isSome
  have hbase : tx.madeDirectories.reorderSymlinkChanges = none := hreorder
  rw [hlast, hbase] at hisSome
  exact hisSome.symm

end UsbGadgetTransaction

end JetKvm.UsbPlan

import JetKvm.Library.Log
import JetKvm.UsbPlan.Resolver
import JetKvm.UsbPlan.Transaction
import Mathlib.Data.List.Induction

/-!
# What the plan consists of

The keys of the changes that a transaction adds, item after item, and what each change depends
on: the files of earlier changes, and changes that remove links. The change that orders the
links depends on the files written up to the last linked item.
-/

namespace JetKvm.UsbPlan

/-! ### The paths of an item -/

namespace GadgetConfigItem

variable (item : GadgetConfigItem)

/-- The directory of the item below the gadget, its attributes, and its report descriptor. -/
def gadgetPaths : List Path :=
  (if item.path = [] then [] else [item.path]) ++ item.fileNames.map fun name => item.path ++ [name]

/-- The directory of the item in the configuration, and its attributes there. -/
def configPaths : List Path :=
  let place := item.configPath.getD []
  if item.configFileNames = [] then []
  else (if place = [] then [] else [place]) ++ item.configFileNames.map fun name => place ++ [name]

end GadgetConfigItem

namespace UsbGadgetTransaction

variable (tx : UsbGadgetTransaction)

/-- The paths of the directories, attributes and report descriptors of an item. -/
def itemPaths (item : GadgetConfigItem) : List Path :=
  item.gadgetPaths.map (joinPath tx.kvmGadgetPath) ++
    item.configPaths.map (joinPath tx.configC1Path)

def itemKeys (item : GadgetConfigItem) : List ChangeKey :=
  (tx.itemPaths item).map .path

/-- More requests. -/
def add (requests : List RequestedFileChange) : UsbGadgetTransaction :=
  { tx with changes := tx.changes ++ requests }

@[simp]
theorem add_nil : tx.add [] = tx
  := by
  rw [add, List.append_nil]

@[simp]
theorem add_add (requests requests' : List RequestedFileChange) :
  (tx.add requests).add requests' = tx.add (requests ++ requests')
  := by
  simp [add]

end UsbGadgetTransaction

/-! ### Requests that depend on earlier ones -/

/-- The requests are for the given keys, depend only on the keys in `known` and on those of
earlier requests, and have only changes in `disable` made before. -/
structure Covers (disable known keys : List ChangeKey) (requests : List RequestedFileChange) :
    Prop where
  keys_eq : requests.map (·.changeKey) = keys
  unconditional : ∀ f ∈ requests, ¬ f.IsConditional
  changesBefore : ∀ f ∈ requests, f.changesBefore ⊆ disable
  backwards : Permitted (fun before f => f.dependsOn ⊆ known ++ before.map (·.changeKey)) requests

variable {disable known keys keys' : List ChangeKey}
  {requests requests' : List RequestedFileChange}

theorem covers_nil : Covers disable known [] []
  := by
  constructor
  · rfl
  · intro f hf
    cases hf
  · intro f hf
    cases hf
  · apply permitted_nil

theorem covers_singleton {f : RequestedFileChange} {key : ChangeKey} (hkey : f.changeKey = key)
    (hcondition : f.condition = "") (hbefore : f.changesBefore ⊆ disable)
    (hdeps : f.dependsOn ⊆ known) :
  Covers disable known [key] [f]
  := by
  constructor
  · rw [List.map_singleton, hkey]
  · intro f' hf'
    rw [List.mem_singleton.mp hf']
    exact fun h => h hcondition
  · intro f' hf'
    rw [List.mem_singleton.mp hf']
    apply hbefore
  · apply Permitted.cons
    · rw [List.map_nil, List.append_nil]
      apply hdeps
    · apply permitted_nil

theorem Covers.append (first : Covers disable known keys requests)
    (second : Covers disable (known ++ keys) keys' requests') :
  Covers disable known (keys ++ keys') (requests ++ requests')
  := by
  constructor
  · rw [List.map_append, first.keys_eq, second.keys_eq]
  · intro f hf
    rcases List.mem_append.mp hf with h | h
    · apply first.unconditional f h
    · apply second.unconditional f h
  · intro f hf
    rcases List.mem_append.mp hf with h | h
    · apply first.changesBefore f h
    · apply second.changesBefore f h
  · refine first.backwards.append ?_
    refine second.backwards.mono ?_
    intro before f h
    rw [List.map_append, first.keys_eq, ← List.append_assoc]
    apply h

theorem Covers.cons {f : RequestedFileChange} {key : ChangeKey} (hkey : f.changeKey = key)
    (hcondition : f.condition = "") (hbefore : f.changesBefore ⊆ disable)
    (hdeps : f.dependsOn ⊆ known) (rest : Covers disable (known ++ [key]) keys requests) :
  Covers disable known (key :: keys) (f :: requests)
  := (covers_singleton hkey hcondition hbefore hdeps).append rest

/-- Requests for two lists of keys are requests for the first one, followed by requests for the
second one. -/
theorem Covers.split (h : Covers disable known (keys ++ keys') requests) :
  ∃ first second, requests = first ++ second ∧ Covers disable known keys first ∧
    Covers disable (known ++ keys) keys' second
  := by
  obtain ⟨first, second, rfl, hfirst, hsecond⟩ := List.map_eq_append_iff.mp h.keys_eq
  use first, second, rfl
  constructor
  · constructor
    · apply hfirst
    · exact fun f hf => h.unconditional f (List.mem_append_left _ hf)
    · exact fun f hf => h.changesBefore f (List.mem_append_left _ hf)
    · apply h.backwards.left
  · constructor
    · apply hsecond
    · exact fun f hf => h.unconditional f (List.mem_append_right _ hf)
    · exact fun f hf => h.changesBefore f (List.mem_append_right _ hf)
    · refine h.backwards.right.mono ?_
      intro before f hdeps
      rw [List.map_append, hfirst, ← List.append_assoc] at hdeps
      apply hdeps

/-! ### Writing an item -/

namespace UsbGadgetTransaction

variable (tx : UsbGadgetTransaction) {files : List ChangeKey}
  {written : UsbGadgetTransaction × List ChangeKey}

/-- The key of a directory, unless it is the base itself. -/
def directoryKeys (basePath path : Path) : List ChangeKey :=
  if path = basePath then [] else [.path path]

/-- The keys of the attributes in a directory. -/
def attributeKeys (basePath : Path) (attrs : GadgetAttributes) : List ChangeKey :=
  attrs.map fun attr => .path (basePath ++ [attr.1])

/-- The keys of an item in the configuration. -/
def configAttributeKeys (path : Path) (attrs : GadgetAttributes) : List ChangeKey :=
  if attrs = [] then [] else directoryKeys tx.configC1Path path ++ attributeKeys path attrs

/-- The transaction is extended by requests for the given keys, which are put after the
files. -/
def Writes (known : List ChangeKey) (files keys : List ChangeKey)
    (written : UsbGadgetTransaction × List ChangeKey) : Prop :=
  ∃ requests, written = (tx.add requests, files ++ keys) ∧
    Covers tx.getDisableKeys known keys requests

variable {tx}

theorem Writes.append {result : UsbGadgetTransaction × List ChangeKey}
    (first : tx.Writes known files keys written)
    (second : written.1.Writes (known ++ keys) written.2 keys' result) :
  tx.Writes known files (keys ++ keys') result
  := by
  obtain ⟨requests, rfl, hfirst⟩ := first
  obtain ⟨requests', rfl, hsecond⟩ := second
  use requests ++ requests'
  constructor
  · rw [add_add, List.append_assoc]
  · apply hfirst.append hsecond

theorem Writes.files_subset (h : tx.Writes known files keys written) (hfiles : files ⊆ known) :
  written.2 ⊆ known ++ keys
  := by
  obtain ⟨requests, rfl, -⟩ := h
  exact List.append_subset.mpr ⟨List.Subset.trans hfiles (List.subset_append_left _ _),
    List.subset_append_right _ _⟩

theorem Writes.settings (h : tx.Writes known files keys written) :
  written.1.configC1Path = tx.configC1Path ∧ written.1.getDisableKeys = tx.getDisableKeys
  := by
  obtain ⟨requests, rfl, -⟩ := h
  exact ⟨rfl, rfl⟩

theorem writes_writeItemDirectory {component description : String} {basePath path : Path}
    (hfiles : files ⊆ known) :
  tx.Writes known files (directoryKeys basePath path)
    (tx.writeItemDirectory component basePath path description files)
  := by
  rw [writeItemDirectory, directoryKeys]
  by_cases h : path = basePath
  · rw [if_neg (not_not_intro h), if_pos h]
    exact ⟨[], by rw [add_nil, List.append_nil], covers_nil⟩
  · rw [if_pos h, if_neg h]
    exact ⟨_, rfl, covers_singleton rfl rfl (List.nil_subset _) hfiles⟩

theorem writeGadgetAttrs_eq {basePath : Path} {attrs : GadgetAttributes} {component : String}
    {beforeChange : List ChangeKey} :
  tx.writeGadgetAttrs basePath attrs component beforeChange =
    (tx.add (attrs.map fun attr =>
        { gadgetAttrChange basePath beforeChange attr with component := component }),
      attributeKeys basePath attrs)
  := by
  rw [attributeKeys]
  induction attrs using List.reverseRecOn with
  | nil =>
      rw [List.map_nil, List.map_nil, add_nil]
      rfl
  | append_singleton attrs attr ih =>
      rw [writeGadgetAttrs] at ih ⊢
      rw [List.foldl_append, ih, List.map_append, List.map_append, ← add_add]
      rfl

theorem covers_gadgetAttrs {basePath : Path} {attrs : GadgetAttributes} {component : String}
    {beforeChange : List ChangeKey} (hbase : .path basePath ∈ known)
    (hbefore : beforeChange ⊆ disable) :
  Covers disable known (attributeKeys basePath attrs)
    (attrs.map fun attr =>
      { gadgetAttrChange basePath beforeChange attr with component := component })
  := by
  induction attrs generalizing known with
  | nil => apply covers_nil
  | cons attr attrs ih =>
      apply Covers.cons
      · rfl
      · rfl
      · apply hbefore
      · exact fun key hkey => List.mem_singleton.mp hkey ▸ hbase
      · apply ih (List.mem_append_left _ hbase)

theorem writes_writeReportDesc {component : String} {gadgetItemPath : Path}
    {reportDesc : Option (List UInt8)} {beforeChange : List ChangeKey} (hfiles : files ⊆ known)
    (hbefore : beforeChange ⊆ tx.getDisableKeys) :
  tx.Writes known files [.path (gadgetItemPath ++ [GadgetConfigItem.reportDescName])]
    (tx.writeReportDesc component gadgetItemPath reportDesc beforeChange files)
  := by
  refine ⟨_, rfl, ?_⟩
  cases reportDesc with
  | none =>
      apply covers_singleton
      · rfl
      · rfl
      · apply hbefore
      · apply hfiles
  | some reportDesc =>
      apply covers_singleton
      · rfl
      · rfl
      · apply hbefore
      · apply hfiles

/-- The directory of an item is known once it has been made. -/
theorem mem_directoryKeys {basePath path : Path} (hbase : .path basePath ∈ known) :
  .path path ∈ known ++ directoryKeys basePath path
  := by
  rw [directoryKeys]
  by_cases h : path = basePath
  · rw [h]
    apply List.mem_append_left _ hbase
  · rw [if_neg h]
    apply List.mem_append_right _ (List.mem_singleton_self _)

theorem writes_writeConfigAttrs {component : String} {configItemPath : Path}
    {configAttrs : GadgetAttributes} {beforeChange : List ChangeKey} (hfiles : files ⊆ known)
    (hbefore : beforeChange ⊆ tx.getDisableKeys) (hbase : .path tx.configC1Path ∈ known) :
  tx.Writes known files (tx.configAttributeKeys configItemPath configAttrs)
    (tx.writeConfigAttrs component configItemPath configAttrs beforeChange files)
  := by
  rw [writeConfigAttrs, configAttributeKeys]
  by_cases h : configAttrs = []
  · subst h
    exact ⟨[], by simp, covers_nil⟩
  · rw [if_pos (List.length_pos_iff.mpr h), if_neg h]
    have hmade : tx.Writes known files _ (tx.writeItemDirectory component tx.configC1Path
        configItemPath "create config item directory" files) := writes_writeItemDirectory hfiles
    apply hmade.append
    dsimp only
    rw [writeGadgetAttrs_eq]
    refine ⟨_, rfl, covers_gadgetAttrs (mem_directoryKeys hbase) ?_⟩
    rw [hmade.settings.2]
    apply hbefore

theorem joinPath_eq_self {base path : Path} :
  joinPath base path = base ↔ path = []
  := by
  simp [joinPath]

variable {item : GadgetConfigItem}

theorem map_directoryPaths (base path : Path) :
  ((if path = [] then [] else [path]).map (joinPath base)).map ChangeKey.path =
    directoryKeys base (joinPath base path)
  := by
  rw [directoryKeys]
  by_cases h : path = []
  · rw [if_pos h, if_pos (joinPath_eq_self.mpr h)]
    rfl
  · rw [if_neg h, if_neg (mt joinPath_eq_self.mp h)]
    rfl

theorem map_attributePaths (base path : Path) (attrs : GadgetAttributes) :
  (((attrs.map Prod.fst).map fun name => path ++ [name]).map (joinPath base)).map ChangeKey.path =
    attributeKeys (joinPath base path) attrs
  := by
  simp [attributeKeys, joinPath, Function.comp_def]

/-- The keys of an item in the gadget, in the order in which they are written. -/
theorem gadgetKeys_eq :
  (item.gadgetPaths.map (joinPath tx.kvmGadgetPath)).map ChangeKey.path =
    directoryKeys tx.kvmGadgetPath (joinPath tx.kvmGadgetPath item.path) ++
      attributeKeys (joinPath tx.kvmGadgetPath item.path) item.attrs ++
      [.path (joinPath tx.kvmGadgetPath item.path ++ [GadgetConfigItem.reportDescName])]
  := by
  rw [GadgetConfigItem.gadgetPaths, GadgetConfigItem.fileNames, List.map_append, List.map_append,
    map_directoryPaths, List.map_append, List.map_append, List.map_append, map_attributePaths,
    List.append_assoc]
  simp [joinPath]

/-- The keys of an item in the configuration, in the order in which they are written. -/
theorem configKeys_eq :
  (item.configPaths.map (joinPath tx.configC1Path)).map ChangeKey.path =
    tx.configAttributeKeys (joinPath tx.configC1Path (item.configPath.getD []))
      (item.configAttrs.getD [])
  := by
  rw [GadgetConfigItem.configPaths, GadgetConfigItem.configFileNames, configAttributeKeys]
  by_cases hattrs : item.configAttrs.getD [] = []
  · simp [hattrs]
  · rw [if_neg hattrs, if_neg (mt List.map_eq_nil_iff.mp hattrs), List.map_append,
      List.map_append, map_directoryPaths, map_attributePaths]

/-- The keys of an item, in the order in which they are written. -/
theorem itemKeys_eq :
  tx.itemKeys item =
    directoryKeys tx.kvmGadgetPath (joinPath tx.kvmGadgetPath item.path) ++
      attributeKeys (joinPath tx.kvmGadgetPath item.path) item.attrs ++
      [.path (joinPath tx.kvmGadgetPath item.path ++ [GadgetConfigItem.reportDescName])] ++
      tx.configAttributeKeys (joinPath tx.configC1Path (item.configPath.getD []))
        (item.configAttrs.getD [])
  := by
  rw [itemKeys, itemPaths, List.map_append, gadgetKeys_eq, configKeys_eq]

/-- The attributes of an item, after what has been written of it before. -/
theorem Writes.writeGadgetAttrs (h : tx.Writes known files keys written) {basePath : Path}
    {attrs : GadgetAttributes} {component : String} {beforeChange : List ChangeKey}
    (hbase : .path basePath ∈ known ++ keys) (hbefore : beforeChange ⊆ tx.getDisableKeys) :
  tx.Writes known files (keys ++ attributeKeys basePath attrs)
    ((written.1.writeGadgetAttrs basePath attrs component beforeChange).1,
      written.2 ++ (written.1.writeGadgetAttrs basePath attrs component beforeChange).2)
  := by
  apply h.append
  rw [writeGadgetAttrs_eq]
  refine ⟨_, rfl, covers_gadgetAttrs hbase ?_⟩
  rw [h.settings.2]
  apply hbefore

/-- An item is written by requests for its keys. At last it is linked. -/
theorem writeGadgetItemConfig_eq (hfiles : files ⊆ known) (hgadget : .path tx.kvmGadgetPath ∈ known)
    (hconfig : .path tx.configC1Path ∈ known) :
  ∃ requests, Covers tx.getDisableKeys known (tx.itemKeys item) requests ∧
    tx.writeGadgetItemConfig item files =
      ((tx.add requests).linkItem item (joinPath tx.kvmGadgetPath item.path)
          (files ++ tx.itemKeys item),
        files ++ tx.itemKeys item)
  := by
  let gadgetItemPath := joinPath tx.kvmGadgetPath item.path
  let made := tx.writeItemDirectory item.device tx.kvmGadgetPath gadgetItemPath
    "create gadget item directory" files
  let beforeChange := if item.isLinked then made.1.getDisableKeys else []
  let withAttrs := made.1.writeGadgetAttrs gadgetItemPath item.attrs item.device beforeChange
  let withReport := withAttrs.1.writeReportDesc item.device gadgetItemPath item.reportDesc
    beforeChange (made.2 ++ withAttrs.2)
  let configItemPath := joinPath withReport.1.configC1Path (item.configPath.getD [])
  let withConfig := withReport.1.writeConfigAttrs item.device configItemPath
    (item.configAttrs.getD []) beforeChange withReport.2
  have hmade : tx.Writes known files _ made := writes_writeItemDirectory hfiles
  have hbefore : beforeChange ⊆ tx.getDisableKeys := by
    unfold beforeChange
    rw [hmade.settings.2]
    split
    · apply List.Subset.refl
    · apply List.nil_subset
  have hattrs : tx.Writes known files _ (withAttrs.1, made.2 ++ withAttrs.2) :=
    hmade.writeGadgetAttrs (mem_directoryKeys hgadget) hbefore
  have hbeforeAttrs : beforeChange ⊆ withAttrs.1.getDisableKeys := by
    have hsettings : withAttrs.1.getDisableKeys = tx.getDisableKeys := hattrs.settings.2
    rw [hsettings]
    apply hbefore
  have hreport : tx.Writes known files _ withReport :=
    hattrs.append (writes_writeReportDesc (hattrs.files_subset hfiles) hbeforeAttrs)
  have hconfigKnown : .path withReport.1.configC1Path ∈ known := by
    rw [hreport.settings.1]
    apply hconfig
  have hbeforeReport : beforeChange ⊆ withReport.1.getDisableKeys := by
    rw [hreport.settings.2]
    apply hbefore
  have hwritten : tx.Writes known files _ withConfig :=
    hreport.append (writes_writeConfigAttrs (hreport.files_subset hfiles) hbeforeReport
      (List.mem_append_left _ hconfigKnown))
  obtain ⟨requests, hresult, hcovers⟩ := hwritten
  use requests
  have hconfigKeys : withReport.1.configAttributeKeys configItemPath (item.configAttrs.getD []) =
      tx.configAttributeKeys (joinPath tx.configC1Path (item.configPath.getD []))
        (item.configAttrs.getD []) := by
    unfold configAttributeKeys configItemPath
    rw [hreport.settings.1]
  have hkeys : tx.itemKeys item = _ := itemKeys_eq
  rw [hconfigKeys, ← hkeys] at hresult hcovers
  use hcovers
  have hwrite : tx.writeGadgetItemConfig item files =
      (withConfig.1.linkItem item gadgetItemPath withConfig.2, withConfig.2) := rfl
  rw [hwrite, hresult]

end UsbGadgetTransaction

/-! ### Writing all items -/

/-- The change that orders the links is unconditional and has nothing made before it. -/
structure IsReorder (f : RequestedFileChange) : Prop where
  key : f.key = UsbGadgetTransaction.reorderKey
  condition : f.condition = ""
  beforeChange : f.beforeChange = none

def reorderDeps (reorder : Option RequestedFileChange) : List ChangeKey :=
  (reorder.map (·.dependsOn)).getD []

/-- The change that orders the links gets more dependencies, and comes into being when an item
is linked. -/
structure Reorders (linked : Bool) (deps : List ChangeKey)
    (before after : Option RequestedFileChange) : Prop where
  isSome : after.isSome = (before.isSome || linked)
  deps_eq : reorderDeps after = reorderDeps before ++ deps
  isReorder : (∀ f ∈ before, IsReorder f) → ∀ f ∈ after, IsReorder f

theorem Reorders.refl (reorder : Option RequestedFileChange) :
  Reorders false [] reorder reorder
  := ⟨(Bool.or_false _).symm, (List.append_nil _).symm, id⟩

theorem Reorders.trans {linked linked' : Bool} {deps deps' : List ChangeKey}
    {reorder reorder' reorder'' : Option RequestedFileChange}
    (first : Reorders linked deps reorder reorder')
    (second : Reorders linked' deps' reorder' reorder'') :
  Reorders (linked || linked') (deps ++ deps') reorder reorder''
  := by
  constructor
  · rw [second.isSome, first.isSome, Bool.or_assoc]
  · rw [second.deps_eq, first.deps_eq, List.append_assoc]
  · exact fun h => second.isReorder (first.isReorder h)

namespace UsbGadgetTransaction

variable (tx : UsbGadgetTransaction)

def isEnabled (val : GadgetConfigItemWithKey) : Bool :=
  tx.isGadgetConfigItemEnabled val.key

/-- The item is enabled and linked. -/
def links (val : GadgetConfigItemWithKey) : Bool :=
  tx.isEnabled val && val.item.isLinked

/-- The keys of what is written of an item, or of its link that is removed. -/
def writtenKeys (val : GadgetConfigItemWithKey) : List ChangeKey :=
  if tx.isEnabled val then tx.itemKeys val.item
  else val.item.configPath.toList.map fun path => .path (joinPath tx.configC1Path path)

/-- The keys of the enabled items. -/
def enabledKeys (items : List GadgetConfigItemWithKey) : List ChangeKey :=
  (items.filter tx.isEnabled).flatMap fun val => tx.itemKeys val.item

/-- What the change that orders the links depends on: for each linked item, the files written
up to that item. -/
def linkedFiles (files : List ChangeKey) : List GadgetConfigItemWithKey → List ChangeKey
  | [] => []
  | val :: items =>
      (if tx.links val then files ++ tx.enabledKeys [val] else []) ++
        linkedFiles (files ++ tx.enabledKeys [val]) items

/-- The requests for some items, and what becomes of the change that orders the links. -/
structure ItemRequests (known files : List ChangeKey) (items : List GadgetConfigItemWithKey)
    (requests : List RequestedFileChange) (before after : Option RequestedFileChange) :
    Prop where
  covers : Covers tx.getDisableKeys known (items.flatMap tx.writtenKeys)
    (unconditionalRequests requests)
  conditional_keys : (conditionalRequests requests).map (·.changeKey) =
    (items.filter tx.links).map fun val => .named (disableKey val.item.device)
  conditional_deps : ∀ f ∈ conditionalRequests requests, f.dependsOn ++ f.changesBefore = []
  reorders : Reorders (items.any tx.links) (tx.linkedFiles files items) before after

/-- The transaction after the items have been written, with the files that are there. -/
def WritesItems (known files : List ChangeKey) (items : List GadgetConfigItemWithKey)
    (result : UsbGadgetTransaction × List ChangeKey) : Prop :=
  ∃ requests reorder,
    tx.ItemRequests known files items requests tx.reorderSymlinkChanges reorder ∧
    result =
      ({ tx with changes := tx.changes ++ requests, reorderSymlinkChanges := reorder },
        files ++ tx.enabledKeys items)

variable {tx} {files : List ChangeKey} {val : GadgetConfigItemWithKey}
  {items : List GadgetConfigItemWithKey}

theorem unconditionalRequests_append :
  unconditionalRequests (requests ++ requests') =
    unconditionalRequests requests ++ unconditionalRequests requests'
  := List.filter_append ..

theorem conditionalRequests_append :
  conditionalRequests (requests ++ requests') =
    conditionalRequests requests ++ conditionalRequests requests'
  := List.filter_append ..

theorem unconditionalRequests_eq_self (h : ∀ f ∈ requests, ¬ f.IsConditional) :
  unconditionalRequests requests = requests
  := List.filter_eq_self.mpr fun f hf => decide_eq_true (h f hf)

theorem conditionalRequests_eq_nil (h : ∀ f ∈ requests, ¬ f.IsConditional) :
  conditionalRequests requests = []
  := List.filter_eq_nil_iff.mpr fun f hf => by simpa using h f hf

/-- A disabled item has its link removed. -/
theorem writesItems_disabled (h : tx.isEnabled val = false) :
  tx.WritesItems known files [val] (tx.disableGadgetItemConfig val.item, files)
  := by
  have hlinks : tx.links val = false := by
    rw [links, h, Bool.false_and]
  have hnone : ∀ requests, Covers tx.getDisableKeys known (tx.writtenKeys val) requests →
      tx.ItemRequests known files [val] requests tx.reorderSymlinkChanges
        tx.reorderSymlinkChanges := by
    intro requests hcovers
    constructor
    · rw [unconditionalRequests_eq_self hcovers.unconditional]
      simpa using hcovers
    · rw [conditionalRequests_eq_nil hcovers.unconditional]
      simp [hlinks]
    · rw [conditionalRequests_eq_nil hcovers.unconditional]
      exact nofun
    · simpa [linkedFiles, hlinks] using Reorders.refl tx.reorderSymlinkChanges
  have hkeys : tx.enabledKeys [val] = [] := by
    simp [enabledKeys, h]
  rw [WritesItems, hkeys, List.append_nil]
  rw [writtenKeys, h] at hnone
  rw [disableGadgetItemConfig]
  cases hpath : val.item.configPath with
  | none =>
      rw [hpath] at hnone
      refine ⟨[], _, hnone [] covers_nil, ?_⟩
      simp
  | some configPath =>
      rw [hpath] at hnone
      refine ⟨_, _, hnone _ (covers_singleton rfl rfl (List.nil_subset _) (List.nil_subset _)),
        rfl⟩

/-- What is known while the items are written: the directories are there. -/
structure Prepared (tx : UsbGadgetTransaction) (known files : List ChangeKey) : Prop where
  files : files ⊆ known
  gadget : .path tx.kvmGadgetPath ∈ known
  config : .path tx.configC1Path ∈ known

/-- An item is linked by a conditional change, and by the change that orders the links. -/
theorem linkItem_linked (tx : UsbGadgetTransaction) {item : GadgetConfigItem} (path : Path)
    (files : List ChangeKey) (h : item.isLinked = true) :
  ∃ f reorder, f.IsConditional ∧ f.changeKey = .named (disableKey item.device) ∧
    f.dependsOn ++ f.changesBefore = [] ∧
    Reorders true files tx.reorderSymlinkChanges (some reorder) ∧
    tx.linkItem item path files =
      { tx with changes := tx.changes ++ [f], reorderSymlinkChanges := some reorder }
  := by
  rw [linkItem, if_pos h]
  refine ⟨_, _, ?_, ?_, ?_, ?_, rfl⟩
  · change "beforeChange" ≠ ""
    decide
  · simp [RequestedFileChange.changeKey, disableKey]
  · rfl
  · constructor
    · simp
    · cases hreorder : tx.reorderSymlinkChanges with
      | none => simp [reorderDeps, addFileChange, hreorder]
      | some f => simp [reorderDeps, addFileChange, hreorder]
    · intro hall f hf
      cases hreorder : tx.reorderSymlinkChanges with
      | none =>
          simp only [addFileChange, hreorder, Option.getD_none, Option.mem_some_iff] at hf
          subst hf
          exact ⟨rfl, rfl, rfl⟩
      | some f' =>
          have hf' := hall f' hreorder
          simp only [addFileChange, hreorder, Option.getD_some, Option.mem_some_iff] at hf
          subst hf
          exact ⟨hf'.key, hf'.condition, hf'.beforeChange⟩

theorem writesItems_enabled (prepared : tx.Prepared known files) (h : tx.isEnabled val = true) :
  tx.WritesItems known files [val] (tx.writeGadgetItemConfig val.item files)
  := by
  obtain ⟨requests, hcovers, hwrite⟩ : ∃ requests,
      Covers tx.getDisableKeys known (tx.itemKeys val.item) requests ∧
      tx.writeGadgetItemConfig val.item files = _ :=
    writeGadgetItemConfig_eq prepared.files prepared.gadget prepared.config
  have hkeys : tx.enabledKeys [val] = tx.itemKeys val.item := by
    simp [enabledKeys, h]
  have hwritten : tx.writtenKeys val = tx.itemKeys val.item := by
    rw [writtenKeys, if_pos h]
  have hown : unconditionalRequests requests = requests :=
    unconditionalRequests_eq_self hcovers.unconditional
  have hconditional : conditionalRequests requests = [] :=
    conditionalRequests_eq_nil hcovers.unconditional
  rw [WritesItems, hwrite, hkeys]
  by_cases hlinked : val.item.isLinked
  · have hlinks : tx.links val = true := by
      rw [links, h, hlinked, Bool.and_self]
    obtain ⟨f, reorder, hf, hkey, hdeps, hreorders, hlink⟩ :=
      linkItem_linked (tx.add requests) (joinPath tx.kvmGadgetPath val.item.path)
        (files ++ tx.itemKeys val.item) hlinked
    have hreorders : Reorders true (files ++ tx.itemKeys val.item) tx.reorderSymlinkChanges
      (some reorder) := hreorders
    have hfOwn : unconditionalRequests [f] = [] := by
      simp [unconditionalRequests, hf]
    have hfConditional : conditionalRequests [f] = [f] := by
      simp [conditionalRequests, hf]
    refine ⟨requests ++ [f], some reorder, ?_, ?_⟩
    · constructor
      · rw [unconditionalRequests_append, hown, hfOwn, List.append_nil, List.flatMap_singleton,
          hwritten]
        apply hcovers
      · rw [conditionalRequests_append, hconditional, hfConditional]
        simp [hlinks, hkey]
      · rw [conditionalRequests_append, hconditional, hfConditional]
        intro f' hf'
        rw [List.mem_singleton.mp hf']
        apply hdeps
      · simpa [linkedFiles, hlinks, hkeys] using hreorders
    · rw [hlink]
      simp [add]
  · have hlinks : tx.links val = false := by
      rw [links, h, Bool.true_and]
      simpa using hlinked
    refine ⟨requests, tx.reorderSymlinkChanges, ?_, ?_⟩
    · constructor
      · rw [hown, List.flatMap_singleton, hwritten]
        apply hcovers
      · rw [hconditional]
        simp [hlinks]
      · rw [hconditional]
        intro f' hf'
        cases hf'
      · simpa [linkedFiles, hlinks] using Reorders.refl tx.reorderSymlinkChanges
    · rw [linkItem, if_neg hlinked]
      rfl

theorem writesItems_writeItem (prepared : tx.Prepared known files) :
  tx.WritesItems known files [val] (writeItem (tx, files) val)
  := by
  by_cases h : tx.isEnabled val = true
  · have hwrite : writeItem (tx, files) val = tx.writeGadgetItemConfig val.item files := if_pos h
    rw [hwrite]
    apply writesItems_enabled prepared h
  · have hwrite : writeItem (tx, files) val = (tx.disableGadgetItemConfig val.item, files) :=
      if_neg h
    rw [hwrite]
    apply writesItems_disabled (Bool.eq_false_iff.mpr h)

theorem enabledKeys_subset_writtenKeys :
  tx.enabledKeys [val] ⊆ tx.writtenKeys val
  := by
  by_cases h : tx.isEnabled val = true
  · simp [enabledKeys, writtenKeys, h]
  · simp [enabledKeys, h]

/-- The settings of a transaction, on which the keys depend, stay. -/
theorem linkedFiles_changes (tx : UsbGadgetTransaction) (changes : List RequestedFileChange)
    (reorder : Option RequestedFileChange) (files : List ChangeKey)
    (items : List GadgetConfigItemWithKey) :
  linkedFiles { tx with changes := changes, reorderSymlinkChanges := reorder } files items =
    tx.linkedFiles files items
  := by
  induction items generalizing files with
  | nil => rfl
  | cons val items ih =>
      rw [linkedFiles, ih]
      rfl

theorem itemRequests_of_changes {changes : List RequestedFileChange}
    {reorder before after : Option RequestedFileChange}
    (h : ItemRequests { tx with changes := changes, reorderSymlinkChanges := reorder } known files
      items requests before after) :
  tx.ItemRequests known files items requests before after
  := by
  have hreorders := h.reorders
  rw [linkedFiles_changes] at hreorders
  exact ⟨h.covers, h.conditional_keys, h.conditional_deps, hreorders⟩

theorem enabledKeys_cons :
  tx.enabledKeys (val :: items) = tx.enabledKeys [val] ++ tx.enabledKeys items
  := by
  rw [enabledKeys, ← List.singleton_append, List.filter_append, List.flatMap_append]
  rfl

/-- Some items, and then others. -/
theorem ItemRequests.cons {before between after : Option RequestedFileChange}
    (first : tx.ItemRequests known files [val] requests before between)
    (second : tx.ItemRequests (known ++ tx.writtenKeys val) (files ++ tx.enabledKeys [val]) items
      requests' between after) :
  tx.ItemRequests known files (val :: items) (requests ++ requests') before after
  := by
  have hcovers := first.covers
  rw [List.flatMap_singleton] at hcovers
  constructor
  · rw [unconditionalRequests_append, List.flatMap_cons]
    apply hcovers.append second.covers
  · rw [conditionalRequests_append, List.map_append, first.conditional_keys,
      second.conditional_keys, ← List.map_append, ← List.filter_append, List.singleton_append]
  · rw [conditionalRequests_append]
    intro f hf
    rcases List.mem_append.mp hf with h | h
    · apply first.conditional_deps f h
    · apply second.conditional_deps f h
  · have hboth := first.reorders.trans second.reorders
    simpa [linkedFiles] using hboth

/-- The directories are still there when an item has been written. -/
theorem Prepared.next {changes : List RequestedFileChange} {reorder : Option RequestedFileChange}
    (prepared : tx.Prepared known files) :
  Prepared { tx with changes := changes, reorderSymlinkChanges := reorder }
    (known ++ tx.writtenKeys val) (files ++ tx.enabledKeys [val])
  := by
  constructor
  · exact List.append_subset.mpr
      ⟨List.Subset.trans prepared.files (List.subset_append_left _ _),
        List.Subset.trans enabledKeys_subset_writtenKeys (List.subset_append_right _ _)⟩
  · exact List.mem_append_left _ prepared.gadget
  · exact List.mem_append_left _ prepared.config

/-- The items are written one after the other. -/
theorem writesItems_foldl (prepared : tx.Prepared known files) :
  tx.WritesItems known files items (items.foldl writeItem (tx, files))
  := by
  induction items generalizing tx known files with
  | nil =>
      refine ⟨[], tx.reorderSymlinkChanges, ?_, by simp [enabledKeys]⟩
      exact ⟨covers_nil, rfl, nofun, Reorders.refl _⟩
  | cons val items ih =>
      obtain ⟨requests, reorder, hfirst, hwrite⟩ : tx.WritesItems known files [val] _ :=
        writesItems_writeItem prepared
      let between : UsbGadgetTransaction :=
        { tx with changes := tx.changes ++ requests, reorderSymlinkChanges := reorder }
      have hprepared : between.Prepared (known ++ tx.writtenKeys val)
          (files ++ tx.enabledKeys [val]) := prepared.next
      obtain ⟨requests', reorder', hsecond, hrest⟩ := ih hprepared
      refine ⟨requests ++ requests', reorder', hfirst.cons (itemRequests_of_changes hsecond), ?_⟩
      have hkeys : tx.enabledKeys (val :: items) =
          tx.enabledKeys [val] ++ between.enabledKeys items := enabledKeys_cons
      rw [List.foldl_cons, hwrite, hrest, hkeys, ← List.append_assoc, ← List.append_assoc]

/-! ### The whole plan -/

/-- An unconditional change before which no other is made. -/
structure Requests (f : RequestedFileChange) (key : ChangeKey) (deps : List ChangeKey) : Prop where
  changeKey : f.changeKey = key
  dependsOn : f.dependsOn = deps
  changesBefore : f.changesBefore = []
  condition : f.condition = ""

theorem Requests.covers {f : RequestedFileChange} {key : ChangeKey} {deps : List ChangeKey}
    (h : Requests f key deps) (hdeps : deps ⊆ known) :
  Covers disable known [key] [f]
  := by
  apply covers_singleton h.changeKey h.condition
  · rw [h.changesBefore]
    apply List.nil_subset
  · rw [h.dependsOn]
    apply hdeps

theorem exists_addFileChange (tx : UsbGadgetTransaction) (component : String)
    {f : RequestedFileChange} {key : ChangeKey} {deps : List ChangeKey} (h : Requests f key deps) :
  ∃ f', (tx.addFileChange component f).1 = tx.add [f'] ∧ Requests f' key deps
  := ⟨{ f with component := component }, rfl, h.changeKey, h.dependsOn, h.changesBefore,
    h.condition⟩

variable (tx)

/-- The directories that are made first. -/
def baseKeys : List ChangeKey :=
  [.path configFSPath, .path tx.configC1Path, .path tx.kvmGadgetPath]

/-- The files on which the links depend. -/
def reorderFiles : List ChangeKey :=
  tx.linkedFiles [.path tx.kvmGadgetPath] tx.orderedConfigItems

/-- The parts of the plan: the directories, the items, and the links and the controller. -/
structure PlanParts (first requests : List RequestedFileChange)
    (reorder udc unbind bind : RequestedFileChange) : Prop where
  first : Covers tx.getDisableKeys [] tx.baseKeys first
  requests : ∃ after, tx.ItemRequests tx.baseKeys [.path tx.kvmGadgetPath] tx.orderedConfigItems
    requests none after
  reorder : Requests reorder (.named reorderKey) tx.reorderFiles
  udc : Requests udc (.named "udc") [.named reorderKey]
  unbind : Requests unbind tx.unbindKey [.named "udc"]
  bind : Requests bind tx.bindKey [tx.unbindKey]

theorem makeDirectories_eq :
  ∃ first, (tx.mountConfigFS.createConfigPath.mkdirAll "gadget" tx.kvmGadgetPath
      "create kvm gadget path" [.path tx.configC1Path]).1 = tx.add first ∧
    Covers tx.getDisableKeys [] tx.baseKeys first
  := by
  obtain ⟨mount, hmountEq, hmount⟩ : ∃ f, tx.mountConfigFS = tx.add [f] ∧
      Requests f (.path configFSPath) [] :=
    exists_addFileChange tx _ ⟨rfl, rfl, rfl, rfl⟩
  obtain ⟨config, hconfigEq, hconfig⟩ : ∃ f,
      (tx.add [mount]).createConfigPath = (tx.add [mount]).add [f] ∧
      Requests f (.path tx.configC1Path) [.path configFSPath] :=
    exists_addFileChange (tx.add [mount]) _ ⟨rfl, rfl, rfl, rfl⟩
  obtain ⟨gadget, hgadgetEq, hgadget⟩ : ∃ f, (((tx.add [mount]).add [config]).mkdirAll "gadget"
        tx.kvmGadgetPath "create kvm gadget path" [.path tx.configC1Path]).1 =
        ((tx.add [mount]).add [config]).add [f] ∧
      Requests f (.path tx.kvmGadgetPath) [.path tx.configC1Path] :=
    exists_addFileChange ((tx.add [mount]).add [config]) _ ⟨rfl, rfl, rfl, rfl⟩
  use [mount, config, gadget]
  constructor
  · rw [hmountEq, hconfigEq, hgadgetEq, add_add, add_add]
    rfl
  · apply (hmount.covers (List.nil_subset _)).append
    apply (hconfig.covers (List.subset_append_right _ _)).append
    apply hgadget.covers (List.subset_append_right _ _)

theorem rebindUsb_eq (ignoreUnbindError : Bool) :
  ∃ unbind bind, tx.rebindUsb ignoreUnbindError = tx.add [unbind, bind] ∧
    Requests unbind tx.unbindKey [.named "udc"] ∧ Requests bind tx.bindKey [tx.unbindKey]
  := by
  obtain ⟨unbind, hunbindEq, hunbind⟩ := exists_addFileChange tx "udc"
    (f := tx.unbindChange ignoreUnbindError) ⟨rfl, rfl, rfl, rfl⟩
  obtain ⟨bind, hbindEq, hbind⟩ := exists_addFileChange (tx.add [unbind]) "udc"
    (f := tx.bindChange) ⟨rfl, rfl, rfl, rfl⟩
  refine ⟨unbind, bind, ?_, hunbind, hbind⟩
  rw [rebindUsb, hunbindEq, hbindEq, add_add]
  rfl

/-- The plan consists of its parts when an item is linked. -/
theorem configureUsbGadget_eq (hchanges : tx.changes = [])
    (hreorder : tx.reorderSymlinkChanges = none)
    (hlinked : tx.orderedConfigItems.any tx.links = true) :
  ∃ first requests reorder udc unbind bind,
    tx.configureUsbGadget true = some (first ++ requests ++ [udc, unbind, bind, reorder]) ∧
    tx.PlanParts first requests reorder udc unbind bind
  := by
  obtain ⟨first, hmade, hfirst⟩ := tx.makeDirectories_eq
  have hprepared : (tx.add first).Prepared tx.baseKeys [.path tx.kvmGadgetPath] := by
    constructor
    · simp [baseKeys]
    · simp [baseKeys, add]
    · simp [baseKeys, add]
  obtain ⟨requests, after, hrequests, hwritten⟩ :
      (tx.add first).WritesItems _ _ tx.orderedConfigItems _ := writesItems_foldl hprepared
  let written : UsbGadgetTransaction :=
    { tx.add first with
      changes := (tx.add first).changes ++ requests
      reorderSymlinkChanges := after }
  obtain ⟨udc, hudcEq, hudc⟩ : ∃ f, written.writeUDC = written.add [f] ∧
      Requests f (.named "udc") [.named reorderKey] :=
    exists_addFileChange written _ ⟨rfl, rfl, rfl, rfl⟩
  obtain ⟨unbind, bind, hrebind, hunbind, hbind⟩ := (written.add [udc]).rebindUsb_eq true
  have hitems : tx.ItemRequests tx.baseKeys [.path tx.kvmGadgetPath] tx.orderedConfigItems
      requests none after := by
    rw [← hreorder]
    apply itemRequests_of_changes hrequests
  obtain ⟨reorder, rfl⟩ : ∃ reorder, after = some reorder := by
    have hsome := hitems.reorders.isSome
    rw [hlinked] at hsome
    apply Option.isSome_iff_exists.mp hsome
  have hwrite : tx.mountConfigFS.createConfigPath.writeGadgetConfig = written.add [udc] := by
    rw [← hudcEq]
    have hloop : ∀ made, made = tx.add first →
        (made.orderedConfigItems.foldl writeItem (made, [.path made.kvmGadgetPath])).1 =
          written := by
      rintro made rfl
      exact congrArg Prod.fst hwritten
    rw [writeGadgetConfig]
    apply congrArg writeUDC (hloop _ hmade)
  have hdeps : Requests reorder (.named reorderKey) tx.reorderFiles := by
    have hreorder := hitems.reorders.isReorder nofun reorder rfl
    refine ⟨?_, hitems.reorders.deps_eq, ?_, hreorder.condition⟩
    · simp [RequestedFileChange.changeKey, hreorder.key, reorderKey]
    · simp [RequestedFileChange.changesBefore, hreorder.beforeChange]
  obtain ⟨finalize, hfinalizeEq, hfinalize⟩ := exists_addFileChange
    ((written.add [udc]).add [unbind, bind]) "gadget-finalize" hdeps
  refine ⟨first, requests, finalize, udc, unbind, bind, ?_, ?_⟩
  · rw [configureUsbGadget, if_pos rfl, hwrite, hrebind]
    have hcommit : ((written.add [udc]).add [unbind, bind]).commit =
        some (((written.add [udc]).add [unbind, bind]).add [finalize]).changes := by
      rw [← hfinalizeEq]
      rfl
    rw [hcommit]
    simp [written, add, hchanges]
  · exact ⟨hfirst, ⟨_, hitems⟩, hfinalize, hudc, hunbind, hbind⟩

end UsbGadgetTransaction

end JetKvm.UsbPlan

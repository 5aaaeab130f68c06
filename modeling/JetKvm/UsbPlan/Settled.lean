import JetKvm.UsbPlan.Files
import JetKvm.UsbPlan.Judged
import JetKvm.UsbPlan.LinkedLast
import JetKvm.UsbPlan.Requested

/-!
# When the links settle

After the plan has been applied, the configuration has the links of the linked items. They are
seen in the order of their names, and asked for in the order of the items. When the same plan is
resolved again, the links are left alone exactly when the two orders are the same.
-/

namespace JetKvm.UsbPlan

/-! ### The order of the links that are seen -/

section Sorted

variable {tree : FileTree FileName (List UInt8) (List Char)} {dir : Path} {files : Files}
  {expected : List Symlink}

theorem append_lt_append_left_iff {p q : Path} :
  dir ++ p < dir ++ q ↔ p < q
  := by
  induction dir with
  | nil => rfl
  | cons name dir ih =>
      rw [List.cons_append, List.cons_append, List.cons_lt_cons_iff]
      simp [ih]

theorem append_singleton_lt {a b : FileName} (h : a < b) :
  dir ++ [a] < dir ++ [b]
  := by
  rw [append_lt_append_left_iff, List.cons_lt_cons_iff]
  exact Or.inl h

/-- The links are seen in the order of their paths. -/
theorem pairwise_seenLinks :
  (seenLinks tree dir).Pairwise fun link link' => link.path < link'.path
  := by
  rw [seenLinks, List.pairwise_filterMap]
  apply FileTree.pairwise_names.imp
  intro a b hlt link hlink link' hlink'
  split at hlink
  · split at hlink'
    · obtain rfl := Option.some.inj hlink
      obtain rfl := Option.some.inj hlink'
      apply append_singleton_lt hlt
    · cases hlink'
  · cases hlink

/-- The expected links are seen in their order exactly when that is the order of their paths. -/
theorem Linked.eq_seenLinks_iff (h : Linked files dir expected) :
  expected = seenLinks files.tree dir ↔
    expected.Pairwise fun link link' => link.path < link'.path
  := by
  constructor
  · intro heq
    rw [heq]
    apply pairwise_seenLinks
  · intro hsorted
    have hnodup : ∀ links : List Symlink,
        (links.Pairwise fun link link' => link.path < link'.path) → links.Nodup := by
      intro links hlinks
      apply hlinks.imp
      rintro link link' hlt rfl
      exact List.lt_irrefl _ hlt
    have hperm : expected.Perm (seenLinks files.tree dir) := by
      rw [List.perm_ext_iff_of_nodup (hnodup _ hsorted) (hnodup _ pairwise_seenLinks)]
      exact fun link => (h.2 link).symm
    apply hperm.eq_of_pairwise _ hsorted pairwise_seenLinks
    intro link link' _ _ hlt hlt'
    exact absurd hlt' (List.lt_asymm hlt)

end Sorted

/-! ### Applying the changes after the links -/

/-- The change makes a directory, writes a file, or removes one that is not among the links. -/
def LeavesLinks (dir : Path) (expected : List Symlink) (f : RequestedFileChange) : Prop :=
  f.expectedState ∈ [.directory, .fileContentMatch, .fileWrite] ∨
    f.expectedState = .absent ∧ f.path ≠ dir ∧ ∀ link ∈ expected, link.path ≠ f.path

section Applied

open UsbGadgetTransaction

variable {k : Kernel} {files files' : Files} {dir : Path} {expected : List Symlink}
  {changes resolved : List FileChange} {reorder : FileChange} {tx : UsbGadgetTransaction}

theorem Linked.applyNext (h : Linked files dir expected) (hk : k.Lawful) {change : FileChange}
    (hleaves : LeavesLinks dir expected change.toRequestedFileChange)
    (happly : UsbPlan.applyNext k files change = some files') :
  Linked files' dir expected
  := by
  rcases hleaves with hstate | ⟨hstate, hdir, hpath⟩
  · apply h.keepsLinks
    apply keepsLinks_applyNext hk hstate happly
  · apply h.applyNext_absent hk hstate hdir hpath happly

theorem Linked.applyChanges (h : Linked files dir expected) (hk : k.Lawful)
    (hleaves : ∀ change ∈ changes, LeavesLinks dir expected change.toRequestedFileChange)
    (happly : UsbPlan.applyChanges k changes files = some files') :
  Linked files' dir expected
  := by
  induction changes generalizing files with
  | nil =>
      obtain rfl := Option.some.inj happly
      apply h
  | cons change changes ih =>
      rw [UsbPlan.applyChanges, List.foldlM_cons] at happly
      obtain ⟨between, hnext, hrest⟩ := Option.bind_eq_some_iff.mp happly
      have hbetween : Linked between dir expected :=
        h.applyNext hk (hleaves change List.mem_cons_self) hnext
      exact ih hbetween (fun c hc => hleaves c (List.mem_cons_of_mem _ hc)) hrest

/-- When what comes after the change that orders the links leaves them alone, they are the
expected ones in the end. -/
theorem linked_applyChanges (hk : k.Lawful) (hmem : reorder ∈ resolved)
    (hlinks : tx.OrdersLinks expected reorder.toRequestedFileChange) (hsome : expected ≠ [])
    (hexpected : ∀ link ∈ expected, ∃ name, link.path = tx.configC1Path ++ [name] ∧
      filepathIsAbs link.target = true)
    (hlate : ∀ change ∈ resolved,
      Before (resolved.map (·.changeKey)) reorder.changeKey change.changeKey →
        LeavesLinks tx.configC1Path expected change.toRequestedFileChange)
    (happly : UsbPlan.applyChanges k resolved files = some files') :
  Linked files' tx.configC1Path expected
  := by
  obtain ⟨front, back, rfl⟩ := List.append_of_mem hmem
  rw [UsbPlan.applyChanges, List.foldlM_append] at happly
  obtain ⟨before, -, hrest⟩ := Option.bind_eq_some_iff.mp happly
  rw [List.foldlM_cons] at hrest
  obtain ⟨between, hnext, hback⟩ := Option.bind_eq_some_iff.mp hrest
  obtain ⟨-, hpath, hstate, hparams, herrors, -, -⟩ := hlinks
  have hlinked : Linked between tx.configC1Path reorder.paramSymlinks := by
    apply linked_applyNext hk hstate herrors hpath _ _ hnext
    · rw [hparams]
      apply hsome
    · rw [hparams]
      apply hexpected
  rw [hparams] at hlinked
  apply hlinked.applyChanges hk _ hback
  intro change hchange
  apply hlate change (by simp [hchange])
  rw [List.map_append, List.map_cons]
  apply Before.append_left
  rw [before_cons]
  right
  exact ⟨rfl, List.mem_map_of_mem hchange⟩

end Applied

/-! ### The plan with and without a reset of the bus -/

section Reset

open UsbGadgetTransaction

variable {tx : UsbGadgetTransaction} {resetUsb : Bool} {plan full : ChangeSet}

/-- Without a reset of the bus, the plan lacks two unconditional requests. -/
theorem exists_reset (h : tx.configureUsbGadget resetUsb = some plan) :
  ∃ full, tx.configureUsbGadget true = some full ∧ plan.Sublist full ∧
    conditionalRequests plan = conditionalRequests full
  := by
  cases resetUsb with
  | true => use plan, h, List.Sublist.refl plan
  | false =>
      rw [configureUsbGadget, if_neg Bool.false_ne_true, commit] at h
      obtain ⟨reorder, hreorder, rfl⟩ := Option.map_eq_some_iff.mp h
      rw [configureUsbGadget, if_pos rfl]
      generalize tx.mountConfigFS.createConfigPath.writeGadgetConfig = written at hreorder h ⊢
      have hwritten : (written.rebindUsb true).reorderSymlinkChanges = some reorder := hreorder
      have hmore : (written.rebindUsb true).changes = written.changes ++
          [{ written.unbindChange true with component := "udc" },
            { written.bindChange with component := "udc" }] := by
        simp [rebindUsb, addFileChange, bindChange]
      rw [commit, hwritten]
      refine ⟨_, rfl, ?_, ?_⟩
      · dsimp only [addFileChange]
        rw [hmore]
        apply List.Sublist.append_right
        apply List.sublist_append_left
      · dsimp only [addFileChange]
        rw [hmore, conditionalRequests_append, conditionalRequests_append,
          conditionalRequests_append]
        simp [conditionalRequests, RequestedFileChange.IsConditional, unbindChange, bindChange]

theorem Acceptable.of_sublist (h : Acceptable full) (hsub : plan.Sublist full)
    (hconditional : conditionalRequests plan = conditionalRequests full) :
  Acceptable plan
  := by
  have hown : (unconditionalRequests plan).Sublist (unconditionalRequests full) := hsub.filter _
  have hall : unconditionalRequests plan ++ conditionalRequests plan ⊆
      unconditionalRequests full ++ conditionalRequests full := by
    rw [hconditional]
    exact List.append_subset.mpr ⟨List.subset_append_of_subset_left _ hown.subset,
      List.subset_append_right _ _⟩
  constructor
  · apply h.nodup_own.sublist (hown.map _)
  · rw [hconditional]
    apply h.nodup_conditional
  · intro f hf dep hdep
    rw [hconditional]
    apply h.found f (hall hf) dep hdep
  · intro g within
    apply h.acyclic
    constructor
    · intro v hv
      apply List.map_subset _ hall (within.vertices v hv)
    · intro u v hedge
      obtain ⟨f, hf, hkey, hdep⟩ := within.edges u v hedge
      exact ⟨f, hall hf, hkey, hdep⟩

end Reset

/-! ### The paths of files that are removed -/

section Paths

open UsbGadgetTransaction

variable {configMap items : List GadgetConfigItemWithKey} {name : FileName} {udcName : String}
  {enabled : String → Bool} {tx : UsbGadgetTransaction} {val : GadgetConfigItemWithKey}
  {link : Symlink}

theorem mem_itemLinks :
  link ∈ tx.itemLinks items ↔ ∃ val ∈ items, tx.links val = true ∧ tx.itemLink val.item = link
  := by
  rw [itemLinks, List.mem_map]
  simp only [List.mem_filter, and_assoc]

/-- When an item is linked, there is a link. -/
theorem itemLinks_ne_nil (hlinked : items.any tx.links = true) :
  tx.itemLinks items ≠ []
  := by
  obtain ⟨val, hval, hlinks⟩ := List.any_eq_true.mp hlinked
  apply List.ne_nil_of_mem (a := tx.itemLink val.item)
  rw [mem_itemLinks]
  exact ⟨val, hval, hlinks, rfl⟩

/-- When every linked item has one name in the configuration, the links are in its directory. -/
theorem exists_name_of_mem_itemLinks
    (single : ∀ val ∈ items, val.item.isLinked = true → ∃ name, val.item.configPath = some [name]) :
  ∀ link ∈ tx.itemLinks items,
    ∃ name, link.path = tx.configC1Path ++ [name] ∧ filepathIsAbs link.target = true
  := by
  intro link hlink
  obtain ⟨val, hval, hlinks, rfl⟩ := mem_itemLinks.mp hlink
  rw [links, Bool.and_eq_true] at hlinks
  obtain ⟨name, hname⟩ := single val hval hlinks.2
  use name
  constructor
  · rw [itemLink, hname]
    rfl
  · rfl

variable (htx : tx = newUsbGadgetTransaction name udcName items enabled)
  (shaped : Shaped configMap) (hval : val ∈ configMap)

include htx shaped hval

/-- The report descriptor of an item is no path in the configuration. -/
theorem reportDescPath_ne (path : Path) :
  joinPath tx.kvmGadgetPath val.item.path ++ [GadgetConfigItem.reportDescName] ≠
    joinPath tx.configC1Path path
  := by
  rw [joinPath_configC1Path htx, joinPath, joinPath, List.append_assoc]
  intro h
  apply not_hasGadgetPath_configDir shaped hval path
  rw [← List.append_cancel_left h]
  right
  use GadgetConfigItem.reportDescName
  simp [GadgetConfigItem.fileNames]

omit htx in
/-- The path of a disabled item is that of no link. -/
theorem configPath_ne_itemLink (ordered : IsOrdered configMap items)
    (hdisabled : tx.isEnabled val = false) {configPath : Path}
    (hpath : val.item.configPath = some configPath) (hlink : link ∈ tx.itemLinks items) :
  link.path ≠ joinPath tx.configC1Path configPath
  := by
  obtain ⟨other, hother, hlinks, rfl⟩ := mem_itemLinks.mp hlink
  rw [links, Bool.and_eq_true, GadgetConfigItem.isLinked, Bool.and_eq_true] at hlinks
  obtain ⟨henabled, hsome, -⟩ := hlinks
  obtain ⟨configPath', hpath'⟩ := Option.isSome_iff_exists.mp hsome
  intro heq
  have hsame : configPath' = configPath := by
    rw [itemLink, hpath'] at heq
    apply List.append_cancel_left heq
  have hplace : ∀ i : GadgetConfigItemWithKey, i.item.configPath = some configPath →
      i.item.configPlace = some configPath := by
    intro i hi
    simp [GadgetConfigItem.configPlace, hi]
  rw [hsame] at hpath'
  have hval' : other = val := eq_of_nodup_filterMap shaped.places
    (ordered.perm.mem_iff.mp hother) hval (hplace other hpath') (hplace val hpath)
  rw [← hval', henabled] at hdisabled
  cases hdisabled

end Paths

/-! ### What comes before the links -/

section Late

open UsbGadgetTransaction FiniteDigraph

variable {configMap items : List GadgetConfigItemWithKey} {name : FileName} {udcName : String}
  {enabled : String → Bool} {tx : UsbGadgetTransaction} {first requests : List RequestedFileChange}
  {plan full : ChangeSet} {reorder udc unbind bind finalize : RequestedFileChange}
  {dag : Dag ChangeKey} {g : FiniteDigraph ChangeKey} {resolved : List FileChange}
  {u v : ChangeKey} {own conditional : List RequestedFileChange} {f : RequestedFileChange}
  {change : FileChange}

theorem IsResolution.mem_keys (hresolution : IsResolution own conditional dag g resolved)
    (lawful : dag.Lawful) (acyclic : g.Acyclic) (hf : f ∈ own) :
  f.changeKey ∈ resolved.map (·.changeKey)
  := by
  have hvertex := hresolution.vertices f hf
  rw [hresolution.keys, List.mem_filter]
  exact ⟨(lawful.order g acyclic).complete _ hvertex, decide_eq_true hvertex⟩

theorem IsResolution.nodup (hresolution : IsResolution own conditional dag g resolved)
    (lawful : dag.Lawful) (acyclic : g.Acyclic) :
  (resolved.map (·.changeKey)).Nodup
  := by
  rw [hresolution.keys]
  exact (lawful.order g acyclic).nodup.filter _

/-- Resolved changes come in the order of the edges. -/
theorem IsResolution.before (hresolution : IsResolution own conditional dag g resolved)
    (lawful : dag.Lawful) (acyclic : g.Acyclic) (hedge : g.Edge u v)
    (hu : u ∈ resolved.map (·.changeKey)) (hv : v ∈ resolved.map (·.changeKey)) :
  Before (resolved.map (·.changeKey)) u v
  := by
  rw [hresolution.keys] at hu hv ⊢
  obtain ⟨hu, hmem⟩ := List.mem_filter.mp hu
  obtain ⟨hv, hmem'⟩ := List.mem_filter.mp hv
  exact ((lawful.order g acyclic).respects u v hedge hu hv).filter hmem hmem'

variable (htx : tx = newUsbGadgetTransaction name udcName items enabled)
  (shaped : Shaped configMap) (ordered : IsOrdered configMap items)
  (hlinked : tx.orderedConfigItems.any tx.links = true)
  (parts : tx.PlanParts first requests reorder udc unbind bind)
  (hsub : plan.Sublist (first ++ requests ++ [udc, unbind, bind, reorder]))
  (hconditional : conditionalRequests plan =
    conditionalRequests (first ++ requests ++ [udc, unbind, bind, reorder]))
  (asked : tx.PlanRequests plan)
  (hfinalize : finalize ∈ unconditionalRequests plan)
  (hlinks : tx.OrdersLinks (tx.itemLinks tx.orderedConfigItems) finalize)
  (lawful : dag.Lawful) (acyclic : g.Acyclic)
  (hresolution : IsResolution (unconditionalRequests plan) (conditionalRequests plan) dag g resolved)

include htx shaped ordered parts hsub hfinalize hlinks

/-- The change that orders the links depends on what is written up to the last linked item. -/
theorem dependsOn_finalize :
  finalize.dependsOn = tx.reorderFiles
  := by
  have hnodup := (acceptable_plan htx shaped ordered parts).nodup_own
  have hfull : finalize ∈
      unconditionalRequests (first ++ requests ++ [udc, unbind, bind, reorder]) :=
    (hsub.filter _).subset hfinalize
  have hreorder : reorder ∈
      unconditionalRequests (first ++ requests ++ [udc, unbind, bind, reorder]) := by
    rw [parts.unconditionalRequests_eq]
    simp [ownRequests]
  have hsame : finalize = reorder := by
    apply List.inj_on_of_nodup_map hnodup hfull hreorder
    rw [hlinks.changeKey, parts.reorder.changeKey]
  rw [hsame, parts.reorder.dependsOn]

include lawful acyclic hresolution

/-- What the links depend on comes before them. -/
theorem before_finalize {key : ChangeKey} (hkey : key ∈ tx.reorderFiles)
    (hmem : key ∈ resolved.map (·.changeKey)) :
  Before (resolved.map (·.changeKey)) key (.named reorderKey)
  := by
  have hedge := hresolution.edges finalize hfinalize key
  rw [dependsOn_finalize htx shaped ordered parts hsub hfinalize hlinks] at hedge
  have hfound := hresolution.mem_keys lawful acyclic hfinalize
  rw [hlinks.changeKey] at hedge hfound
  exact hresolution.before lawful acyclic (hedge hkey) hmem hfound

include hlinked asked in
/-- The configuration file system is mounted before the links are ordered. -/
theorem mount_before_finalize (hmem : .path configFSPath ∈ resolved.map (·.changeKey)) :
  Before (resolved.map (·.changeKey)) (.path configFSPath) (.named reorderKey)
  := by
  have hnodup := hresolution.nodup lawful acyclic
  obtain ⟨config, hconfig, hconfigKey, hconfigDeps⟩ := asked.config
  obtain ⟨gadget, hgadget, hgadgetKey, hgadgetDeps⟩ := asked.gadget
  have hconfigMem := hresolution.mem_keys lawful acyclic hconfig
  have hgadgetMem := hresolution.mem_keys lawful acyclic hgadget
  have hmount := hresolution.before lawful acyclic
    (hresolution.edges config hconfig _ hconfigDeps) hmem hconfigMem
  rw [hconfigKey] at hmount hconfigMem
  have hmake := hresolution.before lawful acyclic
    (hresolution.edges gadget hgadget _ hgadgetDeps) hconfigMem hgadgetMem
  rw [hgadgetKey] at hmake hgadgetMem
  have hlast : Before (resolved.map (·.changeKey)) (.path tx.kvmGadgetPath)
      (.named reorderKey) := by
    apply before_finalize htx shaped ordered parts hsub hfinalize hlinks lawful acyclic hresolution
      _ hgadgetMem
    apply subset_linkedFiles hlinked
    apply List.mem_singleton_self
  exact (hmount.trans hnodup hmake).trans hnodup hlast

include hconditional asked in
/-- A link is removed before changes that come before the links are ordered. -/
theorem removal_before_finalize (hchange : change ∈ resolved)
    (howner : ∃ f ∈ unconditionalRequests plan ++ conditionalRequests plan,
      change.changeKey ∈ f.changesBefore ∧ g.Edge change.changeKey f.changeKey) :
  Before (resolved.map (·.changeKey)) change.changeKey (.named reorderKey)
  := by
  have hnodup := hresolution.nodup lawful acyclic
  obtain ⟨f, hf, hbefore, hedge⟩ := howner
  have hown : f ∈ unconditionalRequests plan := by
    rcases List.mem_append.mp hf with h | h
    · apply h
    · rw [hconditional, parts.conditionalRequests_eq] at h
      obtain ⟨after, hrequests⟩ := parts.requests
      rw [(List.append_eq_nil_iff.mp (hrequests.conditional_deps f h)).2] at hbefore
      cases hbefore
  have hmem := hresolution.mem_keys lawful acyclic hown
  have hfirst := hresolution.before lawful acyclic hedge (List.mem_map_of_mem hchange) hmem
  have hkey : f.changeKey ∈ tx.reorderFiles := by
    have hnone : f.changesBefore ≠ [] := List.ne_nil_of_mem hbefore
    obtain ⟨hplan, hunconditional⟩ := List.mem_filter.mp hown
    cases asked.requests f hplan with
    | mounted path before => exact absurd before hnone
    | written state before => exact absurd before hnone
    | ordered links => exact absurd links.before hnone
    | conditional condition => exact absurd condition (of_decide_eq_true hunconditional)
    | item val mem asked =>
        cases asked with
        | removed disabled state before configPath hpath path => exact absurd before hnone
        | written hval request key =>
            have hisLinked : val.item.isLinked = true := by
              by_contra hnot
              exact hnone (request.before (Bool.eq_false_iff.mpr hnot))
            have hlinks : tx.links val = true := by
              rw [links, hval, hisLinked, Bool.and_self]
            obtain ⟨front, back, hitems⟩ := List.append_of_mem mem
            rw [reorderFiles, hitems]
            apply enabledKeys_subset_linkedFiles
            · rw [List.any_cons, hlinks, Bool.true_or]
            · simpa [enabledKeys, hval] using key
  apply hfirst.trans hnodup
  exact before_finalize htx shaped ordered parts hsub hfinalize hlinks lawful acyclic hresolution
    hkey hmem

include hconditional hlinked asked in
/-- What comes after the change that orders the links leaves them alone. -/
theorem leavesLinks_of_before
    (howned : ∀ change ∈ resolved,
      change.changeKey ∈ (conditionalRequests plan).map (·.changeKey) →
        ∃ f ∈ unconditionalRequests plan ++ conditionalRequests plan,
          change.changeKey ∈ f.changesBefore ∧ g.Edge change.changeKey f.changeKey)
    (hchange : change ∈ resolved)
    (hlate : Before (resolved.map (·.changeKey)) (.named reorderKey) change.changeKey) :
  LeavesLinks tx.configC1Path (tx.itemLinks tx.orderedConfigItems) change.toRequestedFileChange
  := by
  have hnodup := hresolution.nodup lawful acyclic
  have hmem : change.toRequestedFileChange ∈ plan := by
    rcases List.mem_append.mp (hresolution.requests change hchange) with h | h
    · exact (List.mem_filter.mp h).1
    · exact (List.mem_filter.mp h).1
  have hitems : tx.orderedConfigItems = items := by
    rw [htx]
    rfl
  cases asked.requests _ hmem with
  | mounted path before =>
      rw [path] at hlate
      have hfirst := mount_before_finalize htx shaped ordered hlinked parts hsub asked hfinalize
        hlinks lawful acyclic hresolution hlate.mem.2
      exact absurd hlate (hfirst.asymm hnodup)
  | written state before => exact Or.inl state
  | conditional condition =>
      have hkey : change.changeKey ∈ (conditionalRequests plan).map (·.changeKey) :=
        List.mem_map_of_mem (List.mem_filter.mpr ⟨hmem, decide_eq_true condition⟩)
      have hfirst := removal_before_finalize htx shaped ordered parts hsub hconditional asked
        hfinalize hlinks lawful acyclic hresolution hchange (howned change hchange hkey)
      exact absurd hlate (hfirst.asymm hnodup)
  | ordered links =>
      rw [links.changeKey] at hlate
      exact absurd hlate (hlate.asymm hnodup)
  | item val mem asked =>
      have hval : val ∈ configMap := ordered.perm.mem_iff.mp (hitems ▸ mem)
      cases asked with
      | removed disabled state before configPath hpath path =>
          right
          rw [path]
          refine ⟨state, ?_, ?_⟩
          · rw [Ne, joinPath_eq_self]
            rintro rfl
            exact shaped.configPath val hval hpath
          · intro link hlink
            rw [hitems] at hlink
            exact configPath_ne_itemLink shaped hval ordered disabled hpath hlink
      | written hval' request key =>
          rcases request.state with hstate | ⟨hstate, hpath⟩
          · left
            simp only [List.mem_cons, List.not_mem_nil, or_false] at hstate ⊢
            exact hstate.elim Or.inl fun h => Or.inr (Or.inl h)
          · right
            have hne := reportDescPath_ne htx shaped hval
            rw [← hpath] at hne
            refine ⟨hstate, ?_, ?_⟩
            · have hroot := hne []
              rw [joinPath, List.append_nil] at hroot
              exact hroot
            · intro link hlink
              obtain ⟨other, -, -, rfl⟩ := mem_itemLinks.mp hlink
              exact (hne _).symm

end Late

/-! ### When the links settle -/

section Settled

open UsbGadgetTransaction

/-- When the plan is resolved in this state of the files, the links are left alone. -/
def Settled (dag : Bool → Dag ChangeKey) (plan : ChangeSet) (files : Files) : Prop :=
  ∃ resolved, getChanges dag files.fileSystem plan = .ok resolved ∧
    ∃ change ∈ resolved, change.changeKey = .named reorderKey ∧ change.action = .doNothing

variable {configMap items : List GadgetConfigItemWithKey} {name : FileName} {udcName : String}
  {enabled : String → Bool} {tx : UsbGadgetTransaction} {first requests : List RequestedFileChange}
  {plan : ChangeSet} {reorder udc unbind bind : RequestedFileChange} {dag : Bool → Dag ChangeKey}
  {k : Kernel} {files files' : Files}

/-- What resolving the plan gives: the change that orders the links, and after it changes that
leave them alone. -/
structure ResolvedPlan (tx : UsbGadgetTransaction) (plan : ChangeSet) (fs : FileSystem)
    (resolved : List FileChange) (change : FileChange) : Prop where
  mem : change ∈ resolved
  requests : ∀ other ∈ resolved, other.toRequestedFileChange ∈ plan
  unique : ∀ other ∈ resolved, other.changeKey = .named reorderKey → other = change
  links : tx.OrdersLinks (tx.itemLinks tx.orderedConfigItems) change.toRequestedFileChange
  judged : Judged fs change
  late : ∀ other ∈ resolved,
    Before (resolved.map (·.changeKey)) change.changeKey other.changeKey →
      LeavesLinks tx.configC1Path (tx.itemLinks tx.orderedConfigItems) other.toRequestedFileChange

/-- No unconditional change has the key of one that removes a link before changes. -/
theorem disableKey_apart (htx : tx = newUsbGadgetTransaction name udcName items enabled)
    (shaped : Shaped configMap) (ordered : IsOrdered configMap items)
    (parts : tx.PlanParts first requests reorder udc unbind bind) {f : RequestedFileChange}
    (hf : f ∈ ownRequests first requests reorder udc unbind bind) :
  f.changeKey ∉ tx.getDisableKeys
  := by
  have hnodup := nodup_planKeys htx shaped ordered
  have hkey := List.mem_map_of_mem (f := (·.changeKey)) hf
  have hitems : tx.orderedConfigItems = items := by
    rw [htx]
    rfl
  rw [parts.keys_ownRequests, hitems] at hkey
  intro hdisable
  apply List.disjoint_of_nodup_append hnodup hdisable
  simp only [lastKeys, List.mem_append, List.mem_cons, List.not_mem_nil, or_false] at hkey ⊢
  tauto

/-- The unconditional requests of the plan do not have the keys of conditional ones. -/
theorem disjoint_conditionalRequests
    (htx : tx = newUsbGadgetTransaction name udcName items enabled)
    (shaped : Shaped configMap) (ordered : IsOrdered configMap items)
    (parts : tx.PlanParts first requests reorder udc unbind bind)
    (hsub : plan.Sublist (first ++ requests ++ [udc, unbind, bind, reorder]))
    (hconditional : conditionalRequests plan =
      conditionalRequests (first ++ requests ++ [udc, unbind, bind, reorder])) :
  ∀ f ∈ unconditionalRequests plan, f.changeKey ∉ (conditionalRequests plan).map (·.changeKey)
  := by
  intro f hf
  rw [hconditional, parts.conditionalRequests_eq, parts.keys_conditional]
  apply disableKey_apart htx shaped ordered parts
  rw [← parts.unconditionalRequests_eq]
  apply (hsub.filter _).subset hf

/-- The plan is resolved in every state of the files. -/
theorem exists_resolvedPlan (htx : tx = newUsbGadgetTransaction name udcName items enabled)
    (shaped : Shaped configMap) (ordered : IsOrdered configMap items)
    (hlinked : tx.orderedConfigItems.any tx.links = true)
    (parts : tx.PlanParts first requests reorder udc unbind bind)
    (hsub : plan.Sublist (first ++ requests ++ [udc, unbind, bind, reorder]))
    (hconditional : conditionalRequests plan =
      conditionalRequests (first ++ requests ++ [udc, unbind, bind, reorder]))
    (asked : tx.PlanRequests plan) (lawful : ∀ initial, (dag initial).Lawful) (fs : FileSystem) :
  ∃ resolved change, getChanges dag fs plan = .ok resolved ∧ ResolvedPlan tx plan fs resolved change
  := by
  have hacceptable := (acceptable_plan htx shaped ordered parts).of_sublist hsub hconditional
  have hdisjoint := disjoint_conditionalRequests htx shaped ordered parts hsub hconditional
  obtain ⟨initial, g, resolved, hok, hresolution, hjudged, howned⟩ :=
    hacceptable.getChanges_judged hdisjoint fs lawful
  have hacyclic := hacceptable.acyclic g hresolution.within
  have hnodup := hresolution.nodup (lawful initial) hacyclic
  obtain ⟨finalize, hfinalize, hlinks⟩ := asked.reorder
  obtain ⟨change, hchange, hkey⟩ := List.mem_map.mp
    (hresolution.mem_keys (lawful initial) hacyclic hfinalize)
  have hrequest : change.toRequestedFileChange = finalize := by
    rcases List.mem_append.mp (hresolution.requests change hchange) with h | h
    · exact List.inj_on_of_nodup_map hacceptable.nodup_own h hfinalize hkey
    · have hmem := List.mem_map_of_mem (f := (·.changeKey)) h
      rw [hkey] at hmem
      exact absurd hmem (hdisjoint finalize hfinalize)
  rw [← hrequest] at hlinks hfinalize
  refine ⟨resolved, change, hok, hchange, ?_, ?_, hlinks, hjudged change hchange, ?_⟩
  · intro other hother
    rcases List.mem_append.mp (hresolution.requests other hother) with h | h
    · exact (List.mem_filter.mp h).1
    · exact (List.mem_filter.mp h).1
  · intro other hother hotherKey
    apply List.inj_on_of_nodup_map hnodup hother hchange
    rw [hotherKey, hlinks.changeKey]
  · intro other hother hlate
    rw [hlinks.changeKey] at hlate
    exact leavesLinks_of_before htx shaped ordered hlinked parts hsub hconditional asked hfinalize
      hlinks (lawful initial) hacyclic hresolution howned hother hlate

/-- When every linked item has one name in the configuration, the links settle exactly when the
items come in the order of their paths. -/
theorem settled_iff_pairwise (htx : tx = newUsbGadgetTransaction name udcName items enabled)
    (shaped : Shaped configMap) (ordered : IsOrdered configMap items)
    (hlinked : tx.orderedConfigItems.any tx.links = true)
    (single : ∀ val ∈ items, val.item.isLinked = true → ∃ name, val.item.configPath = some [name])
    {resetUsb : Bool} (hplan : tx.configureUsbGadget resetUsb = some plan)
    {dag' : Bool → Dag ChangeKey} (lawful : ∀ initial, (dag initial).Lawful)
    (lawful' : ∀ initial, (dag' initial).Lawful) (hk : k.Lawful)
    (happly : apply dag k plan files = some files') :
  Settled dag' plan files' ↔
    (tx.itemLinks items).Pairwise fun link link' => link.path < link'.path
  := by
  have hchanges : tx.changes = [] := by
    rw [htx]
    rfl
  have hnone : tx.reorderSymlinkChanges = none := by
    rw [htx]
    rfl
  have hitems : tx.orderedConfigItems = items := by
    rw [htx]
    rfl
  have asked := planRequests_configureUsbGadget hchanges hnone hplan
  obtain ⟨full, hfull, hsub, hconditional⟩ := exists_reset hplan
  obtain ⟨first, requests, reorder, udc, unbind, bind, hparts, parts⟩ :=
    tx.configureUsbGadget_eq hchanges hnone hlinked
  rw [hfull] at hparts
  obtain rfl := Option.some.inj hparts
  have hexists : ∀ {dag : Bool → Dag ChangeKey}, (∀ initial, (dag initial).Lawful) →
      ∀ fs, ∃ resolved change, getChanges dag fs plan = .ok resolved ∧
        ResolvedPlan tx plan fs resolved change :=
    fun lawful fs => exists_resolvedPlan htx shaped ordered hlinked parts hsub hconditional asked
      lawful fs
  have hsome : tx.itemLinks items ≠ [] := itemLinks_ne_nil (hitems ▸ hlinked)
  obtain ⟨resolved, change, hok, hresolved⟩ := hexists lawful files.fileSystem
  obtain ⟨resolved', change', hok', hresolved'⟩ := hexists lawful' files'.fileSystem
  rw [apply, hok] at happly
  have hlinked' : Linked files' tx.configC1Path (tx.itemLinks items) := by
    rw [← hitems]
    apply linked_applyChanges hk hresolved.mem hresolved.links _ _ hresolved.late happly
    · rw [hitems]
      apply hsome
    · rw [hitems]
      exact exists_name_of_mem_itemLinks single
  obtain ⟨fc, hsame, haction⟩ := hresolved'.judged
  obtain ⟨hkey, hpath, hstate, hparams, -, -, -⟩ := hresolved'.links
  rw [← hsame] at hpath hstate hparams
  rw [hitems] at hparams
  have hreorder : (fc.getFileChangeResolvedAction files'.fileSystem).2 =
      if files'.tree.node fc.path = some .directory ∧
        fc.paramSymlinks = seenLinks files'.tree fc.path then .doNothing else .reorderSymlinks :=
    action_reorder hstate (hparams.trans_ne hsome)
  rw [hpath, hparams, ← haction] at hreorder
  rw [← hlinked'.eq_seenLinks_iff]
  constructor
  · rintro ⟨other, hother, c, hc, hcKey, hcAction⟩
    rw [hok'] at hother
    obtain rfl := Except.ok.inj hother
    rw [hresolved'.unique c hc hcKey] at hcAction
    rw [hcAction] at hreorder
    by_contra hne
    rw [if_neg fun h => hne h.2] at hreorder
    cases hreorder
  · intro heq
    refine ⟨resolved', hok', change', hresolved'.mem, hkey, ?_⟩
    rw [hreorder, if_pos ⟨hlinked'.1, heq⟩]

end Settled

/-! ### The default functions -/

section Functions

open UsbGadgetTransaction

/-- What an item is as a function of the gadget. Attributes may be set to other values. -/
def GadgetConfigItemWithKey.function (val : GadgetConfigItemWithKey) :
    String × Nat × Option Path × Bool :=
  (val.key, val.item.order, val.item.configPath, val.item.isLinked)

variable {configMap items : List GadgetConfigItemWithKey}

/-- The items have one order, since no two functions have the same one. -/
theorem map_function_eq (same : configMap.map (·.function) = defaultGadgetConfig.map (·.function))
    (ordered : IsOrdered configMap items) :
  items.map (·.function) = defaultGadgetConfig.map (·.function)
  := by
  have hperm : (items.map (·.function)).Perm (defaultGadgetConfig.map (·.function)) := by
    rw [← same]
    apply ordered.perm.map
  have hsorted : (items.map (·.function)).Pairwise fun i j => i.2.1 ≤ j.2.1 := by
    rw [List.pairwise_map]
    apply ordered.sorted
  have horders : ((defaultGadgetConfig.map (·.function)).map fun i => i.2.1).Nodup := by
    decide
  apply hperm.eq_of_pairwise _ hsorted
  · decide
  · intro i j hi hj hle hle'
    apply List.inj_on_of_nodup_map horders (hperm.mem_iff.mp hi) hj
    exact Nat.le_antisymm hle hle'

/-- Every function has one name in the configuration. -/
theorem exists_configPath_of_function
    (hmem : ∀ val ∈ items, val.function ∈ defaultGadgetConfig.map (·.function)) :
  ∀ val ∈ items, val.item.isLinked = true → ∃ name, val.item.configPath = some [name]
  := by
  have hlength : ∀ i ∈ defaultGadgetConfig.map (·.function), i.2.2.2 = true →
      (i.2.2.1.getD []).length = 1 := by
    decide
  intro val hval hisLinked
  obtain ⟨name, hname⟩ := List.length_eq_one_iff.mp (hlength _ (hmem val hval) hisLinked)
  use name
  cases hpath : val.item.configPath with
  | none => simp [GadgetConfigItemWithKey.function, hpath] at hname
  | some path => simpa [GadgetConfigItemWithKey.function, hpath] using hname

/-- The places of the links, in the order of the items. -/
def linkPlaces (enabled : String → Bool) (functions : List (String × Nat × Option Path × Bool)) :
    List Path :=
  (functions.filter fun i => enabled i.1 && i.2.2.2).map fun i => i.2.2.1.getD []

theorem pairwise_itemLinks_iff (name : FileName) (udc : String) (enabled : String → Bool)
    (items : List GadgetConfigItemWithKey) :
  (((newUsbGadgetTransaction name udc items enabled).itemLinks items).Pairwise
      fun link link' => link.path < link'.path) ↔
    (linkPlaces enabled (items.map (·.function))).Pairwise (· < ·)
  := by
  rw [itemLinks, linkPlaces, List.pairwise_map, List.pairwise_map, List.filter_map,
    List.pairwise_map]
  apply List.Pairwise.iff
  intro i j
  apply append_lt_append_left_iff

/-- The names of the functions come in the order of the functions, apart from that of the serial
console, and from that of the mass storage when there is audio. -/
theorem pairwise_linkPlaces_iff (enabledDevices : Devices) :
  (linkPlaces (isGadgetConfigItemEnabled enabledDevices)
      (defaultGadgetConfig.map (·.function))).Pairwise (· < ·) ↔
    enabledDevices.serialConsole = false ∧
      ¬ (enabledDevices.audio = true ∧ enabledDevices.massStorage = true)
  := by
  obtain ⟨absoluteMouse, relativeMouse, keyboard, massStorage, serialConsole, audio⟩ :=
    enabledDevices
  revert absoluteMouse relativeMouse keyboard massStorage serialConsole audio
  decide +kernel

end Functions

/-! ### A gadget with a serial console -/

section SerialConsole

open UsbGadgetTransaction

/-- Applying the requests in some order leads from one of the states to another. -/
theorem exists_applyChanges {k : Kernel} {plan : ChangeSet} {states : List Files}
    (hclosed : ∀ files ∈ states, ∀ f ∈ plan, ∃ files' ∈ states,
      applyNext k files { toRequestedFileChange := f } = some files')
    {resolved : List FileChange} (hmem : ∀ change ∈ resolved, change.toRequestedFileChange ∈ plan)
    {files : Files} (hfiles : files ∈ states) :
  ∃ files' ∈ states, applyChanges k resolved files = some files'
  := by
  induction resolved generalizing files with
  | nil => exact ⟨files, hfiles, rfl⟩
  | cons change resolved ih =>
      obtain ⟨between, hbetween, hnext⟩ := hclosed files hfiles _ (hmem change List.mem_cons_self)
      obtain ⟨files', hfiles', hrest⟩ :=
        ih (fun c hc => hmem c (List.mem_cons_of_mem _ hc)) hbetween
      use files', hfiles'
      have hsame : applyNext k files change = some between := by
        rw [← hnext]
        exact applyNext_congr rfl
      rw [applyChanges, List.foldlM_cons, hsame]
      apply hrest

/-- A kernel that mounts what is asked for, and adds nothing. -/
def plainKernel : Kernel where
  mountConfigFS path files := some { files with mounts := [⟨path.text, "none", "configfs"⟩] }
  settle := id

theorem lawful_plainKernel :
  plainKernel.Lawful
  := fun files => FileTree.KeepsLinks.refl files.tree

/-- The directories that are there before the gadget is configured. -/
def bareFiles : Files where
  tree := [configFSPath.take 1, configFSPath.take 2, configFSPath, gadgetPath, dwc3Path.take 2,
    dwc3Path.take 3, dwc3Path.take 4, dwc3Path].foldl (fun tree path => tree.put path .directory) ⟨∅⟩
  mounts := []

/-- The files after the requests have been applied in their own order. -/
def filesAfter (plan : ChangeSet) : Files :=
  (plan.foldlM (fun files f => applyNext plainKernel files { toRequestedFileChange := f })
    bareFiles).getD bareFiles

/-- The files, and the same without one link or both. -/
def withoutLinks (files : Files) (path path' : Path) : List Files :=
  [files, { files with tree := files.tree.erase path }, { files with tree := files.tree.erase path' },
    { files with tree := (files.tree.erase path).erase path' }]

/-- Only the serial console is enabled. -/
def serialConsoleDevices : Devices where
  absoluteMouse := false
  relativeMouse := false
  keyboard := false
  massStorage := false
  serialConsole := true

/-- The plan of the default configuration. -/
def defaultPlan (enabledDevices : Devices) : ChangeSet :=
  ((defaultTransaction enabledDevices).configureUsbGadget true).getD []

/-- The plan with the serial console. -/
def serialConsolePlan : ChangeSet :=
  defaultPlan serialConsoleDevices

/-- The states of the files while the plan is applied anew. -/
def serialConsoleStates : List Files :=
  withoutLinks (filesAfter serialConsolePlan)
    ((defaultTransaction serialConsoleDevices).itemLink wakeHIDConfig).path
    ((defaultTransaction serialConsoleDevices).itemLink serialConsoleConfig).path

theorem closed_serialConsole :
  ∀ files ∈ serialConsoleStates, ∀ f ∈ serialConsolePlan, ∃ files' ∈ serialConsoleStates,
    applyNext plainKernel files { toRequestedFileChange := f } = some files'
  := by decide +kernel

theorem configureUsbGadget_serialConsole :
  (defaultTransaction serialConsoleDevices).configureUsbGadget true = some serialConsolePlan
  := by
  rw [serialConsolePlan, defaultPlan]
  rfl

theorem linked_serialConsole :
  (defaultTransaction serialConsoleDevices).orderedConfigItems.any
    (defaultTransaction serialConsoleDevices).links = true
  := by decide

/-- The plan with the serial console can be applied to files to which it has been applied. -/
theorem exists_apply_serialConsole {dag : Bool → Dag ChangeKey}
    (lawful : ∀ initial, (dag initial).Lawful) :
  ∃ files', apply dag plainKernel serialConsolePlan (filesAfter serialConsolePlan) = some files'
  := by
  have asked := planRequests_configureUsbGadget rfl rfl configureUsbGadget_serialConsole
  obtain ⟨first, requests, reorder, udc, unbind, bind, hplan, parts⟩ :=
    (defaultTransaction serialConsoleDevices).configureUsbGadget_eq rfl rfl linked_serialConsole
  rw [configureUsbGadget_serialConsole] at hplan
  have hsame := Option.some.inj hplan
  rw [hsame] at asked
  obtain ⟨resolved, change, hok, hresolved⟩ := exists_resolvedPlan rfl shaped_defaultGadgetConfig
    isOrdered_defaultGadgetConfig linked_serialConsole parts (List.Sublist.refl _) rfl asked lawful
    (filesAfter serialConsolePlan).fileSystem
  have hmem := hresolved.requests
  rw [← hsame] at hok hmem
  obtain ⟨files', -, happly⟩ := exists_applyChanges closed_serialConsole hmem List.mem_cons_self
  use files'
  rw [apply, hok]
  apply happly

end SerialConsole

/-! ### Whether the links settle -/

section Whether

open UsbGadgetTransaction

variable {configMap items : List GadgetConfigItemWithKey}

/-- After the plan has been applied, resolving it again leaves the links alone exactly when there is
no serial console, and no audio together with mass storage. -/
theorem settled_iff (shaped : Shaped configMap)
    (same : configMap.map (·.function) = defaultGadgetConfig.map (·.function))
    (ordered : IsOrdered configMap items) (name : FileName) (udc : String)
    (enabledDevices : Devices) {resetUsb : Bool} {plan : ChangeSet}
    (hplan : (newUsbGadgetTransaction name udc items
      (isGadgetConfigItemEnabled enabledDevices)).configureUsbGadget resetUsb = some plan)
    {dag dag' : Bool → Dag ChangeKey} (lawful : ∀ initial, (dag initial).Lawful)
    (lawful' : ∀ initial, (dag' initial).Lawful) {k : Kernel} (hk : k.Lawful)
    {files files' : Files} (happly : apply dag k plan files = some files') :
  Settled dag' plan files' ↔
    enabledDevices.serialConsole = false ∧
      ¬ (enabledDevices.audio = true ∧ enabledDevices.massStorage = true)
  := by
  have hfunctions := map_function_eq same ordered
  have hmem : ∀ val ∈ items, val.function ∈ defaultGadgetConfig.map (·.function) := by
    intro val hval
    rw [← hfunctions]
    apply List.mem_map_of_mem hval
  have hlinked : (newUsbGadgetTransaction name udc items
      (isGadgetConfigItemEnabled enabledDevices)).orderedConfigItems.any
        (newUsbGadgetTransaction name udc items
          (isGadgetConfigItemEnabled enabledDevices)).links = true := by
    have hwake : (GadgetConfigItemWithKey.mk "wake_hid" wakeHIDConfig).function ∈
        items.map (·.function) := by
      rw [hfunctions]
      apply List.mem_map_of_mem
      simp [defaultGadgetConfig]
    obtain ⟨val, hval, hfunction⟩ := List.mem_map.mp hwake
    have hkey : val.key = "wake_hid" := congrArg (·.1) hfunction
    have hisLinked : val.item.isLinked = true := congrArg (·.2.2.2) hfunction
    apply List.any_eq_true.mpr
    use val, hval
    rw [links, hisLinked, Bool.and_true]
    change isGadgetConfigItemEnabled enabledDevices val.key = true
    rw [hkey]
    rfl
  rw [settled_iff_pairwise rfl shaped ordered hlinked
    (exists_configPath_of_function hmem) hplan lawful lawful' hk happly,
    pairwise_itemLinks_iff, hfunctions, pairwise_linkPlaces_iff]

theorem settled_iff_serialConsole :
  ∃ files', apply (fun _ => Dag.preferring []) plainKernel serialConsolePlan
      (filesAfter serialConsolePlan) = some files' ∧
    (Settled (fun _ => Dag.preferring []) serialConsolePlan files' ↔
      serialConsoleDevices.serialConsole = false ∧
        ¬ (serialConsoleDevices.audio = true ∧ serialConsoleDevices.massStorage = true))
  := by
  have hlawful : ∀ _ : Bool, (Dag.preferring ([] : List ChangeKey)).Lawful :=
    fun _ => Dag.lawful_preferring []
  obtain ⟨files', happly⟩ := exists_apply_serialConsole hlawful
  use files', happly
  exact settled_iff shaped_defaultGadgetConfig rfl isOrdered_defaultGadgetConfig (file "jetkvm")
    "ffb00000.usb" serialConsoleDevices configureUsbGadget_serialConsole hlawful hlawful
    lawful_plainKernel happly

/-- With a serial console the links are made anew each time. -/
theorem not_settled_serialConsole :
  ∃ files', (defaultTransaction serialConsoleDevices).configureUsbGadget true =
      some serialConsolePlan ∧
    plainKernel.Lawful ∧ (Dag.preferring ([] : List ChangeKey)).Lawful ∧
    apply (fun _ => Dag.preferring []) plainKernel serialConsolePlan
      (filesAfter serialConsolePlan) = some files' ∧
    ¬ Settled (fun _ => Dag.preferring []) serialConsolePlan files'
  := by
  have hlawful : ∀ _ : Bool, (Dag.preferring ([] : List ChangeKey)).Lawful :=
    fun _ => Dag.lawful_preferring []
  obtain ⟨files', happly⟩ := exists_apply_serialConsole hlawful
  refine ⟨files', configureUsbGadget_serialConsole, lawful_plainKernel, hlawful true, happly, ?_⟩
  have hsingle : ∀ val ∈ defaultGadgetConfig, val.item.isLinked = true →
      ∃ name, val.item.configPath = some [name] :=
    exists_configPath_of_function fun val hval => List.mem_map_of_mem hval
  rw [settled_iff_pairwise rfl shaped_defaultGadgetConfig isOrdered_defaultGadgetConfig
    linked_serialConsole hsingle configureUsbGadget_serialConsole hlawful hlawful
    lawful_plainKernel happly]
  intro hpairwise
  have hplaces := (pairwise_itemLinks_iff _ _ _ _).mp hpairwise
  exact absurd ((pairwise_linkPlaces_iff _).mp hplaces).1 (by decide)

end Whether

end JetKvm.UsbPlan

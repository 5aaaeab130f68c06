import JetKvm.UsbPlan.Ordering

/-!
# When the plan is in order

The plan is accepted in every state of the files. Whatever order the library for graphs
chooses, all files are written before the functions are linked exactly when no enabled item
comes after the last linked one. Otherwise some order writes files of that item when the
gadget has been bound already.
-/

namespace JetKvm.UsbPlan

/-! ### A library that prefers an order -/

/-- A library that orders a graph as in the given list whenever that is a topological order. -/
noncomputable def Dag.preferring {V : Type} [DecidableEq V] (order : List V) : Dag V :=
  open Classical in
  { cycles := fun g =>
      if ∀ u v, Relation.TransGen g.Edge u v → Relation.TransGen g.Edge v u → u = v then []
      else [[]]
    topologicalOrder := fun g =>
      if g.IsTopologicalOrder (order.filter (· ∈ g.vertices)) then order.filter (· ∈ g.vertices)
      else if h : g.Acyclic then h.exists_order.choose
      else [] }

theorem Dag.lawful_preferring {V : Type} [DecidableEq V] (order : List V) :
  (Dag.preferring order).Lawful
  := by
  constructor
  · intro g
    simp [Dag.preferring]
  · intro g acyclic
    rw [Dag.preferring]
    dsimp only
    split
    · next h => apply h
    · apply acyclic.exists_order.choose_spec

theorem Dag.preferring_eq {V : Type} [DecidableEq V] {order : List V} {g : FiniteDigraph V}
    (h : g.IsTopologicalOrder (order.filter (· ∈ g.vertices))) :
  (Dag.preferring order).topologicalOrder g = order.filter (· ∈ g.vertices)
  := by
  rw [Dag.preferring]
  exact if_pos h

/-! ### The plan is accepted -/

namespace UsbGadgetTransaction

variable (tx : UsbGadgetTransaction)

/-- In the resolved changes, the files of every enabled item come before the links, the links
before the controller, and the controller before it is unbound and bound again. -/
structure PlanOrdered (resolved : List FileChange) : Prop where
  nodup : (resolved.map (·.changeKey)).Nodup
  items : ∀ val ∈ tx.orderedConfigItems, tx.isEnabled val = true →
    ∀ key ∈ tx.itemKeys val.item, Before (resolved.map (·.changeKey)) key (.named reorderKey)
  reorder : Before (resolved.map (·.changeKey)) (.named reorderKey) (.named "udc")
  udc : Before (resolved.map (·.changeKey)) (.named "udc") tx.unbindKey
  unbind : Before (resolved.map (·.changeKey)) tx.unbindKey tx.bindKey

/-- Every enabled item is linked or comes before a linked one. -/
def LinkedLast : Prop :=
  ∀ front val back, tx.orderedConfigItems = front ++ val :: back → tx.isEnabled val = true →
    (val :: back).any tx.links = true

end UsbGadgetTransaction

section Accepted

open UsbGadgetTransaction FiniteDigraph

variable {configMap items : List GadgetConfigItemWithKey} {name : FileName} {udcName : String}
  {enabled : String → Bool} {tx : UsbGadgetTransaction} {first requests : List RequestedFileChange}
  {reorder udc unbind bind : RequestedFileChange} {fs : FileSystem}
  {dag : Bool → Dag ChangeKey} {g : FiniteDigraph ChangeKey}

theorem UsbGadgetTransaction.PlanParts.unconditionalRequests_eq
    (parts : tx.PlanParts first requests reorder udc unbind bind) :
  unconditionalRequests (first ++ requests ++ [udc, unbind, bind, reorder]) =
    ownRequests first requests reorder udc unbind bind
  := by
  have hlast :
      unconditionalRequests [udc, unbind, bind, reorder] = [udc, unbind, bind, reorder] := by
    apply unconditionalRequests_eq_self
    simp [RequestedFileChange.IsConditional, parts.udc.condition, parts.unbind.condition,
      parts.bind.condition, parts.reorder.condition]
  rw [unconditionalRequests_append, unconditionalRequests_append, hlast,
    unconditionalRequests_eq_self parts.first.unconditional]
  rfl

theorem UsbGadgetTransaction.PlanParts.conditionalRequests_eq
    (parts : tx.PlanParts first requests reorder udc unbind bind) :
  conditionalRequests (first ++ requests ++ [udc, unbind, bind, reorder]) =
    conditionalRequests requests
  := by
  have hlast : conditionalRequests [udc, unbind, bind, reorder] = [] := by
    apply conditionalRequests_eq_nil
    simp [RequestedFileChange.IsConditional, parts.udc.condition, parts.unbind.condition,
      parts.bind.condition, parts.reorder.condition]
  rw [conditionalRequests_append, conditionalRequests_append, hlast,
    conditionalRequests_eq_nil parts.first.unconditional, List.nil_append, List.append_nil]

theorem UsbGadgetTransaction.PlanParts.keys_ownRequests
    (parts : tx.PlanParts first requests reorder udc unbind bind) :
  (ownRequests first requests reorder udc unbind bind).map (·.changeKey) =
    tx.baseKeys ++ tx.orderedConfigItems.flatMap tx.writtenKeys ++
      [.named "udc", tx.unbindKey, tx.bindKey, .named reorderKey]
  := by
  obtain ⟨after, hrequests⟩ := parts.requests
  simp [ownRequests, parts.first.keys_eq, hrequests.covers.keys_eq, parts.udc.changeKey,
    parts.unbind.changeKey, parts.bind.changeKey, parts.reorder.changeKey]

theorem UsbGadgetTransaction.PlanParts.keys_conditional
    (parts : tx.PlanParts first requests reorder udc unbind bind) :
  (conditionalRequests requests).map (·.changeKey) = tx.getDisableKeys
  := by
  obtain ⟨after, hrequests⟩ := parts.requests
  rw [hrequests.conditional_keys]
  rfl

theorem UsbGadgetTransaction.PlanParts.changesBefore_subset
    (parts : tx.PlanParts first requests reorder udc unbind bind) :
  ∀ f ∈ ownRequests first requests reorder udc unbind bind, f.changesBefore ⊆ tx.getDisableKeys
  := by
  obtain ⟨after, hrequests⟩ := parts.requests
  intro f hf
  rcases List.mem_append.mp hf with h | h
  · rcases List.mem_append.mp h with h | h
    · apply parts.first.changesBefore f h
    · apply hrequests.covers.changesBefore f h
  · simp only [List.mem_cons, List.not_mem_nil, or_false] at h
    rcases h with rfl | rfl | rfl | rfl
    · rw [parts.udc.changesBefore]
      apply List.nil_subset
    · rw [parts.unbind.changesBefore]
      apply List.nil_subset
    · rw [parts.bind.changesBefore]
      apply List.nil_subset
    · rw [parts.reorder.changesBefore]
      apply List.nil_subset

/-- Every edge of a graph of the plan is that of an entry of the arrangement. -/
theorem UsbGadgetTransaction.PlanParts.edges_of_within
    (parts : tx.PlanParts first requests reorder udc unbind bind)
    {entries : List (ChangeKey × List ChangeKey)}
    (hentries : ∀ f ∈ ownRequests first requests reorder udc unbind bind, entry f ∈ entries)
    (within : Within (ownRequests first requests reorder udc unbind bind ++
      conditionalRequests requests) g) :
  ∀ u v, g.Edge u v → ∃ e ∈ entries, e.1 = v ∧ u ∈ e.2
  := by
  intro u v edge
  obtain ⟨f, hf, rfl, hu⟩ := within.edges u v edge
  rcases List.mem_append.mp hf with h | h
  · exact ⟨entry f, hentries f h, rfl, hu⟩
  · obtain ⟨after, hrequests⟩ := parts.requests
    rw [hrequests.conditional_deps f h] at hu
    cases hu

variable (htx : tx = newUsbGadgetTransaction name udcName items enabled)
  (shaped : Shaped configMap) (ordered : IsOrdered configMap items)
  (parts : tx.PlanParts first requests reorder udc unbind bind)
  (lawful : ∀ initial, (dag initial).Lawful)

include htx shaped ordered parts

/-- A list of all changes that puts what comes after the last linked item at the end. -/
theorem exists_entries {front back : List GadgetConfigItemWithKey} (hitems : items = front ++ back)
    (hback : back.any tx.links = false) :
  ∃ entries : List (ChangeKey × List ChangeKey), DependsBackwards entries ∧
    (entries.map Prod.fst).Nodup ∧
    entries.map Prod.fst = tx.getDisableKeys ++ (tx.baseKeys ++
      (front.flatMap tx.writtenKeys ++ (tx.lastKeys ++ back.flatMap tx.writtenKeys))) ∧
    ∀ f ∈ ownRequests first requests reorder udc unbind bind, entry f ∈ entries
  := by
  have hordered : tx.orderedConfigItems = front ++ back := by
    subst htx
    apply hitems
  obtain ⟨entries, hbackwards, hkeys, hentries⟩ := exists_arrangement parts hordered hback
  refine ⟨entries, hbackwards, ?_, hkeys, hentries⟩
  have hnodup := nodup_planKeys htx shaped ordered
  rw [hitems, List.flatMap_append, List.append_assoc] at hnodup
  rw [hkeys]
  apply (List.Perm.nodup_iff _).mp hnodup
  apply List.Perm.append_left
  apply List.Perm.append_left
  apply List.Perm.append_left
  apply List.perm_append_comm

/-- The plan is an acceptable change set. -/
theorem acceptable_plan :
  Acceptable (first ++ requests ++ [udc, unbind, bind, reorder])
  := by
  obtain ⟨entries, hbackwards, hnodup, -, hentries⟩ := exists_entries htx shaped ordered parts
    (List.append_nil items).symm rfl
  have hplan := nodup_planKeys htx shaped ordered
  have hitems : tx.orderedConfigItems = items := by
    rw [htx]
    rfl
  constructor
  · have hlast : tx.lastKeys.Perm [.named "udc", tx.unbindKey, tx.bindKey, .named reorderKey] := by
      exact (List.perm_append_singleton _ _).symm
    rw [parts.unconditionalRequests_eq, parts.keys_ownRequests, hitems, List.append_assoc]
    rw [← List.Perm.nodup_iff ((hlast.append_left _).append_left _)]
    apply hplan.of_append_right
  · rw [parts.conditionalRequests_eq, parts.keys_conditional]
    apply hplan.of_append_left
  · rw [parts.unconditionalRequests_eq, parts.conditionalRequests_eq]
    intro f hf dep hdep
    rcases List.mem_append.mp hf with h | h
    · rw [parts.keys_conditional]
      apply parts.changesBefore_subset f h hdep
    · obtain ⟨after, hrequests⟩ := parts.requests
      rw [(List.append_eq_nil_iff.mp (hrequests.conditional_deps f h)).2] at hdep
      cases hdep
  · rw [parts.unconditionalRequests_eq, parts.conditionalRequests_eq]
    exact fun g within =>
      acyclic_of_dependsBackwards hnodup hbackwards (parts.edges_of_within hentries within)

include lawful

variable (fs) in
/-- The plan is accepted in every state of the files. -/
theorem getChanges_plan :
  ∃ initial g resolved,
    getChanges dag fs (first ++ requests ++ [udc, unbind, bind, reorder]) = .ok resolved ∧
    IsResolution (ownRequests first requests reorder udc unbind bind)
      (conditionalRequests requests) (dag initial) g resolved ∧
    g.Acyclic
  := by
  have hacceptable := acceptable_plan htx shaped ordered parts
  obtain ⟨initial, g, resolved, hok, hresolution⟩ := hacceptable.getChanges_ok fs lawful
  refine ⟨initial, g, resolved, hok, ?_, hacceptable.acyclic g hresolution.within⟩
  rw [← parts.unconditionalRequests_eq, ← parts.conditionalRequests_eq]
  apply hresolution

omit htx shaped ordered parts in
/-- What an unconditional change depends on comes before it. -/
theorem before_of_dependsOn {initial : Bool} {resolved : List FileChange}
    (hresolution : IsResolution (ownRequests first requests reorder udc unbind bind)
      (conditionalRequests requests) (dag initial) g resolved) (hacyclic : g.Acyclic)
    {f f' : RequestedFileChange} (hf : f ∈ ownRequests first requests reorder udc unbind bind)
    (hf' : f' ∈ ownRequests first requests reorder udc unbind bind)
    (hdep : f'.changeKey ∈ f.dependsOn) :
  Before (resolved.map (·.changeKey)) f'.changeKey f.changeKey
  := by
  have horder := (lawful initial).order g hacyclic
  have hmem := hresolution.vertices f hf
  have hmem' := hresolution.vertices f' hf'
  rw [hresolution.keys]
  apply Before.filter
  · apply horder.respects _ _ (hresolution.edges f hf _ hdep)
    · apply horder.complete _ hmem'
    · apply horder.complete _ hmem
  · apply decide_eq_true hmem'
  · apply decide_eq_true hmem

omit htx shaped ordered in
/-- When no enabled item comes after the last linked one, the resolved changes are in order. -/
theorem planOrdered_of_linkedLast {initial : Bool} {resolved : List FileChange}
    (hresolution : IsResolution (ownRequests first requests reorder udc unbind bind)
      (conditionalRequests requests) (dag initial) g resolved) (hacyclic : g.Acyclic)
    (linkedLast : tx.LinkedLast) :
  tx.PlanOrdered resolved
  := by
  have hbefore : ∀ f ∈ ownRequests first requests reorder udc unbind bind,
      ∀ f' ∈ ownRequests first requests reorder udc unbind bind, f'.changeKey ∈ f.dependsOn →
        Before (resolved.map (·.changeKey)) f'.changeKey f.changeKey :=
    fun f hf f' hf' => before_of_dependsOn lawful hresolution hacyclic hf hf'
  have hlast : ∀ f ∈ [udc, unbind, bind, reorder],
      f ∈ ownRequests first requests reorder udc unbind bind :=
    fun f hf => List.mem_append_right _ hf
  constructor
  · rw [hresolution.keys]
    exact ((lawful initial).order g hacyclic).nodup.filter _
  · intro val hval henabled key hkey
    obtain ⟨front, back, hitems⟩ := List.append_of_mem hval
    have hkeys : tx.enabledKeys [val] = tx.itemKeys val.item := by
      simp [enabledKeys, henabled]
    have hdep : key ∈ reorder.dependsOn := by
      rw [parts.reorder.dependsOn, reorderFiles, hitems]
      apply enabledKeys_subset_linkedFiles (linkedLast front val back hitems henabled)
      rw [hkeys]
      apply hkey
    have hown : key ∈ (ownRequests first requests reorder udc unbind bind).map (·.changeKey) := by
      rw [parts.keys_ownRequests]
      apply List.mem_append_left
      apply List.mem_append_right
      apply List.mem_flatMap.mpr
      use val, hval
      apply enabledKeys_subset_writtenKeys
      rw [hkeys]
      apply hkey
    obtain ⟨f', hf', rfl⟩ := List.mem_map.mp hown
    have h := hbefore reorder (hlast reorder (by simp)) f' hf' hdep
    rw [parts.reorder.changeKey] at h
    apply h
  · have h := hbefore udc (hlast udc (by simp)) reorder (hlast reorder (by simp))
    rw [parts.udc.dependsOn, parts.udc.changeKey, parts.reorder.changeKey] at h
    exact h (by simp)
  · have h := hbefore unbind (hlast unbind (by simp)) udc (hlast udc (by simp))
    rw [parts.unbind.dependsOn, parts.unbind.changeKey, parts.udc.changeKey] at h
    exact h (by simp)
  · have h := hbefore bind (hlast bind (by simp)) unbind (hlast unbind (by simp))
    rw [parts.bind.dependsOn, parts.bind.changeKey, parts.unbind.changeKey] at h
    exact h (by simp)

omit lawful in
/-- A library may order the changes so that what is written after the last linked item comes
last. -/
theorem exists_lateOrder {front back : List GadgetConfigItemWithKey} (hitems : items = front ++ back)
    (hback : back.any tx.links = false) :
  ∃ dag : Bool → Dag ChangeKey, (∀ initial, (dag initial).Lawful) ∧
    ∀ fs resolved, getChanges dag fs (first ++ requests ++ [udc, unbind, bind, reorder]) =
      .ok resolved → ∀ last ∈ tx.lastKeys, ∀ key ∈ back.flatMap tx.writtenKeys,
        Before (resolved.map (·.changeKey)) last key
  := by
  obtain ⟨entries, hbackwards, hnodup, hkeys, hentries⟩ :=
    exists_entries htx shaped ordered parts hitems hback
  have hlawful : ∀ initial : Bool, (Dag.preferring (entries.map Prod.fst)).Lawful :=
    fun _ => Dag.lawful_preferring _
  refine ⟨fun _ => Dag.preferring (entries.map Prod.fst), hlawful, ?_⟩
  intro fs resolved hresolved last hlast key hkey
  obtain ⟨initial, g, resolved', hok, hresolution, -⟩ := getChanges_plan fs htx shaped
    ordered parts hlawful
  obtain rfl : resolved = resolved' := by
    rw [hresolved] at hok
    exact Except.ok.inj hok
  have hordered : tx.orderedConfigItems = front ++ back := by
    subst htx
    apply hitems
  have hvertices : ∀ v ∈ g.vertices, v ∈ entries.map Prod.fst := by
    intro v hv
    have hmem := hresolution.within.vertices v hv
    rw [List.map_append, parts.keys_ownRequests, parts.keys_conditional, hordered,
      List.flatMap_append] at hmem
    rw [hkeys]
    simp only [List.mem_append, lastKeys, List.mem_cons, List.not_mem_nil, or_false] at hmem ⊢
    tauto
  have horder := isTopologicalOrder_of_dependsBackwards hnodup hbackwards
    (parts.edges_of_within hentries hresolution.within) hvertices
  have hlate : Before (entries.map Prod.fst) last key := by
    rw [hkeys]
    apply Before.append_left
    apply Before.append_left
    apply Before.append_left
    apply before_append hlast hkey
  have hown : ∀ key ∈ (ownRequests first requests reorder udc unbind bind).map (·.changeKey),
      key ∈ g.vertices := by
    intro key hkey
    obtain ⟨f, hf, rfl⟩ := List.mem_map.mp hkey
    apply hresolution.vertices f hf
  have hkeyVertex : key ∈ g.vertices := by
    apply hown
    rw [parts.keys_ownRequests, hordered, List.flatMap_append]
    apply List.mem_append_left
    apply List.mem_append_right
    apply List.mem_append_right _ hkey
  have hlastVertex : last ∈ g.vertices := by
    apply hown
    rw [parts.keys_ownRequests]
    simp only [List.mem_append, lastKeys, List.mem_cons, List.not_mem_nil, or_false] at hlast ⊢
    tauto
  rw [hresolution.keys, Dag.preferring_eq horder]
  have hfilter : Before ((entries.map Prod.fst).filter (· ∈ g.vertices)) last key :=
    hlate.filter (decide_eq_true hlastVertex) (decide_eq_true hkeyVertex)
  exact hfilter.filter (decide_eq_true hlastVertex) (decide_eq_true hkeyVertex)

omit lawful in
variable (fs) in
/-- When an enabled item comes after the last linked one, a library may order the changes so that
files of that item are written after the functions have been linked. -/
theorem not_planOrdered {front back : List GadgetConfigItemWithKey} {val : GadgetConfigItemWithKey}
    (hitems : items = front ++ val :: back) (henabled : tx.isEnabled val = true)
    (hback : (val :: back).any tx.links = false) :
  ∃ dag : Bool → Dag ChangeKey, (∀ initial, (dag initial).Lawful) ∧
    ∀ resolved, getChanges dag fs (first ++ requests ++ [udc, unbind, bind, reorder]) =
      .ok resolved → ¬ tx.PlanOrdered resolved
  := by
  obtain ⟨dag, hlawful, hlate⟩ := exists_lateOrder htx shaped ordered parts hitems hback
  use dag, hlawful
  intro resolved hresolved hplan
  have hordered : tx.orderedConfigItems = front ++ val :: back := by
    subst htx
    apply hitems
  -- the report descriptor of the item, which is written or removed in any case
  let key : ChangeKey :=
    .path (joinPath tx.kvmGadgetPath (val.item.path ++ [GadgetConfigItem.reportDescName]))
  have hitem : key ∈ tx.itemKeys val.item := by
    apply List.mem_map_of_mem
    apply List.mem_append_left
    apply List.mem_map_of_mem
    apply List.mem_append_right
    apply List.mem_map_of_mem
    simp [GadgetConfigItem.fileNames]
  have hwritten : key ∈ (val :: back).flatMap tx.writtenKeys := by
    rw [List.flatMap_cons, writtenKeys, if_pos henabled]
    apply List.mem_append_left _ hitem
  have hearly := hplan.items val (by simp [hordered]) henabled key hitem
  apply Before.asymm hplan.nodup hearly
  apply hlate fs resolved hresolved _ _ key hwritten
  simp [lastKeys]

end Accepted

/-! ### The plan of a configuration -/

section Plan

open UsbGadgetTransaction

variable {configMap items : List GadgetConfigItemWithKey}

/-- The plan for the items is accepted in a state of the files and resolved in order, whatever
the library for graphs answers. -/
def AcceptedInOrder (tx : UsbGadgetTransaction) (fs : FileSystem) : Prop :=
  ∃ plan, tx.configureUsbGadget true = some plan ∧
    ∀ dag : Bool → Dag ChangeKey, (∀ initial, (dag initial).Lawful) →
      ∃ resolved, getChanges dag fs plan = .ok resolved ∧ tx.PlanOrdered resolved

/-- With an enabled item after the last linked one, the plan is not in order. -/
theorem not_acceptedInOrder {front back : List GadgetConfigItemWithKey}
    {val : GadgetConfigItemWithKey} {tx : UsbGadgetTransaction} {name : FileName} {udc : String}
    {enabled : String → Bool} (fs : FileSystem)
    (htx : tx = newUsbGadgetTransaction name udc items enabled) (shaped : Shaped configMap)
    (ordered : IsOrdered configMap items) (hlinked : tx.orderedConfigItems.any tx.links = true)
    (hitems : items = front ++ val :: back) (henabled : tx.isEnabled val = true)
    (hback : (val :: back).any tx.links = false) :
  ¬ AcceptedInOrder tx fs
  := by
  rintro ⟨plan, hplan, hall⟩
  obtain ⟨first, requests, reorder, udc', unbind, bind, hplan', parts⟩ :=
    tx.configureUsbGadget_eq (by subst htx; rfl) (by subst htx; rfl) hlinked
  obtain ⟨dag, hlawful, hnot⟩ := not_planOrdered fs htx shaped ordered parts hitems henabled hback
  obtain ⟨resolved, hok, hordered⟩ := hall dag hlawful
  rw [hplan] at hplan'
  cases hplan'
  exact hnot resolved hok hordered

/-- Of the shape of the default configuration, with a linked item, the plan is in order exactly
when no enabled item comes after the last linked one. -/
theorem acceptedInOrder_iff (shaped : Shaped configMap) (ordered : IsOrdered configMap items)
    (name : FileName) (udc : String) (enabled : String → Bool)
    (linked : ∃ val ∈ items, enabled val.key = true ∧ val.item.isLinked = true)
    (fs : FileSystem) :
  AcceptedInOrder (newUsbGadgetTransaction name udc items enabled) fs ↔
    (newUsbGadgetTransaction name udc items enabled).LinkedLast
  := by
  generalize htx : newUsbGadgetTransaction name udc items enabled = tx
  have hlinked : tx.orderedConfigItems.any tx.links = true := by
    subst htx
    obtain ⟨val, hval, henabled, hlinked⟩ := linked
    apply List.any_eq_true.mpr
    use val, hval
    rw [links, isEnabled, hlinked, Bool.and_true]
    apply henabled
  constructor
  · intro accepted front val back hitems henabled
    by_contra hlast
    have hitems : items = front ++ val :: back := by
      subst htx
      apply hitems
    exact not_acceptedInOrder fs htx.symm shaped ordered hlinked hitems henabled
      (Bool.eq_false_iff.mpr hlast) accepted
  · intro linkedLast
    obtain ⟨first, requests, reorder, udc', unbind, bind, hplan, parts⟩ :=
      tx.configureUsbGadget_eq (by subst htx; rfl) (by subst htx; rfl) hlinked
    refine ⟨_, hplan, ?_⟩
    intro dag hlawful
    obtain ⟨initial, g, resolved, hok, hresolution, hacyclic⟩ := getChanges_plan fs
      htx.symm shaped ordered parts hlawful
    exact ⟨resolved, hok, planOrdered_of_linkedLast parts hlawful hresolution hacyclic linkedLast⟩

end Plan

/-! ### The default configuration -/

/-- No file is there yet. -/
def noFiles : FileSystem where
  lstat := fun _ => .notExist
  readlink := fun _ => none
  readFile := fun _ => none
  readDir := fun _ => none
  mounts := some []

theorem isOrdered_defaultGadgetConfig : IsOrdered defaultGadgetConfig defaultGadgetConfig
  := by
  constructor
  · apply List.Perm.refl
  · decide

/-- The transaction of the default configuration. -/
def defaultTransaction (enabledDevices : Devices) : UsbGadgetTransaction :=
  newUsbGadgetTransaction (file "jetkvm") "ffb00000.usb" defaultGadgetConfig
    (isGadgetConfigItemEnabled enabledDevices)

/-- The keyboard is linked. -/
theorem linked_defaultGadgetConfig :
  ∃ val ∈ defaultGadgetConfig, isGadgetConfigItemEnabled defaultUsbGadgetDevices val.key = true ∧
    val.item.isLinked = true
  := by
  refine ⟨⟨"keyboard", keyboardConfig⟩, ?_, rfl, rfl⟩
  simp [defaultGadgetConfig]

theorem acceptedInOrder_iff_default :
  AcceptedInOrder (defaultTransaction defaultUsbGadgetDevices) noFiles ↔
    (defaultTransaction defaultUsbGadgetDevices).LinkedLast
  := acceptedInOrder_iff shaped_defaultGadgetConfig isOrdered_defaultGadgetConfig _ _ _
    linked_defaultGadgetConfig noFiles

/-- The drive of the mass storage comes after the last function that is linked, so that the
default plan may write it when the gadget has been bound. -/
theorem default_plan_not_in_order :
  Shaped defaultGadgetConfig ∧ IsOrdered defaultGadgetConfig defaultGadgetConfig ∧
    (∃ val ∈ defaultGadgetConfig, isGadgetConfigItemEnabled defaultUsbGadgetDevices val.key = true ∧
      val.item.isLinked = true) ∧
    ¬ AcceptedInOrder (defaultTransaction defaultUsbGadgetDevices) noFiles
  := by
  use shaped_defaultGadgetConfig, isOrdered_defaultGadgetConfig, linked_defaultGadgetConfig
  have hitems : defaultGadgetConfig = defaultGadgetConfig.take 8 ++
      ⟨"mass_storage_lun0", massStorageLun0Config⟩ ::
        [⟨"serial_console", serialConsoleConfig⟩] := rfl
  apply not_acceptedInOrder noFiles rfl shaped_defaultGadgetConfig isOrdered_defaultGadgetConfig
    _ hitems
  · decide
  · decide
  · decide

end JetKvm.UsbPlan

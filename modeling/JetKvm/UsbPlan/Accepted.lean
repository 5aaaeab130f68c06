import JetKvm.UsbPlan.Resolution

/-!
# What an accepted change set is resolved to

Of the unconditional requests with one key the first one is entered into the maps, and of the
conditional ones the last. Later unconditional requests must be the same, up to what is compared.
When a change set is accepted, what has been entered is resolved by the two passes.
-/

namespace JetKvm.UsbPlan

variable {own conditional : List RequestedFileChange} {r r' : ChangeSetResolver}
  {fs : FileSystem} {key : ChangeKey}

/-! ### Requests with one key -/

/-- The request is the first unconditional one with its key. Later ones with the key are left out
when they are the same up to what is compared, and otherwise the change set is refused. -/
def IsFirst (changes : ChangeSet) (f : RequestedFileChange) : Prop :=
  (unconditionalRequests changes).find? (fun g => g.changeKey = f.changeKey) = some f

/-- What is in the maps when the given requests have been entered. -/
structure Entered (seen : ChangeSet) (own conditional : List RequestedFileChange)
    (r : ChangeSetResolver) : Prop where
  eq : r = { unconditionalChanges := own.map toFileChange
             conditionalChangesMap := conditional.map toFileChange }
  nodup_own : (own.map (·.changeKey)).Nodup
  nodup_conditional : (conditional.map (·.changeKey)).Nodup
  mem_own : ∀ f, f ∈ own ↔ IsFirst seen f
  subset : ∀ f ∈ conditional, f ∈ conditionalRequests seen
  keys : ∀ f ∈ conditionalRequests seen, f.changeKey ∈ conditional.map (·.changeKey)

theorem IsFirst.mem {changes : ChangeSet} {f : RequestedFileChange} (h : IsFirst changes f) :
  f ∈ unconditionalRequests changes
  := List.mem_of_find?_eq_some h

/-- Every unconditional request has the key of a first one. -/
theorem exists_isFirst {changes : ChangeSet} {f : RequestedFileChange}
    (h : f ∈ unconditionalRequests changes) :
  ∃ g, IsFirst changes g ∧ g.changeKey = f.changeKey
  := by
  have hsome : ((unconditionalRequests changes).find?
      (fun g => g.changeKey = f.changeKey)).isSome := by
    rw [List.find?_isSome]
    exact ⟨f, h, decide_eq_true rfl⟩
  obtain ⟨g, hg⟩ := Option.isSome_iff_exists.mp hsome
  have hkey : g.changeKey = f.changeKey := by simpa using List.find?_some hg
  use g
  constructor
  · rw [IsFirst, hkey]
    exact hg
  · exact hkey

/-- A conditional request makes no difference to the unconditional ones. -/
theorem isFirst_append_conditional {seen : ChangeSet} {f g : RequestedFileChange}
    (hf : f.IsConditional) :
  IsFirst (seen ++ [f]) g ↔ IsFirst seen g
  := by
  have hrequests : unconditionalRequests (seen ++ [f]) = unconditionalRequests seen := by
    simp [unconditionalRequests, hf]
  rw [IsFirst, hrequests, IsFirst]

/-- An unconditional request is the first one unless its key has been seen. -/
theorem isFirst_append {seen : ChangeSet} {f g : RequestedFileChange} (hf : ¬ f.IsConditional) :
  IsFirst (seen ++ [f]) g ↔ IsFirst seen g ∨
    g = f ∧ f.changeKey ∉ (unconditionalRequests seen).map (·.changeKey)
  := by
  have hrequests : unconditionalRequests (seen ++ [f]) = unconditionalRequests seen ++ [f] := by
    simp [unconditionalRequests, hf]
  rw [IsFirst, hrequests, IsFirst, List.find?_append]
  cases hfind : (unconditionalRequests seen).find? fun e => e.changeKey = g.changeKey with
  | some e =>
      rw [Option.some_or]
      apply Iff.symm
      apply or_iff_left
      rintro ⟨rfl, hnot⟩
      apply hnot
      have hkey : e.changeKey = g.changeKey := by simpa using List.find?_some hfind
      rw [← hkey]
      exact List.mem_map_of_mem (List.mem_of_find?_eq_some hfind)
  | none =>
      rw [Option.none_or, List.find?_singleton]
      have hnot : g.changeKey ∉ (unconditionalRequests seen).map (·.changeKey) := by
        intro hmem
        obtain ⟨e, he, heq⟩ := List.mem_map.mp hmem
        have hnone := List.find?_eq_none.mp hfind e he
        exact hnone (decide_eq_true heq)
      constructor
      · intro h
        obtain ⟨-, heq⟩ := Option.ite_none_right_eq_some.mp h
        obtain rfl := Option.some.inj heq
        exact Or.inr ⟨rfl, hnot⟩
      · rintro (h | ⟨rfl, -⟩)
        · cases h
        · exact if_pos (decide_eq_true rfl)

theorem map_changeKey_toFileChange (requests : List RequestedFileChange) :
  (requests.map toFileChange).map (·.changeKey) = requests.map (·.changeKey)
  := by
  rw [List.map_map]
  rfl

theorem Entered.keys_own {seen : ChangeSet} (h : Entered seen own conditional r) :
  key ∈ own.map (·.changeKey) ↔ key ∈ (unconditionalRequests seen).map (·.changeKey)
  := by
  constructor
  · rintro hmem
    obtain ⟨f, hf, rfl⟩ := List.mem_map.mp hmem
    exact List.mem_map_of_mem ((h.mem_own f).mp hf).mem
  · rintro hmem
    obtain ⟨f, hf, rfl⟩ := List.mem_map.mp hmem
    obtain ⟨g, hg, hkey⟩ := exists_isFirst hf
    rw [← hkey]
    exact List.mem_map_of_mem ((h.mem_own g).mpr hg)

/-- Entering one more conditional request. -/
theorem Entered.addConditional {seen : ChangeSet} {f : RequestedFileChange}
    (h : Entered seen own conditional r) (hf : f.IsConditional)
    (hr : r.addChange (toFileChange f) = .ok r') :
  Entered (seen ++ [f]) own
    (conditional.filter (fun g => g.changeKey ≠ f.changeKey) ++ [f]) r'
  := by
  obtain rfl := h.eq
  have hrequests : conditionalRequests (seen ++ [f]) = conditionalRequests seen ++ [f] := by
    simp [conditionalRequests, hf]
  have hcond : (toFileChange f).IsConditional := hf
  rw [ChangeSetResolver.addChange, if_pos hcond] at hr
  obtain rfl := Except.ok.inj hr
  constructor
  · rw [List.map_append, List.filter_map]
    rfl
  · exact h.nodup_own
  · rw [List.map_append, List.map_singleton, List.nodup_append_comm, List.singleton_append,
      List.nodup_cons]
    constructor
    · intro hmem
      obtain ⟨g, hg, heq⟩ := List.mem_map.mp hmem
      exact of_decide_eq_true (List.mem_filter.mp hg).2 heq
    · exact h.nodup_conditional.sublist (List.filter_sublist.map _)
  · intro g
    rw [h.mem_own, isFirst_append_conditional hf]
  · intro g hg
    rw [hrequests]
    obtain hg | hg := List.mem_append.mp hg
    · exact List.mem_append_left _ (h.subset g (List.mem_filter.mp hg).1)
    · exact List.mem_append_right _ hg
  · rw [hrequests]
    intro g hg
    rw [List.map_append, List.mem_append]
    by_cases hkey : g.changeKey = f.changeKey
    · right
      rw [hkey]
      exact List.mem_map_of_mem (List.mem_singleton_self f)
    · left
      obtain hg | hg := List.mem_append.mp hg
      · obtain ⟨e, he, heq⟩ := List.mem_map.mp (h.keys g hg)
        rw [← heq] at hkey ⊢
        exact List.mem_map_of_mem (List.mem_filter.mpr ⟨he, decide_eq_true hkey⟩)
      · exact absurd (congrArg _ (List.mem_singleton.mp hg)) hkey

/-- Entering one more unconditional request. -/
theorem Entered.addUnconditional {seen : ChangeSet} {f : RequestedFileChange}
    (h : Entered seen own conditional r) (hf : ¬ f.IsConditional)
    (hr : r.addChange (toFileChange f) = .ok r') :
  ∃ own', Entered (seen ++ [f]) own' conditional r'
  := by
  obtain rfl := h.eq
  have hrequests : conditionalRequests (seen ++ [f]) = conditionalRequests seen := by
    simp [conditionalRequests, hf]
  have hcond : ¬ (toFileChange f).IsConditional := hf
  rw [ChangeSetResolver.addChange, if_neg hcond] at hr
  cases hfind : findChange (toFileChange f).changeKey (own.map toFileChange) with
  | none =>
      rw [hfind] at hr
      obtain rfl := Except.ok.inj hr
      have hnew : f.changeKey ∉ own.map (·.changeKey) := by
        rw [← map_changeKey_toFileChange]
        exact findChange_eq_none.mp hfind
      use own ++ [f]
      constructor
      · rw [List.map_append]
        rfl
      · rw [List.map_append, List.map_singleton, List.nodup_append_comm, List.singleton_append,
          List.nodup_cons]
        exact ⟨hnew, h.nodup_own⟩
      · exact h.nodup_conditional
      · intro g
        rw [List.mem_append, List.mem_singleton, h.mem_own, isFirst_append hf, ← h.keys_own,
          and_iff_left hnew]
      · rw [hrequests]
        exact h.subset
      · rw [hrequests]
        exact h.keys
  | some current =>
      rw [hfind] at hr
      dsimp only at hr
      split at hr
      · obtain rfl := Except.ok.inj hr
        obtain ⟨hcurrent, hkey⟩ := mem_of_findChange hfind
        have hseen : f.changeKey ∈ own.map (·.changeKey) := by
          have hmem := List.mem_map_of_mem (f := (·.changeKey)) hcurrent
          rw [hkey] at hmem
          rw [← map_changeKey_toFileChange]
          exact hmem
        use own
        refine ⟨rfl, h.nodup_own, h.nodup_conditional, ?_, ?_, ?_⟩
        · intro g
          rw [h.mem_own, isFirst_append hf, ← h.keys_own]
          exact (or_iff_left fun hnew => hnew.2 hseen).symm
        · rw [hrequests]
          exact h.subset
        · rw [hrequests]
          exact h.keys
      · cases hr

theorem Entered.foldlM {seen changes : ChangeSet} (h : Entered seen own conditional r)
    (hr : changes.foldlM (fun r change => r.addChange (toFileChange change)) r = .ok r') :
  ∃ own' conditional', Entered (seen ++ changes) own' conditional' r'
  := by
  induction changes generalizing seen own conditional r with
  | nil =>
      obtain rfl := Except.ok.inj hr
      rw [List.append_nil]
      exact ⟨own, conditional, h⟩
  | cons f changes ih =>
      rw [List.foldlM_cons] at hr
      cases hstep : r.addChange (toFileChange f) with
      | error err =>
          rw [hstep] at hr
          cases hr
      | ok r₁ =>
          rw [hstep] at hr
          rw [List.append_cons]
          by_cases hf : f.IsConditional
          · exact ih (h.addConditional hf hstep) hr
          · obtain ⟨own', hnext⟩ := h.addUnconditional hf hstep
            exact ih hnext hr

/-- The resolver that the maps make works on the requests that have been entered. -/
theorem Entered.tracks {seen : ChangeSet} (h : Entered seen own conditional r) :
  Tracks own conditional r
  := by
  obtain rfl := h.eq
  have hrequests : ∀ requests : List RequestedFileChange,
      (requests.map toFileChange).map (·.toRequestedFileChange) = requests := by
    intro requests
    rw [List.map_map]
    exact List.map_id requests
  refine ⟨hrequests own, hrequests conditional, ?_, fun dep hdep => ?_, fun _ => rfl⟩
  · intro change hchange
    rw [← List.map_append] at hchange
    obtain ⟨f, -, rfl⟩ := List.mem_map.mp hchange
    exact List.nil_subset _
  · cases hdep

/-! ### Accepted change sets -/

/-- What an accepted change set is resolved to: every unconditional change once, the conditional
changes that a first request triggers, nothing twice, and what a change depends on and what it
triggers before it. -/
structure ResolvedTo (fs : FileSystem) (changes : ChangeSet) (resolved : List FileChange) :
    Prop where
  unconditional : ∀ f ∈ unconditionalRequests changes,
    (resolved.map (·.changeKey)).count f.changeKey = 1
  conditional : ∀ f ∈ conditionalRequests changes,
    f.changeKey ∈ resolved.map (·.changeKey) ↔
      ∃ g, IsFirst changes g ∧ firstPassAction fs g ≠ .doNothing ∧ f.changeKey ∈ g.changesBefore
  nodup : (resolved.map (·.changeKey)).Nodup
  dependsOn : ∀ change ∈ resolved, ∀ dep ∈ change.dependsOn,
    dep ∈ resolved.map (·.changeKey) → Before (resolved.map (·.changeKey)) dep change.changeKey
  before : ∀ f, IsFirst changes f → firstPassAction fs f ≠ .doNothing →
    ∀ dep ∈ f.changesBefore, Before (resolved.map (·.changeKey)) dep f.changeKey
  requests : ∀ change ∈ resolved, change.toRequestedFileChange ∈ changes

/-- What has been entered is resolved. -/
theorem Entered.resolvedTo {dag : Bool → Dag ChangeKey} {changes : ChangeSet}
    (h : Entered changes own conditional r) (orders : ∀ initial, (dag initial).Orders)
    (disjoint : ∀ f ∈ unconditionalRequests changes, ∀ g ∈ conditionalRequests changes,
      f.changeKey ≠ g.changeKey)
    (quiet : ∀ f ∈ conditionalRequests changes, f.changesBefore = [])
    (hrun : r.resolveChanges fs dag = .ok r') :
  ResolvedTo fs changes r'.resolvedChanges
  := by
  have hdisjoint : ∀ f ∈ own, f.changeKey ∉ conditional.map (·.changeKey) := by
    intro f hf hmem
    obtain ⟨g, hg, heq⟩ := List.mem_map.mp hmem
    exact disjoint f ((h.mem_own f).mp hf).mem g (h.subset g hg) heq.symm
  have hquiet : ∀ f ∈ conditional, f.changesBefore = [] := fun f hf => quiet f (h.subset f hf)
  have hresolution : Resolution fs own conditional r'.resolvedChanges := by
    apply resolution_of_resolveChanges h.nodup_own h.nodup_conditional orders hdisjoint hquiet
      h.tracks _ _ hrun
    · rw [h.eq]
    · rw [h.eq]
      intro change hchange
      obtain ⟨f, -, rfl⟩ := List.mem_map.mp hchange
      rfl
  have hown : ∀ {f}, f ∈ unconditionalRequests changes → f.changeKey ∈ own.map (·.changeKey) :=
    fun hf => h.keys_own.mpr (List.mem_map_of_mem hf)
  constructor
  · intro f hf
    apply List.count_eq_one_of_mem hresolution.nodup
    exact (hresolution.mem_keys _).mpr (Or.inl (hown hf))
  · intro f hf
    rw [hresolution.mem_keys, or_iff_right]
    · constructor
      · rintro ⟨g, hg, htriggers⟩
        exact ⟨g, (h.mem_own g).mp hg, htriggers⟩
      · rintro ⟨g, hg, htriggers⟩
        exact ⟨g, (h.mem_own g).mpr hg, htriggers⟩
    · intro hmem
      obtain ⟨g, hg, heq⟩ := List.mem_map.mp hmem
      exact disjoint g ((h.mem_own g).mp hg).mem f hf heq
  · exact hresolution.nodup
  · exact hresolution.dependsOn
  · exact fun f hf => hresolution.before f ((h.mem_own f).mpr hf)
  · intro change hchange
    obtain hmem | hmem := List.mem_append.mp (hresolution.requests change hchange)
    · exact (List.mem_filter.mp ((h.mem_own _).mp hmem).mem).1
    · exact (List.mem_filter.mp (h.subset _ hmem)).1

/-- When no conditional change has the key of an unconditional one or is to be made after others, an
accepted change set is resolved in order, whatever order the library for graphs chooses. -/
theorem resolvedTo_of_getChanges {dag : Bool → Dag ChangeKey} {changes : ChangeSet}
    {resolved : List FileChange} (orders : ∀ initial, (dag initial).Orders)
    (disjoint : ∀ f ∈ unconditionalRequests changes, ∀ g ∈ conditionalRequests changes,
      f.changeKey ≠ g.changeKey)
    (quiet : ∀ f ∈ conditionalRequests changes, f.changesBefore = [])
    (accepted : getChanges dag fs changes = .ok resolved) :
  ResolvedTo fs changes resolved
  := by
  have hempty : Entered [] [] [] {} := by
    refine ⟨rfl, List.nodup_nil, List.nodup_nil, fun f => ?_, fun f hf => ?_, fun f hf => ?_⟩
    · exact iff_of_false List.not_mem_nil fun hfirst => by cases hfirst
    · exact hf
    · cases hf
  rw [getChanges] at accepted
  cases hbuild : ChangeSetResolver.buildMaps changes with
  | error err =>
      rw [hbuild] at accepted
      cases accepted
  | ok r =>
      rw [hbuild] at accepted
      dsimp only [bind, Except.bind] at accepted
      cases hrun : r.resolveChanges fs dag with
      | error err =>
          rw [hrun] at accepted
          cases accepted
      | ok r' =>
          rw [hrun] at accepted
          obtain rfl := Except.ok.inj accepted
          obtain ⟨own, conditional, hentered⟩ := hempty.foldlM hbuild
          rw [List.nil_append] at hentered
          exact hentered.resolvedTo orders disjoint quiet hrun

/-! ### An example -/

/-- A library that orders the graphs that the given list is an order of, and reports cycles
otherwise. -/
def Dag.listing (order : List ChangeKey) : Dag ChangeKey where
  cycles g :=
    if order.Nodup ∧ (∀ v ∈ g.vertices, v ∈ order) ∧
        ∀ e ∈ g.edges, e.1 ∈ g.vertices → e.2 ∈ g.vertices → [e.1, e.2].Sublist order then []
    else [[]]
  topologicalOrder g := order.filter (· ∈ g.vertices)

theorem Dag.orders_listing (order : List ChangeKey) : (Dag.listing order).Orders
  := by
  intro g hcycles
  rw [listing] at hcycles
  dsimp only at hcycles
  split at hcycles
  · next h =>
      obtain ⟨hnodup, hvertices, hedges⟩ := h
      have hmem : ∀ v, v ∈ order.filter (· ∈ g.vertices) → v ∈ g.vertices :=
        fun v hv => of_decide_eq_true (List.mem_filter.mp hv).2
      constructor
      · exact hnodup.filter _
      · exact fun v hv => List.mem_filter.mpr ⟨hvertices v hv, decide_eq_true hv⟩
      · exact fun v hv => Or.inl (hmem v hv)
      · intro u v edge hu hv
        have hbefore : Before order u v := hedges (u, v) edge (hmem u hu) (hmem v hv)
        exact hbefore.filter (decide_eq_true (hmem u hu)) (decide_eq_true (hmem v hv))
  · cases hcycles

/-- No file is there. -/
def emptyFiles : FileSystem where
  lstat _ := .notExist
  readlink _ := none
  readFile _ := none
  readDir _ := none
  mounts := some []

/-- A directory, a file in it, and a link that is removed before the file is written. -/
def fileAndLink : ChangeSet :=
  [{ key := "directory", path := [], expectedState := .directory },
    { key := "file", path := [], expectedState := .fileContentMatch, expectedContent := [1]
      dependsOn := [.named "directory"], beforeChange := some [.named "link"] },
    { key := "link", path := [], expectedState := .absent, dependsOn := [.named "directory"]
      condition := "beforeChange" }]

theorem resolvedTo_fileAndLink :
  ∃ resolved, resolved.length = 3 ∧ ResolvedTo emptyFiles fileAndLink resolved
  := by
  have haccepted : ((getChanges
      (fun _ => Dag.listing [.named "directory", .named "link", .named "file"]) emptyFiles
      fileAndLink).toOption.map List.length) = some 3 := by
    decide +kernel
  cases hresolved : getChanges
      (fun _ => Dag.listing [.named "directory", .named "link", .named "file"]) emptyFiles
      fileAndLink with
  | error err =>
      rw [hresolved] at haccepted
      cases haccepted
  | ok resolved =>
      rw [hresolved] at haccepted
      use resolved, Option.some.inj haccepted
      apply resolvedTo_of_getChanges (fun _ => Dag.orders_listing _) _ _ hresolved
      · decide
      · decide

end JetKvm.UsbPlan

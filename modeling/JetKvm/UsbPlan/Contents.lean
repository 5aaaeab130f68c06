import JetKvm.UsbPlan.Files

/-!
# The contents of files

A file that is to have a certain content has it once its change has been applied, and keeps it as
long as no other change is about its path. It may be that writing it failed and that the error was
ignored, and that a file without content was left as it is in the place of a line break.
-/

namespace JetKvm.UsbPlan

/-- The kernel leaves the contents of files alone. -/
def Kernel.KeepsContents (k : Kernel) : Prop :=
  ∀ (files : Files) (path : Path) (content : List UInt8),
    files.tree.node path = some (.regular content) →
      (k.settle files).tree.node path = some (.regular content)

/-- The name of a file, the last one of its path. -/
def baseName (path : Path) : String :=
  ((path.getLast?).map FileName.text).getD "/"

/-- The file under the path has the content, up to `compareFileContent`. -/
def HasContent (files : Files) (path : Path) (content : List UInt8) : Prop :=
  ∃ actual, files.tree.node path = some (.regular actual) ∧
    compareFileContent actual content (baseName path = "inquiry_string") = true

/-- The file is without content in the place of a line break, and is not updated therefore. -/
def IsEmptyFile (files : Files) (path : Path) (content : List UInt8) : Prop :=
  files.tree.node path = some (.regular []) ∧ baseName path = "file" ∧ content = [0x0a]

/-- Applying the change to the files fails. -/
def Fails (k : Kernel) (files : Files) (change : FileChange) : Prop :=
  applyChange k files (change.resetActionResolution.resolveAction files.fileSystem) = none

/-- A change of the list is applied to the files, after those before it. -/
def AppliedTo (k : Kernel) (changes : List FileChange) (start : Files) (change : FileChange)
    (files : Files) : Prop :=
  ∃ front back, changes = front ++ change :: back ∧ applyChanges k front start = some files

/-- The file has the content, or none in the place of a line break, unless writing it failed and
the error was ignored. -/
def Configured (k : Kernel) (changes : List FileChange) (start files : Files) (path : Path)
    (content : List UInt8) : Prop :=
  HasContent files path content ∨ IsEmptyFile files path content ∨
    ∃ change before, AppliedTo k changes start change before ∧ change.path = path ∧
      change.ignoreErrors = true ∧ Fails k before change

variable {k : Kernel} {files files' start : Files} {fc : FileChange} {path : Path}
  {content : List UInt8} {changes : List FileChange}

theorem compareFileContent_self (content : List UInt8) (looserMatch : Bool) :
  compareFileContent content content looserMatch = true
  := if_pos rfl

/-! ### Writing a file -/

/-- When a change that is about the content of a file has been applied, the file has the content. -/
theorem hasContent_applyNext (hk : k.KeepsContents) (hstate : fc.expectedState = .fileContentMatch)
    (h : applyNext k files fc = some files') :
  HasContent files' fc.path fc.expectedContent ∨ IsEmptyFile files' fc.path fc.expectedContent ∨
    fc.ignoreErrors = true ∧ Fails k files fc
  := by
  have hsame : SameUpToState fc.resetActionResolution
      (fc.resetActionResolution.resolveAction files.fileSystem) := sameUpToState_resolveAction
  have haction : (fc.resetActionResolution.resolveAction files.fileSystem).action =
      contentAction files fc :=
    action_contentMatch hstate
  rw [contentAction] at haction
  rw [applyNext] at h
  split at h
  · rename_i hchange
    obtain rfl := Option.some.inj h
    have hwritten : ∀ tree, (files.tree.writeFile
          (fc.resetActionResolution.resolveAction files.fileSystem).path
          (fc.resetActionResolution.resolveAction files.fileSystem).expectedContent) = some tree →
        HasContent (k.settle { files with tree := tree }) fc.path fc.expectedContent := by
      intro tree htree
      rw [hsame.1] at htree
      refine ⟨fc.expectedContent, ?_, compareFileContent_self _ _⟩
      apply hk
      exact (FileTree.node_writeFile htree).trans (if_pos rfl)
    rw [applyChange] at hchange
    cases hnode : files.tree.node fc.path with
    | none =>
        rw [haction, hnode] at hchange
        obtain ⟨tree, htree, rfl⟩ := Option.map_eq_some_iff.mp hchange
        exact Or.inl (hwritten tree htree)
    | some node =>
        rw [hnode] at haction
        cases node with
        | directory =>
            rw [haction] at hchange
            obtain ⟨tree, htree, rfl⟩ := Option.map_eq_some_iff.mp hchange
            exact Or.inl (hwritten tree htree)
        | link target =>
            rw [haction] at hchange
            obtain ⟨tree, htree, rfl⟩ := Option.map_eq_some_iff.mp hchange
            exact Or.inl (hwritten tree htree)
        | regular actual =>
            dsimp only at haction
            split_ifs at haction with hmatch hempty
            · rw [haction] at hchange
              obtain rfl := Option.some.inj hchange
              exact Or.inl ⟨actual, hnode, hmatch⟩
            · rw [haction] at hchange
              obtain rfl := Option.some.inj hchange
              obtain ⟨hname, rfl, hcontent⟩ := hempty
              exact Or.inr (Or.inl ⟨hnode, hname, hcontent⟩)
            · rw [haction] at hchange
              obtain ⟨tree, htree, rfl⟩ := Option.map_eq_some_iff.mp hchange
              exact Or.inl (hwritten tree htree)
  · rename_i hnone
    right
    right
    obtain ⟨hignored, -⟩ := Option.ite_none_right_eq_some.mp h
    rw [hsame.1] at hignored
    exact ⟨hignored, hnone⟩

/-! ### Keeping a file -/

/-- The change is not about the file: it makes directories, orders links, or is about another
path. -/
def LeavesFile (path : Path) (f : RequestedFileChange) : Prop :=
  f.expectedState = .directory ∨
    f.expectedState ∈ [.fileContentMatch, .fileWrite, .absent] ∧ f.path ≠ path ∨
    f.expectedState = .symlinkInOrderConfigFS ∧ f.paramSymlinks ≠ []

/-- What an action does to a file that it is not about. -/
theorem regular_changeTree {tree tree' : FileTree FileName (List UInt8) (List Char)}
    {action : FileChangeResolvedAction} (h : changeTree tree fc action = some tree')
    (hpath : action ∈ [.updateFile, .createFile, .writeFile, .remove] ∧ fc.path ≠ path ∨
      action = .createDirectory ∨ action = .reorderSymlinks)
    (hnode : tree.node path = some (.regular content)) :
  tree'.node path = some (.regular content)
  := by
  obtain ⟨haction, hne⟩ | rfl | rfl := hpath
  · have hwritten : tree.writeFile fc.path fc.expectedContent = some tree' →
        tree'.node path = some (.regular content) :=
      fun hwrite => (FileTree.node_writeFile hwrite).trans ((if_neg hne.symm).trans hnode)
    simp only [List.mem_cons, List.not_mem_nil, or_false] at haction
    obtain rfl | rfl | rfl | rfl := haction
    · exact hwritten h
    · exact hwritten h
    · exact hwritten h
    · rw [(FileTree.node_of_remove h).2, if_neg hne.symm]
      exact hnode
  · exact FileTree.regular_mkdirAll h hnode
  · rw [changeTree, recreateSymlinks] at h
    split at h
    · obtain ⟨removed, hremoved, hlinks⟩ := Option.bind_eq_some_iff.mp h
      apply FileTree.regular_symlinks hlinks
      rw [FileTree.node_of_removes hremoved, if_neg]
      · exact hnode
      · intro hmem
        have hkind := (List.mem_filter.mp hmem).2
        rw [hnode] at hkind
        cases hkind
    · cases h

/-- A change that is not about a file leaves its content alone. -/
theorem regular_applyNext (hk : k.KeepsContents) (hleaves : LeavesFile path fc.toRequestedFileChange)
    (h : applyNext k files fc = some files')
    (hnode : files.tree.node path = some (.regular content)) :
  files'.tree.node path = some (.regular content)
  := by
  obtain rfl | ⟨change, hsame, haction, hchange⟩ := applyNext_cases h
  · exact hnode
  · have hcases : change.action = .doNothing ∨
        change.action ∈ [.updateFile, .createFile, .writeFile, .remove] ∧ change.path ≠ path ∨
        change.action = .createDirectory ∨ change.action = .reorderSymlinks := by
      obtain ⟨hdirectory, hmatch, hwrite, habsent⟩ :=
        action_cases fc.resetActionResolution files.fileSystem
      simp only [List.mem_cons, List.not_mem_nil, or_false] at hdirectory hmatch habsent ⊢
      rw [haction, hsame]
      obtain hstate | ⟨hstate, hne⟩ | ⟨hstate, hparams⟩ := hleaves
      · exact (hdirectory hstate).imp_right fun h => Or.inr (Or.inl h)
      · simp only [List.mem_cons, List.not_mem_nil, or_false] at hstate
        obtain hstate | hstate | hstate := hstate
        · obtain h | h | h := hmatch hstate
          · exact Or.inl h
          · exact Or.inr (Or.inl ⟨Or.inl h, hne⟩)
          · exact Or.inr (Or.inl ⟨Or.inr (Or.inl h), hne⟩)
        · exact Or.inr (Or.inl ⟨Or.inr (Or.inr (Or.inl (hwrite hstate))), hne⟩)
        · obtain h | h := habsent hstate
          · exact Or.inl h
          · exact Or.inr (Or.inl ⟨Or.inr (Or.inr (Or.inr h)), hne⟩)
      · have hreorder : (fc.resetActionResolution.getFileChangeResolvedAction
            files.fileSystem).2 = _ := action_reorder hstate hparams
        rw [hreorder]
        split
        · exact Or.inl rfl
        · exact Or.inr (Or.inr (Or.inr rfl))
    rw [applyChange] at hchange
    obtain hnothing | hcases := hcases
    · rw [hnothing] at hchange
      obtain rfl := Option.some.inj hchange
      exact hnode
    · have happlied : (changeTree files.tree change change.action).map (fun tree =>
          k.settle { files with tree := tree }) = some files' := by
        rw [← hchange]
        split
        · rename_i h
          rw [h] at hcases
          simp at hcases
        · rename_i h
          rw [h] at hcases
          simp at hcases
        · rfl
      obtain ⟨tree, htree, rfl⟩ := Option.map_eq_some_iff.mp happlied
      apply hk
      exact regular_changeTree htree hcases hnode

/-- Changes that are not about a file leave its content alone. -/
theorem regular_applyChanges (hk : k.KeepsContents)
    (hleaves : ∀ change ∈ changes, LeavesFile path change.toRequestedFileChange)
    (h : applyChanges k changes files = some files')
    (hnode : files.tree.node path = some (.regular content)) :
  files'.tree.node path = some (.regular content)
  := by
  induction changes generalizing files with
  | nil =>
      obtain rfl := Option.some.inj h
      exact hnode
  | cons change changes ih =>
      rw [applyChanges, List.foldlM_cons] at h
      obtain ⟨between, hnext, hrest⟩ := Option.bind_eq_some_iff.mp h
      apply ih (fun c hc => hleaves c (List.mem_cons_of_mem _ hc)) hrest
      exact regular_applyNext hk (hleaves change List.mem_cons_self) hnext hnode

/-- When the changes after the one that writes a file are not about it, the file is configured. -/
theorem configured_applyChanges {front back : List FileChange} (hk : k.KeepsContents)
    (hstate : fc.expectedState = .fileContentMatch)
    (hleaves : ∀ change ∈ back, LeavesFile fc.path change.toRequestedFileChange)
    (h : applyChanges k (front ++ fc :: back) start = some files) :
  Configured k (front ++ fc :: back) start files fc.path fc.expectedContent
  := by
  rw [applyChanges, List.foldlM_append] at h
  obtain ⟨before, hbefore, hrest⟩ := Option.bind_eq_some_iff.mp h
  rw [List.foldlM_cons] at hrest
  obtain ⟨between, hnext, hback⟩ := Option.bind_eq_some_iff.mp hrest
  obtain ⟨actual, hnode, hcompare⟩ | ⟨hnode, hname, hcontent⟩ | ⟨hignored, hfails⟩ :=
    hasContent_applyNext hk hstate hnext
  · exact Or.inl ⟨actual, regular_applyChanges hk hleaves hback hnode, hcompare⟩
  · exact Or.inr (Or.inl ⟨regular_applyChanges hk hleaves hback hnode, hname, hcontent⟩)
  · exact Or.inr (Or.inr ⟨fc, before, ⟨front, back, rfl, hbefore⟩, rfl, hignored, hfails⟩)

end JetKvm.UsbPlan

import JetKvm.Library.FileTree
import JetKvm.UsbPlan.Resolver
import Mathlib.Data.String.Basic

/-!
# Applying a change set

The changes that have been resolved are applied one after the other to a tree of files. What a
change does is worked out again when its turn comes. The kernel decides what is seen once the
configuration file system is mounted, and may add files and change contents after each operation.
-/

namespace JetKvm.UsbPlan

/-- Names are compared as texts. -/
instance : LinearOrder FileName :=
  LinearOrder.lift' FileName.text fun name name' h => by
    cases name
    cases name'
    simp_all

/-- The files, and what is mounted. -/
structure Files where
  tree : FileTree FileName (List UInt8) (List Char)
  mounts : List Mount
deriving DecidableEq

/-- What the package `os` finds out about the files. Directories are listed in the order of the
names. -/
def Files.fileSystem (files : Files) : FileSystem where
  lstat path :=
    match files.tree.node path with
    | none => .notExist
    | some .directory => .directory
    | some (.regular _) => .regular
    | some (.link _) => .symlink
  readlink path :=
    match files.tree.node path with
    | some (.link target) => some target
    | _ => none
  readFile path :=
    match files.tree.node path with
    | some (.regular content) => some content
    | _ => none
  readDir path :=
    match files.tree.node path with
    | some .directory => some ((files.tree.names path).map fun name =>
        ⟨name, match files.tree.node (path ++ [name]) with
          | some (.link _) => true
          | _ => false⟩)
    | _ => none
  mounts := some files.mounts

theorem lstat_fileSystem (files : Files) (path : Path) :
  files.fileSystem.lstat path =
    match files.tree.node path with
    | none => .notExist
    | some .directory => .directory
    | some (.regular _) => .regular
    | some (.link _) => .symlink
  := rfl

theorem readlink_fileSystem (files : Files) (path : Path) :
  files.fileSystem.readlink path =
    match files.tree.node path with
    | some (.link target) => some target
    | _ => none
  := rfl

theorem readFile_fileSystem (files : Files) (path : Path) :
  files.fileSystem.readFile path =
    match files.tree.node path with
    | some (.regular content) => some content
    | _ => none
  := rfl

structure Kernel where
  mountConfigFS : Path → Files → Option Files
  settle : Files → Files

/-- The kernel makes no links, and removes neither links nor directories. -/
def Kernel.Lawful (k : Kernel) : Prop :=
  ∀ files : Files, files.tree.KeepsLinks (k.settle files).tree

/-- The links in a directory. -/
def linkPaths (tree : FileTree FileName (List UInt8) (List Char)) (dir : Path) : List Path :=
  ((tree.names dir).map fun name => dir ++ [name]).filter fun path =>
    match tree.node path with
    | some (.link _) => true
    | _ => false

/-- Removes all links of a directory, and makes those that are to be there. -/
def recreateSymlinks (tree : FileTree FileName (List UInt8) (List Char)) (fc : FileChange) :
    Option (FileTree FileName (List UInt8) (List Char)) :=
  match tree.node fc.path with
  | some .directory => do
      let removed ← tree.removes (linkPaths tree fc.path)
      removed.symlinks (fc.paramSymlinks.map fun link => (link.path, link.target))
  | _ => none

/-- The target that a content gives. -/
def contentTarget (content : List UInt8) : Option (List Char) :=
  (String.fromUTF8? ⟨content.toArray⟩).map String.toList

/-- What an action makes of the tree, if it does anything but mount. -/
def changeTree (tree : FileTree FileName (List UInt8) (List Char)) (change : FileChange) :
    FileChangeResolvedAction → Option (FileTree FileName (List UInt8) (List Char))
  | .writeFile => tree.writeFile change.path change.expectedContent
  | .updateFile => tree.writeFile change.path change.expectedContent
  | .createFile => tree.writeFile change.path change.expectedContent
  | .createSymlink => (contentTarget change.expectedContent).bind (tree.symlink change.path)
  | .recreateSymlink => do
      let removed ← tree.remove change.path
      (contentTarget change.expectedContent).bind (removed.symlink change.path)
  | .reorderSymlinks => recreateSymlinks tree change
  | .createDirectory => tree.mkdirAll change.path
  | .remove => tree.remove change.path
  | .removeDirectory => some (tree.removeAll change.path)
  | .touch => if (tree.node change.path).isSome then some tree else none
  | .mountConfigFS => none
  | .doNothing => none
  | .unknown => none
  | .appendFile => none
  | .createDirectoryAndSymlinks => none

/-- Applies a change whose action has been worked out, unless that fails. -/
def applyChange (k : Kernel) (files : Files) (change : FileChange) : Option Files :=
  match change.action with
  | .doNothing => some files
  | .mountConfigFS => k.mountConfigFS change.path files
  | action => (changeTree files.tree change action).map fun tree =>
      k.settle { files with tree := tree }

/-- Works out what a change does, and applies it. It may be that errors are ignored. -/
def applyNext (k : Kernel) (files : Files) (change : FileChange) : Option Files :=
  let change := change.resetActionResolution.resolveAction files.fileSystem
  match applyChange k files change with
  | some files => some files
  | none => if change.ignoreErrors then some files else none

def applyChanges (k : Kernel) (changes : List FileChange) (files : Files) : Option Files :=
  changes.foldlM (applyNext k) files

/-- Resolves a change set and applies it. -/
def apply (dag : Bool → Dag ChangeKey) (k : Kernel) (changes : ChangeSet) (files : Files) :
    Option Files :=
  match getChanges dag files.fileSystem changes with
  | .error _ => none
  | .ok resolved => applyChanges k resolved files

/-! ### The links that are seen -/

/-- The links in a directory as they are compared with those that are to be there, with absolute
targets and in the order of the names. -/
def seenLinks (tree : FileTree FileName (List UInt8) (List Char)) (dir : Path) : List Symlink :=
  (tree.names dir).filterMap fun name =>
    match tree.node (dir ++ [name]) with
    | some (.link target) => some ⟨dir ++ [name],
        if filepathIsAbs target then target else filepathJoin dir.chars target⟩
    | _ => none

variable {tree tree' : FileTree FileName (List UInt8) (List Char)} {dir : Path} {link : Symlink}
  {files : Files} {fc : FileChange} {k : Kernel}

theorem mem_seenLinks :
  link ∈ seenLinks tree dir ↔ ∃ name target, tree.node (dir ++ [name]) = some (.link target) ∧
    link = ⟨dir ++ [name],
      if filepathIsAbs target then target else filepathJoin dir.chars target⟩
  := by
  rw [seenLinks, List.mem_filterMap]
  constructor
  · rintro ⟨name, -, hname⟩
    split at hname
    · rename_i target hnode
      exact ⟨name, target, hnode, (Option.some.inj hname).symm⟩
    · cases hname
  · rintro ⟨name, target, hnode, rfl⟩
    refine ⟨name, ?_, ?_⟩
    · rw [FileTree.mem_names, hnode]
      rfl
    · rw [hnode]

/-- The same links are seen as long as the links are the same. -/
theorem mem_seenLinks_of_keepsLinks (h : tree.KeepsLinks tree') :
  link ∈ seenLinks tree' dir ↔ link ∈ seenLinks tree dir
  := by
  rw [mem_seenLinks, mem_seenLinks]
  simp only [(h _).2]

theorem checkIfSymlinksInOrder_fileSystem (hparams : fc.paramSymlinks ≠ [])
    (hdirectory : files.tree.node fc.path = some .directory) :
  checkIfSymlinksInOrder files.fileSystem fc =
    .ok (if fc.paramSymlinks = seenLinks files.tree fc.path then .symlinkInOrderConfigFS
      else .symlinkNotInOrderConfigFS)
  := by
  have hlinks : ∀ names : List FileName,
      ((names.map fun name => DirEntry.mk name
          (match files.tree.node (fc.path ++ [name]) with
            | some (.link _) => true
            | _ => false)).filter (·.isSymlink)).mapM (fun file =>
        (files.fileSystem.readlink (fc.path ++ [file.name])).map fun target =>
          Symlink.mk (fc.path ++ [file.name])
            (if filepathIsAbs target then target else filepathJoin fc.path.chars target)) =
      some (names.filterMap fun name =>
        match files.tree.node (fc.path ++ [name]) with
        | some (.link target) => some ⟨fc.path ++ [name],
            if filepathIsAbs target then target else filepathJoin fc.path.chars target⟩
        | _ => none) := by
    intro names
    induction names with
    | nil => rfl
    | cons name names ih =>
        rw [List.map_cons]
        cases hnode : files.tree.node (fc.path ++ [name]) with
        | none =>
            rw [List.filter_cons_of_neg Bool.false_ne_true, ih, List.filterMap_cons_none]
            rw [hnode]
        | some node =>
            cases node with
            | directory =>
                rw [List.filter_cons_of_neg Bool.false_ne_true, ih, List.filterMap_cons_none]
                rw [hnode]
            | regular content =>
                rw [List.filter_cons_of_neg Bool.false_ne_true, ih, List.filterMap_cons_none]
                rw [hnode]
            | link target =>
                have hread : files.fileSystem.readlink (fc.path ++ [name]) = some target := by
                  rw [Files.fileSystem]
                  dsimp only
                  rw [hnode]
                rw [List.filter_cons_of_pos rfl, List.mapM_cons, ih]
                dsimp only
                rw [hread, List.filterMap_cons_some]
                · rfl
                · rw [hnode]
  have hstat : files.fileSystem.lstat fc.path = .directory := by
    rw [Files.fileSystem]
    dsimp only
    rw [hdirectory]
  have hread : files.fileSystem.readDir fc.path = some ((files.tree.names fc.path).map fun name =>
      ⟨name, match files.tree.node (fc.path ++ [name]) with
        | some (.link _) => true
        | _ => false⟩) := by
    rw [Files.fileSystem]
    dsimp only
    rw [hdirectory]
  rw [checkIfSymlinksInOrder, if_neg hparams, hstat]
  dsimp only
  rw [hread]
  dsimp only
  rw [hlinks, seenLinks]

/-! ### The actions of changes -/

/-- The links are left alone if and only if they are in order. -/
theorem action_reorder (hstate : fc.expectedState = .symlinkInOrderConfigFS)
    (hparams : fc.paramSymlinks ≠ []) :
  (fc.getFileChangeResolvedAction files.fileSystem).2 =
    if files.tree.node fc.path = some .directory ∧
        fc.paramSymlinks = seenLinks files.tree fc.path then .doNothing else .reorderSymlinks
  := by
  have hlstat := lstat_fileSystem files fc.path
  have hreadlink := readlink_fileSystem files fc.path
  have hreadFile := readFile_fileSystem files fc.path
  cases hnode : files.tree.node fc.path with
  | none =>
      rw [hnode] at hlstat
      simp [FileChange.getFileChangeResolvedAction, getActualState, hstate, hlstat,
        FileChange.actionOfState]
  | some node =>
      rw [hnode] at hlstat hreadlink hreadFile
      cases node with
      | directory =>
          have hcheck : checkIfSymlinksInOrder files.fileSystem
              { fc with actualState := .directory } = _ :=
            checkIfSymlinksInOrder_fileSystem hparams hnode
          unfold FileChange.getFileChangeResolvedAction getActualState
          simp only [hstate, hlstat] at hcheck ⊢
          rw [hcheck]
          by_cases horder : fc.paramSymlinks = seenLinks files.tree fc.path
          · simp [horder, FileChange.actionOfState, hstate]
          · simp [horder, FileChange.actionOfState, hstate]
      | regular content =>
          simp [FileChange.getFileChangeResolvedAction, getActualState, hstate, hlstat, hreadFile,
            FileChange.actionOfState]
      | link target =>
          simp [FileChange.getFileChangeResolvedAction, getActualState, hstate, hlstat, hreadlink,
            FileChange.actionOfState]

/-- What is done to have a content in a file: it is compared with the one that is there, if it is a
file. -/
def contentAction (files : Files) (fc : FileChange) : FileChangeResolvedAction :=
  match files.tree.node fc.path with
  | some (.regular actual) =>
      if compareFileContent actual fc.expectedContent (fc.baseName = "inquiry_string") then
        .doNothing
      else if fc.baseName = "file" ∧ actual = [] ∧ fc.expectedContent = [0x0a] then .doNothing
      else .updateFile
  | _ => .createFile

theorem action_contentMatch (hstate : fc.expectedState = .fileContentMatch) :
  (fc.getFileChangeResolvedAction files.fileSystem).2 =
    contentAction files fc
  := by
  rw [contentAction]
  have hlstat := lstat_fileSystem files fc.path
  have hreadlink := readlink_fileSystem files fc.path
  have hreadFile := readFile_fileSystem files fc.path
  cases hnode : files.tree.node fc.path with
  | none =>
      rw [hnode] at hlstat
      simp [FileChange.getFileChangeResolvedAction, getActualState, hstate, hlstat,
        FileChange.actionOfState]
  | some node =>
      rw [hnode] at hlstat hreadlink hreadFile
      cases node with
      | directory =>
          simp [FileChange.getFileChangeResolvedAction, getActualState, hstate, hlstat,
            FileChange.actionOfState]
      | regular actual =>
          simp only [FileChange.getFileChangeResolvedAction, getActualState, hstate, hlstat,
            hreadFile, FileChange.actionOfState, reduceIte]
          rfl
      | link target =>
          simp [FileChange.getFileChangeResolvedAction, getActualState, hstate, hlstat, hreadlink,
            FileChange.actionOfState]

/-- What a change may do, apart from mounting and linking. -/
theorem action_cases (fc : FileChange) (fs : FileSystem) :
  (fc.expectedState = .directory →
      (fc.getFileChangeResolvedAction fs).2 ∈ [.doNothing, .createDirectory]) ∧
    (fc.expectedState = .fileContentMatch →
      (fc.getFileChangeResolvedAction fs).2 ∈ [.doNothing, .updateFile, .createFile]) ∧
    (fc.expectedState = .fileWrite → (fc.getFileChangeResolvedAction fs).2 = .writeFile) ∧
    (fc.expectedState = .absent →
      (fc.getFileChangeResolvedAction fs).2 ∈ [.doNothing, .remove])
  := by
  have hsame : SameUpToState fc (getActualState fs fc).1 := sameUpToState_getActualState
  refine ⟨?_, ?_, ?_, ?_⟩
  · intro hstate
    rw [FileChange.getFileChangeResolvedAction, hstate]
    dsimp only
    split
    · simp
    · rename_i found hfound
      rw [hfound] at hsame
      rw [FileChange.actionOfState, hsame.1, hstate]
      dsimp only
      split
      · simp
      · simp
  · intro hstate
    rw [FileChange.getFileChangeResolvedAction, hstate]
    dsimp only
    split
    · simp
    · rename_i found hfound
      rw [hfound] at hsame
      rw [FileChange.actionOfState, hsame.1, hstate]
      dsimp only
      split_ifs
      · simp
      · simp
      · simp
      · simp
  · intro hstate
    rw [FileChange.getFileChangeResolvedAction, hstate]
  · intro hstate
    rw [FileChange.getFileChangeResolvedAction, hstate]
    dsimp only
    split
    · simp
    · rename_i found hfound
      rw [hfound] at hsame
      rw [FileChange.actionOfState, hsame.1, hstate]
      dsimp only
      split
      · simp
      · simp

/-! ### What the action depends on -/

variable {fc' : FileChange}

/-- The action depends on the request and the files alone. -/
theorem action_congr (h : fc'.toRequestedFileChange = fc.toRequestedFileChange) :
  (fc'.getFileChangeResolvedAction files.fileSystem).2 =
    (fc.getFileChangeResolvedAction files.fileSystem).2
  := by
  obtain ⟨request, actualState, actualContent, resolvedDeps, checked, action⟩ := fc
  obtain ⟨request', actualState', actualContent', resolvedDeps', checked', action'⟩ := fc'
  obtain rfl : request' = request := h
  have hstat : files.fileSystem.lstat request'.path =
      match files.tree.node request'.path with
      | none => .notExist
      | some .directory => .directory
      | some (.regular _) => .regular
      | some (.link _) => .symlink := rfl
  unfold FileChange.getFileChangeResolvedAction getActualState
  dsimp only
  rw [hstat]
  cases files.tree.node request'.path with
  | none =>
      cases hstate : request'.expectedState with
      | _ => simp [FileChange.actionOfState, hstate]
  | some node =>
      cases node with
      | directory =>
          cases hstate : request'.expectedState with
          | mountedConfigFS =>
              dsimp only [checkIfDirIsMountPoint, Files.fileSystem]
              cases files.mounts.find? fun mount => mount.mountPoint = request'.path.text with
              | none => simp [FileChange.actionOfState, hstate]
              | some mount => rfl
          | symlinkInOrderConfigFS =>
              dsimp only [checkIfSymlinksInOrder]
              generalize (if request'.paramSymlinks = [] then _ else _ : Except String FileState) =
                found
              cases found with
              | error => rfl
              | ok state => simp [FileChange.actionOfState, hstate]
          | _ => simp [FileChange.actionOfState, hstate]
      | regular content =>
          cases hstate : request'.expectedState with
          | _ =>
              cases files.fileSystem.readFile request'.path with
              | none => rfl
              | some content => rfl
      | link target =>
          cases hstate : request'.expectedState with
          | _ =>
              cases files.fileSystem.readlink request'.path with
              | none => rfl
              | some content => rfl

/-- What has been found out about a file before plays no part when the change is applied. -/
theorem applyChange_congr (h : fc'.toRequestedFileChange = fc.toRequestedFileChange) :
  applyChange k files (fc'.resetActionResolution.resolveAction files.fileSystem) =
    applyChange k files (fc.resetActionResolution.resolveAction files.fileSystem)
  := by
  have haction : ((fc'.resetActionResolution).resolveAction files.fileSystem).action =
      ((fc.resetActionResolution).resolveAction files.fileSystem).action := action_congr h
  have hsame : SameUpToState fc'.resetActionResolution
      (fc'.resetActionResolution.resolveAction files.fileSystem) := sameUpToState_resolveAction
  have hsame' : SameUpToState fc.resetActionResolution
      (fc.resetActionResolution.resolveAction files.fileSystem) := sameUpToState_resolveAction
  have hrequest : (fc'.resetActionResolution.resolveAction files.fileSystem).toRequestedFileChange =
      (fc.resetActionResolution.resolveAction files.fileSystem).toRequestedFileChange :=
    hsame.1.trans (h.trans hsame'.1.symm)
  have htree : ∀ tree action,
      changeTree tree (fc'.resetActionResolution.resolveAction files.fileSystem) action =
        changeTree tree (fc.resetActionResolution.resolveAction files.fileSystem) action := by
    intro tree action
    cases action with
    | _ => simp only [changeTree, recreateSymlinks, hrequest]
  simp only [applyChange, haction, hrequest, htree]

theorem applyNext_congr (h : fc'.toRequestedFileChange = fc.toRequestedFileChange) :
  applyNext k files fc' = applyNext k files fc
  := by
  have hsame : SameUpToState fc'.resetActionResolution
      (fc'.resetActionResolution.resolveAction files.fileSystem) := sameUpToState_resolveAction
  have hsame' : SameUpToState fc.resetActionResolution
      (fc.resetActionResolution.resolveAction files.fileSystem) := sameUpToState_resolveAction
  have hrequest : (fc'.resetActionResolution.resolveAction files.fileSystem).toRequestedFileChange =
      (fc.resetActionResolution.resolveAction files.fileSystem).toRequestedFileChange :=
    hsame.1.trans (h.trans hsame'.1.symm)
  simp only [applyNext, applyChange_congr h, hrequest]

/-! ### What is linked -/

/-- The directory is there, and the links that are seen in it are the expected ones. -/
def Linked (files : Files) (dir : Path) (expected : List Symlink) : Prop :=
  files.tree.node dir = some .directory ∧ ∀ link, link ∈ seenLinks files.tree dir ↔ link ∈ expected

variable {files' : Files} {expected : List Symlink} {path : Path}

theorem Linked.keepsLinks (h : Linked files dir expected)
    (hkeeps : files.tree.KeepsLinks files'.tree) :
  Linked files' dir expected
  := by
  constructor
  · apply (hkeeps dir).1 h.1
  · intro link
    rw [mem_seenLinks_of_keepsLinks hkeeps]
    apply h.2

/-- A file that is removed is none of the links, if none of them is expected there. -/
theorem Linked.remove (h : Linked files dir expected) (hremove : files.tree.remove path = some tree)
    (hdir : path ≠ dir) (hpath : ∀ link ∈ expected, link.path ≠ path) :
  Linked { files with tree := tree } dir expected
  := by
  obtain ⟨-, hnode⟩ := FileTree.node_of_remove hremove
  constructor
  · dsimp only
    rw [hnode, if_neg hdir.symm]
    apply h.1
  · intro link
    rw [← h.2, mem_seenLinks, mem_seenLinks]
    dsimp only
    constructor
    · rintro ⟨name, target, hlink, rfl⟩
      rw [hnode] at hlink
      split at hlink
      · cases hlink
      · exact ⟨name, target, hlink, rfl⟩
    · rintro ⟨name, target, hlink, rfl⟩
      refine ⟨name, target, ?_, rfl⟩
      rw [hnode, if_neg]
      · apply hlink
      · intro hname
        have hseen := (h.2 _).mp (mem_seenLinks.mpr ⟨name, target, hlink, rfl⟩)
        exact hpath _ hseen hname

/-- A change is applied, or its errors are ignored. -/
theorem applyNext_cases (h : applyNext k files fc = some files') :
  files' = files ∨ ∃ change : FileChange,
    change.toRequestedFileChange = fc.toRequestedFileChange ∧
    change.action = (fc.resetActionResolution.getFileChangeResolvedAction files.fileSystem).2 ∧
    applyChange k files change = some files'
  := by
  rw [applyNext] at h
  split at h
  · rename_i hchange
    right
    have hsame : SameUpToState fc.resetActionResolution
        (fc.resetActionResolution.resolveAction files.fileSystem) := sameUpToState_resolveAction
    use fc.resetActionResolution.resolveAction files.fileSystem, hsame.1, rfl
    rw [← h]
    apply hchange
  · left
    obtain ⟨-, hsame⟩ := Option.ite_none_right_eq_some.mp h
    exact (Option.some.inj hsame).symm

/-- A change that makes a directory or writes a file keeps the links. -/
theorem keepsLinks_applyNext (hk : k.Lawful)
    (hstate : fc.expectedState ∈ [.directory, .fileContentMatch, .fileWrite])
    (h : applyNext k files fc = some files') :
  files.tree.KeepsLinks files'.tree
  := by
  rcases applyNext_cases h with rfl | ⟨change, hsame, haction, hchange⟩
  · apply FileTree.KeepsLinks.refl
  · have hwritten : ∀ action ∈ [FileChangeResolvedAction.updateFile, .createFile, .writeFile,
        .createDirectory], ((changeTree files.tree change action).map fun tree =>
          k.settle { files with tree := tree }) = some files' →
        files.tree.KeepsLinks files'.tree := by
      intro action haction happlied
      obtain ⟨tree, htree, rfl⟩ := Option.map_eq_some_iff.mp happlied
      apply FileTree.KeepsLinks.trans _ (hk _)
      simp only [List.mem_cons, List.not_mem_nil, or_false] at haction
      rcases haction with rfl | rfl | rfl | rfl
      · apply FileTree.keepsLinks_writeFile htree
      · apply FileTree.keepsLinks_writeFile htree
      · apply FileTree.keepsLinks_writeFile htree
      · apply FileTree.keepsLinks_mkdirAll htree
    have hcases : change.action ∈ [FileChangeResolvedAction.doNothing, .updateFile, .createFile,
        .writeFile, .createDirectory] := by
      rw [haction]
      obtain ⟨hdirectory, hmatch, hwrite, -⟩ :=
        action_cases fc.resetActionResolution files.fileSystem
      simp only [List.mem_cons, List.not_mem_nil, or_false] at hstate hdirectory hmatch ⊢
      rcases hstate with hstate | hstate | hstate
      · have := hdirectory hstate
        tauto
      · have := hmatch hstate
        tauto
      · have := hwrite hstate
        tauto
    rw [applyChange] at hchange
    cases hcase : change.action with
    | doNothing =>
        rw [hcase] at hchange
        obtain rfl := Option.some.inj hchange
        apply FileTree.KeepsLinks.refl
    | updateFile | createFile | writeFile | createDirectory =>
        rw [hcase] at hchange
        apply hwritten _ _ hchange
        simp
    | unknown | remove | appendFile | createSymlink | recreateSymlink
    | createDirectoryAndSymlinks | reorderSymlinks | removeDirectory | touch | mountConfigFS =>
        rw [hcase] at hcases
        simp at hcases

/-- A change that removes a file keeps the links, if none is expected there. -/
theorem Linked.applyNext_absent (h : Linked files dir expected) (hk : k.Lawful)
    (hstate : fc.expectedState = .absent) (hdir : fc.path ≠ dir)
    (hpath : ∀ link ∈ expected, link.path ≠ fc.path) (happly : applyNext k files fc = some files') :
  Linked files' dir expected
  := by
  rcases applyNext_cases happly with rfl | ⟨change, hsame, haction, hchange⟩
  · apply h
  · have hcases : change.action ∈ [FileChangeResolvedAction.doNothing, .remove] := by
      rw [haction]
      apply (action_cases fc.resetActionResolution files.fileSystem).2.2.2 hstate
    simp only [List.mem_cons, List.not_mem_nil, or_false] at hcases
    rw [applyChange] at hchange
    rcases hcases with hcase | hcase
    · rw [hcase] at hchange
      obtain rfl := Option.some.inj hchange
      apply h
    · rw [hcase] at hchange
      obtain ⟨tree, htree, rfl⟩ := Option.map_eq_some_iff.mp hchange
      have hremoved : Linked { files with tree := tree } dir expected := by
        apply h.remove htree
        · rw [hsame]
          apply hdir
        · rw [hsame]
          apply hpath
      apply hremoved.keepsLinks (hk _)

/-- After its links have been made anew, a directory has the expected ones. -/
theorem linked_recreateSymlinks (hpath : fc.path = dir)
    (hexpected : ∀ link ∈ fc.paramSymlinks, ∃ name, link.path = dir ++ [name] ∧
      filepathIsAbs link.target = true)
    (h : recreateSymlinks files.tree fc = some tree) :
  Linked { files with tree := tree } dir fc.paramSymlinks
  := by
  rw [recreateSymlinks, hpath] at h
  split at h
  · rename_i hdir
    obtain ⟨removed, hremoved, hlinks⟩ := Option.bind_eq_some_iff.mp h
    obtain ⟨hnode, hdirectories⟩ := FileTree.node_of_symlinks hlinks
    have hgone : ∀ name target, removed.node (dir ++ [name]) ≠ some (.link target) := by
      intro name target hlink
      rw [FileTree.node_of_removes hremoved] at hlink
      obtain ⟨hnot, hlink⟩ := Option.ite_none_left_eq_some.mp hlink
      apply hnot
      rw [linkPaths, List.mem_filter]
      constructor
      · apply List.mem_map_of_mem
        rw [FileTree.mem_names, hlink]
        rfl
      · rw [hlink]
    constructor
    · apply hdirectories
      rw [FileTree.node_of_removes hremoved, if_neg]
      · apply hdir
      · intro hmem
        have hkind := (List.mem_filter.mp hmem).2
        rw [hdir] at hkind
        cases hkind
    · intro link
      rw [mem_seenLinks]
      dsimp only
      constructor
      · rintro ⟨name, target, hlink, rfl⟩
        obtain ⟨expected, hmem, heq⟩ :=
          List.mem_map.mp (((hnode _ _).mp hlink).resolve_left (hgone name target))
        obtain ⟨hname, rfl⟩ := Prod.mk.inj heq
        obtain ⟨-, -, habsolute⟩ := hexpected expected hmem
        rw [if_pos habsolute, ← hname]
        apply hmem
      · intro hmem
        obtain ⟨name, hname, habsolute⟩ := hexpected link hmem
        refine ⟨name, link.target, ?_, ?_⟩
        · rw [hnode]
          right
          rw [← hname]
          exact List.mem_map_of_mem hmem
        · rw [if_pos habsolute, ← hname]
  · cases h

/-- When the change that orders the links has been applied, they are the expected ones. -/
theorem linked_applyNext (hk : k.Lawful) (hstate : fc.expectedState = .symlinkInOrderConfigFS)
    (herrors : fc.ignoreErrors = false) (hpath : fc.path = dir) (hparams : fc.paramSymlinks ≠ [])
    (hexpected : ∀ link ∈ fc.paramSymlinks, ∃ name, link.path = dir ++ [name] ∧
      filepathIsAbs link.target = true)
    (h : applyNext k files fc = some files') :
  Linked files' dir fc.paramSymlinks
  := by
  have haction : (fc.resetActionResolution.getFileChangeResolvedAction files.fileSystem).2 =
      if files.tree.node fc.path = some .directory ∧
        fc.paramSymlinks = seenLinks files.tree fc.path then .doNothing else .reorderSymlinks :=
    action_reorder hstate hparams
  have hsame : SameUpToState fc.resetActionResolution
      (fc.resetActionResolution.resolveAction files.fileSystem) := sameUpToState_resolveAction
  rw [applyNext] at h
  split at h
  · rename_i hchange
    obtain rfl := Option.some.inj h
    have hresolved : (fc.resetActionResolution.resolveAction files.fileSystem).action =
      (fc.resetActionResolution.getFileChangeResolvedAction files.fileSystem).2 := rfl
    rw [applyChange, hresolved, haction] at hchange
    by_cases horder : files.tree.node fc.path = some .directory ∧
        fc.paramSymlinks = seenLinks files.tree fc.path
    · rw [if_pos horder] at hchange
      obtain rfl := Option.some.inj hchange
      rw [hpath] at horder
      use horder.1
      intro link
      rw [horder.2]
    · rw [if_neg horder] at hchange
      obtain ⟨tree, htree, rfl⟩ := Option.map_eq_some_iff.mp hchange
      have hlinked : Linked { files with tree := tree } dir
          (fc.resetActionResolution.resolveAction files.fileSystem).paramSymlinks := by
        apply linked_recreateSymlinks _ _ htree
        · rw [hsame.1]
          apply hpath
        · rw [hsame.1]
          apply hexpected
      rw [hsame.1] at hlinked
      apply hlinked.keepsLinks (hk _)
  · obtain ⟨hignored, -⟩ := Option.ite_none_right_eq_some.mp h
    rw [hsame.1] at hignored
    exact absurd hignored (Bool.eq_false_iff.mp herrors)

end JetKvm.UsbPlan

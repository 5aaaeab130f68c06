import Mathlib.Data.List.AList
import Mathlib.Data.List.Sort

/-!
# File trees

Directories, regular files and symbolic links under the lists of names that lead to them. An
operation that fails has no result. The names in a directory are listed in their order. Links are
not followed: a path that runs through one leads to no file.
-/

/-- What a path may lead to. -/
inductive FileNode (Content Target : Type*) where
  | directory
  | regular (content : Content)
  | link (target : Target)
deriving DecidableEq

/-- The files under their paths. The root is a directory in any case. -/
structure FileTree (Name Content Target : Type*) where
  files : AList fun _ : List Name => FileNode Content Target

namespace FileTree

instance {Name Content Target : Type*} [DecidableEq Name] [DecidableEq Content]
    [DecidableEq Target] : DecidableEq (FileTree Name Content Target) :=
  fun t t' => decidable_of_iff (t.files.entries = t'.files.entries)
    ⟨fun h => congrArg FileTree.mk (AList.ext h), fun h => congrArg (·.files.entries) h⟩

variable {Name Content Target : Type*} [LinearOrder Name]

/-- What is found under a path. -/
def node (t : FileTree Name Content Target) (path : List Name) :
    Option (FileNode Content Target) :=
  if path = [] then some .directory else t.files.lookup path

/-- Puts a node under a path, in the place of the one that is there. -/
def put (t : FileTree Name Content Target) (path : List Name) (n : FileNode Content Target) :
    FileTree Name Content Target where
  files := if path ∈ t.files then t.files.replace path n else t.files.insert path n

/-- What is at a path is taken away. -/
def erase (t : FileTree Name Content Target) (path : List Name) :
    FileTree Name Content Target where
  files := t.files.erase path

/-- The name under which a path is found in a directory. -/
def nameIn (dir path : List Name) : Option Name :=
  path.getLast?.bind fun name => if path = dir ++ [name] then some name else none

/-- The names in a directory, in their order. -/
def names (t : FileTree Name Content Target) (dir : List Name) : List Name :=
  (t.files.keys.filterMap (nameIn dir)).insertionSort (· ≤ ·)

/-! ### Operations -/

/-- The path is that of a file in a directory. -/
def inDirectory (t : FileTree Name Content Target) (path : List Name) : Bool :=
  match t.node path.dropLast with
  | some .directory => true
  | _ => false

/-- A file is written in a directory that is there, unless a directory has its path. -/
def writeFile (t : FileTree Name Content Target) (path : List Name) (content : Content) :
    Option (FileTree Name Content Target) :=
  match t.node path with
  | some .directory => none
  | some (.regular _) => some (t.put path (.regular content))
  | some (.link _) => none
  | none => if t.inDirectory path then some (t.put path (.regular content)) else none

/-- Makes a directory, unless it is there. -/
def mkdir (t : FileTree Name Content Target) (path : List Name) :
    Option (FileTree Name Content Target) :=
  match t.node path with
  | some .directory => some t
  | some (.regular _) => none
  | some (.link _) => none
  | none => some (t.put path .directory)

/-- Makes a directory, and those that lead to it. -/
def mkdirAll (t : FileTree Name Content Target) (path : List Name) :
    Option (FileTree Name Content Target) :=
  path.inits.foldlM mkdir t

/-- Removes a file or an empty directory. -/
def remove (t : FileTree Name Content Target) (path : List Name) :
    Option (FileTree Name Content Target) :=
  match t.node path with
  | some .directory => if t.names path = [] ∧ path ≠ [] then some (t.erase path) else none
  | some (.regular _) => some (t.erase path)
  | some (.link _) => some (t.erase path)
  | none => none

/-- Removes a file, or a directory with all that is in it. -/
def removeAll (t : FileTree Name Content Target) (path : List Name) :
    FileTree Name Content Target :=
  (t.files.keys.filter fun p => path <+: p).foldl erase t

/-- A link is made where nothing is. -/
def symlink (t : FileTree Name Content Target) (path : List Name) (target : Target) :
    Option (FileTree Name Content Target) :=
  if t.node path = none ∧ t.inDirectory path then some (t.put path (.link target)) else none

/-- Removes several files in turn. -/
def removes (t : FileTree Name Content Target) (paths : List (List Name)) :
    Option (FileTree Name Content Target) :=
  paths.foldlM remove t

/-- Makes several links in turn. -/
def symlinks (t : FileTree Name Content Target) (links : List (List Name × Target)) :
    Option (FileTree Name Content Target) :=
  links.foldlM (fun t link => t.symlink link.1 link.2) t

/-! ### Nodes -/

variable {t t' : FileTree Name Content Target} {path q dir : List Name} {name : Name}
  {n : FileNode Content Target} {content : Content} {target : Target}

/-- The root is a directory. -/
@[simp]
theorem node_nil : t.node [] = some .directory
  := if_pos rfl

/-- Anything else is looked up. -/
theorem node_of_ne (h : path ≠ []) :
  t.node path = t.files.lookup path
  := if_neg h

/-- What is no directory is not the root. -/
theorem ne_nil_of_node (h : t.node path ≠ some .directory) :
  path ≠ []
  := by
  rintro rfl
  exact h node_nil

/-- Replacing the value of a key leaves the others. -/
theorem dlookup_kreplace {Key Value : Type*} [DecidableEq Key] {l : List (Sigma fun _ : Key => Value)}
    {a b : Key} {v : Value} (h : a ∈ l.keys) :
  (List.kreplace a v l).dlookup b = if b = a then some v else l.dlookup b
  := by
  induction l with
  | nil => cases h
  | cons entry l ih =>
      obtain ⟨k, w⟩ := entry
      rw [List.kreplace, List.lookmap_cons]
      by_cases hk : a = k
      · subst hk
        rw [if_pos rfl]
        dsimp only
        by_cases hb : b = a
        · rw [if_pos hb, hb, List.dlookup_cons_eq]
        · rw [if_neg hb, List.dlookup_cons_ne _ _ hb, List.dlookup_cons_ne _ _ hb]
      · rw [if_neg hk]
        dsimp only
        have hrest : a ∈ l.keys := by simpa [hk] using h
        by_cases hb : b = k
        · subst hb
          rw [if_neg (Ne.symm hk), List.dlookup_cons_eq, List.dlookup_cons_eq]
        · rw [List.dlookup_cons_ne _ _ hb, List.dlookup_cons_ne _ _ hb]
          apply ih hrest

/-- Only the path that is put is changed. -/
theorem node_put (h : path ≠ []) :
  (t.put path n).node q = if q = path then some n else t.node q
  := by
  by_cases hq : q = []
  · rw [hq, node_nil, node_nil, if_neg h.symm]
  · rw [node_of_ne hq, node_of_ne hq, put]
    dsimp only
    by_cases hpath : path ∈ t.files
    · rw [if_pos hpath]
      apply dlookup_kreplace (AList.mem_keys.mp hpath)
    · rw [if_neg hpath]
      by_cases hqp : q = path
      · rw [if_pos hqp, hqp, AList.lookup_insert]
      · rw [if_neg hqp, AList.lookup_insert_ne hqp]

/-- Only the path that is erased is changed. -/
theorem node_erase (h : path ≠ []) :
  (t.erase path).node q = if q = path then none else t.node q
  := by
  by_cases hq : q = []
  · rw [hq, node_nil, node_nil, if_neg h.symm]
  · rw [node_of_ne hq, node_of_ne hq, erase]
    dsimp only
    by_cases hqp : q = path
    · rw [if_pos hqp, hqp, AList.lookup_erase]
    · rw [if_neg hqp, AList.lookup_erase_ne hqp]

/-! ### Listing a directory -/

/-- A path has a name in its directory. -/
theorem nameIn_eq_some :
  nameIn dir path = some name ↔ path = dir ++ [name]
  := by
  rw [nameIn, Option.bind_eq_some_iff]
  constructor
  · rintro ⟨last, hlast, hif⟩
    obtain ⟨hpath, hname⟩ := Option.ite_none_right_eq_some.mp hif
    rw [← Option.some.inj hname]
    apply hpath
  · rintro rfl
    use name
    simp

/-- The names in a directory are those of the paths below it. -/
theorem mem_names :
  name ∈ t.names dir ↔ (t.node (dir ++ [name])).isSome
  := by
  have hne : dir ++ [name] ≠ [] := List.concat_ne_nil name dir
  rw [names, List.mem_insertionSort, List.mem_filterMap, node_of_ne hne, AList.lookup_isSome,
    AList.mem_keys]
  constructor
  · rintro ⟨path, hpath, hname⟩
    rw [← nameIn_eq_some.mp hname]
    apply hpath
  · intro h
    exact ⟨_, h, nameIn_eq_some.mpr rfl⟩

/-- The names are listed in order, each of them once. -/
theorem pairwise_names :
  (t.names dir).Pairwise (· < ·)
  := by
  have hnodup : (t.names dir).Nodup := by
    rw [names, (List.perm_insertionSort _ _).nodup_iff]
    apply List.Nodup.filterMap _ t.files.keys_nodup
    intro path path' name h h'
    rw [nameIn_eq_some.mp h, nameIn_eq_some.mp h']
  have hsorted : (t.names dir).Pairwise (· ≤ ·) := List.pairwise_insertionSort _ _
  apply (hsorted.and hnodup).imp
  rintro a b ⟨hle, hne⟩
  exact lt_of_le_of_ne hle hne

/-! ### What operations do -/

/-- Directories stay, and the links are the same. -/
def KeepsLinks (t t' : FileTree Name Content Target) : Prop :=
  ∀ path, (t.node path = some .directory → t'.node path = some .directory) ∧
    ∀ target, t'.node path = some (.link target) ↔ t.node path = some (.link target)

/-- A tree keeps its own links. -/
theorem KeepsLinks.refl (t : FileTree Name Content Target) :
  t.KeepsLinks t
  := fun _ => ⟨id, fun _ => Iff.rfl⟩

/-- Links are kept step by step. -/
theorem KeepsLinks.trans {t'' : FileTree Name Content Target} (first : t.KeepsLinks t')
    (second : t'.KeepsLinks t'') :
  t.KeepsLinks t''
  := fun path => ⟨(second path).1 ∘ (first path).1,
    fun target => ((second path).2 target).trans ((first path).2 target)⟩

/-- A file or a directory that is put where nothing else was keeps the links. -/
theorem keepsLinks_put (hpath : t.node path ≠ some .directory)
    (hold : ∀ target, t.node path ≠ some (.link target)) (hnew : ∀ target, n ≠ .link target) :
  t.KeepsLinks (t.put path n)
  := by
  intro q
  rw [node_put (ne_nil_of_node hpath)]
  by_cases hq : q = path
  · subst hq
    rw [if_pos rfl]
    constructor
    · exact fun h => absurd h hpath
    · intro target
      apply iff_of_false
      · exact fun h => hnew target (Option.some.inj h)
      · exact hold target
  · rw [if_neg hq]
    exact ⟨id, fun _ => Iff.rfl⟩

/-- Writing a file keeps the links. -/
theorem keepsLinks_writeFile (h : t.writeFile path content = some t') :
  t.KeepsLinks t'
  := by
  rw [writeFile] at h
  split at h
  · cases h
  · rename_i hnode
    obtain rfl := Option.some.inj h
    apply keepsLinks_put
    · rw [hnode]
      exact nofun
    · rw [hnode]
      exact fun _ => nofun
    · exact fun _ => nofun
  · cases h
  · rename_i hnode
    obtain ⟨-, hput⟩ := Option.ite_none_right_eq_some.mp h
    obtain rfl := Option.some.inj hput
    apply keepsLinks_put
    · rw [hnode]
      exact nofun
    · rw [hnode]
      exact fun _ => nofun
    · exact fun _ => nofun

/-- Making a directory keeps them. -/
theorem keepsLinks_mkdir (h : t.mkdir path = some t') :
  t.KeepsLinks t'
  := by
  rw [mkdir] at h
  split at h
  · obtain rfl := Option.some.inj h
    apply KeepsLinks.refl
  · cases h
  · cases h
  · rename_i hnode
    obtain rfl := Option.some.inj h
    apply keepsLinks_put
    · rw [hnode]
      exact nofun
    · rw [hnode]
      exact fun _ => nofun
    · exact fun _ => nofun

/-- Making a path of directories keeps them. -/
theorem keepsLinks_mkdirAll (h : t.mkdirAll path = some t') :
  t.KeepsLinks t'
  := by
  rw [mkdirAll] at h
  generalize path.inits = paths at h
  induction paths generalizing t with
  | nil =>
      obtain rfl := Option.some.inj h
      apply KeepsLinks.refl
  | cons first paths ih =>
      rw [List.foldlM_cons] at h
      obtain ⟨between, hmkdir, hrest⟩ := Option.bind_eq_some_iff.mp h
      apply (keepsLinks_mkdir hmkdir).trans (ih hrest)

/-- Only the path that is removed is changed. -/
theorem node_of_remove (h : t.remove path = some t') :
  path ≠ [] ∧ ∀ q, t'.node q = if q = path then none else t.node q
  := by
  rw [remove] at h
  split at h
  · obtain ⟨⟨-, hne⟩, herase⟩ := Option.ite_none_right_eq_some.mp h
    obtain rfl := Option.some.inj herase
    exact ⟨hne, fun q => node_erase hne⟩
  · rename_i hnode
    obtain rfl := Option.some.inj h
    have hne : path ≠ [] := ne_nil_of_node (by rw [hnode]; exact nofun)
    exact ⟨hne, fun q => node_erase hne⟩
  · rename_i hnode
    obtain rfl := Option.some.inj h
    have hne : path ≠ [] := ne_nil_of_node (by rw [hnode]; exact nofun)
    exact ⟨hne, fun q => node_erase hne⟩
  · cases h

/-- Only the paths that are removed are changed. -/
theorem node_of_removes {paths : List (List Name)} (h : t.removes paths = some t') :
  t'.node q = if q ∈ paths then none else t.node q
  := by
  rw [removes] at h
  induction paths generalizing t with
  | nil =>
      obtain rfl := Option.some.inj h
      rw [if_neg List.not_mem_nil]
  | cons path paths ih =>
      rw [List.foldlM_cons] at h
      obtain ⟨between, hremove, hrest⟩ := Option.bind_eq_some_iff.mp h
      rw [ih hrest, (node_of_remove hremove).2]
      by_cases hq : q = path
      · rw [if_pos hq, if_pos (List.mem_cons.mpr (Or.inl hq))]
        split
        · rfl
        · rfl
      · rw [if_neg hq]
        simp only [List.mem_cons, hq, false_or]

/-- Only the path that is linked is changed, and nothing was there. -/
theorem node_of_symlink (h : t.symlink path target = some t') :
  t.node path = none ∧ ∀ q, t'.node q = if q = path then some (.link target) else t.node q
  := by
  rw [symlink] at h
  obtain ⟨⟨hnone, -⟩, hput⟩ := Option.ite_none_right_eq_some.mp h
  obtain rfl := Option.some.inj hput
  use hnone
  intro q
  apply node_put
  apply ne_nil_of_node
  rw [hnone]
  exact nofun

/-- The links that are made are added to those that are there. -/
theorem node_of_symlinks {links : List (List Name × Target)} (h : t.symlinks links = some t') :
  (∀ q target, t'.node q = some (.link target) ↔
      t.node q = some (.link target) ∨ (q, target) ∈ links) ∧
    ∀ q, t.node q = some .directory → t'.node q = some .directory
  := by
  rw [symlinks] at h
  induction links generalizing t with
  | nil =>
      obtain rfl := Option.some.inj h
      constructor
      · intro q target
        rw [or_iff_left List.not_mem_nil]
      · exact fun _ => id
  | cons link links ih =>
      rw [List.foldlM_cons] at h
      obtain ⟨between, hsymlink, hrest⟩ := Option.bind_eq_some_iff.mp h
      obtain ⟨hnone, hbetween⟩ := node_of_symlink hsymlink
      obtain ⟨hlinks, hdirectories⟩ := ih hrest
      constructor
      · intro q target
        rw [hlinks, hbetween, List.mem_cons, Prod.ext_iff]
        by_cases hq : q = link.1
        · rw [if_pos hq, hq, hnone]
          simp [eq_comm]
        · rw [if_neg hq]
          simp [hq]
      · intro q hq
        apply hdirectories
        rw [hbetween, if_neg]
        · apply hq
        · rintro rfl
          rw [hnone] at hq
          cases hq

/-! ### What is in the files -/

/-- Only the path that is written is changed. -/
theorem node_writeFile (h : t.writeFile path content = some t') :
  t'.node q = if q = path then some (.regular content) else t.node q
  := by
  rw [writeFile] at h
  split at h
  · cases h
  · rename_i hnode
    obtain rfl := Option.some.inj h
    apply node_put
    apply ne_nil_of_node
    rw [hnode]
    exact nofun
  · cases h
  · rename_i hnode
    obtain ⟨-, hput⟩ := Option.ite_none_right_eq_some.mp h
    obtain rfl := Option.some.inj hput
    apply node_put
    apply ne_nil_of_node
    rw [hnode]
    exact nofun

/-- Making a directory keeps the files. -/
theorem regular_mkdir (h : t.mkdir path = some t') (hq : t.node q = some (.regular content)) :
  t'.node q = some (.regular content)
  := by
  rw [mkdir] at h
  split at h
  · obtain rfl := Option.some.inj h
    apply hq
  · cases h
  · cases h
  · rename_i hnode
    obtain rfl := Option.some.inj h
    rw [node_put, if_neg]
    · apply hq
    · rintro rfl
      rw [hnode] at hq
      cases hq
    · apply ne_nil_of_node
      rw [hnode]
      exact nofun

/-- Making directories leaves the regular files as they are. -/
theorem regular_mkdirAll (h : t.mkdirAll path = some t')
    (hq : t.node q = some (.regular content)) :
  t'.node q = some (.regular content)
  := by
  rw [mkdirAll] at h
  generalize path.inits = paths at h
  induction paths generalizing t with
  | nil =>
      obtain rfl := Option.some.inj h
      apply hq
  | cons first paths ih =>
      rw [List.foldlM_cons] at h
      obtain ⟨between, hmkdir, hrest⟩ := Option.bind_eq_some_iff.mp h
      apply ih (regular_mkdir hmkdir hq) hrest

/-- Making links leaves the regular files as they are. -/
theorem regular_symlinks {links : List (List Name × Target)} (h : t.symlinks links = some t')
    (hq : t.node q = some (.regular content)) :
  t'.node q = some (.regular content)
  := by
  rw [symlinks] at h
  induction links generalizing t with
  | nil =>
      obtain rfl := Option.some.inj h
      apply hq
  | cons link links ih =>
      rw [List.foldlM_cons] at h
      obtain ⟨between, hsymlink, hrest⟩ := Option.bind_eq_some_iff.mp h
      obtain ⟨hnone, hbetween⟩ := node_of_symlink hsymlink
      apply ih hrest
      rw [hbetween, if_neg]
      · apply hq
      · rintro rfl
        rw [hnone] at hq
        cases hq

end FileTree

import Mathlib.Data.List.Basic

/-!
# Texts and paths

The functions of the packages `strings` and `filepath` that the program calls. Paths are
those of Unix, and are treated lexically. A clean absolute path is given by the file names
it consists of, and joining such paths is appending the lists of their names.
-/

namespace JetKvm

/-- The white space of Unicode. -/
def isSpace (c : Char) : Bool :=
  c.toNat ∈ [0x09, 0x0a, 0x0b, 0x0c, 0x0d, 0x20, 0x85, 0xa0, 0x1680, 0x2028, 0x2029, 0x202f,
    0x205f, 0x3000] || 0x2000 ≤ c.toNat && c.toNat ≤ 0x200a

/-- `strings.TrimSpace`. -/
def trimSpace (s : String) : String :=
  String.ofList ((s.toList.dropWhile isSpace).reverse.dropWhile isSpace).reverse

/-- One component of a path, added to the components before it, the last one first. -/
def cleanStep (rooted : Bool) (components : List (List Char)) (component : List Char) :
    List (List Char) :=
  if component = [] ∨ component = ['.'] then components
  else if component = ['.', '.'] then
    match components with
    | [] => if rooted then [] else [component]
    | last :: rest => if last = ['.', '.'] then component :: components else rest
  else component :: components

/-- `filepath.Clean`, on characters. -/
def filepathClean (path : List Char) : List Char :=
  let rooted := path.head? = some '/'
  let components := (path.splitOn '/').foldl (cleanStep rooted) []
  let joined := ['/'].intercalate components.reverse
  if rooted then '/' :: joined else if joined = [] then ['.'] else joined

/-- `filepath.Base` of a path that is clean. -/
def filepathBase (path : List Char) : List Char :=
  if path = ['/'] then path else ((path.splitOn '/').getLast?).getD ['.']

/-- `filepath.Join` of two paths, the first of which is not empty. -/
def filepathJoin (base path : List Char) : List Char :=
  filepathClean (base ++ '/' :: path)

/-- `filepath.IsAbs`. -/
def filepathIsAbs (path : List Char) : Bool :=
  path.head? = some '/'

/-! ### Clean absolute paths -/

/-- The text can be the name of a file in a directory. -/
def isFileName (text : String) : Bool :=
  text ∉ ["", ".", ".."] && '/' ∉ text.toList

structure FileName where
  text : String
  proper : isFileName text = true
deriving DecidableEq

/-- A clean absolute path, the list of the file names that lead to it from the root. -/
abbrev Path : Type :=
  List FileName

/-- The names as they are written in a path. -/
def Path.names (path : Path) : List (List Char) :=
  path.map fun name => name.text.toList

/-- The path as it is written. -/
def Path.chars (path : Path) : List Char :=
  '/' :: ['/'].intercalate path.names

def Path.text (path : Path) : String :=
  String.ofList path.chars

theorem FileName.toList_ne (name : FileName) :
  name.text.toList ≠ [] ∧ name.text.toList ≠ ['.'] ∧ name.text.toList ≠ ['.', '.']
  := by
  have hproper := name.proper
  rw [isFileName, Bool.and_eq_true, decide_eq_true_eq] at hproper
  refine ⟨?_, ?_, ?_⟩ <;>
  · intro h
    apply hproper.1
    rw [← String.ofList_toList (s := name.text), h]
    decide

theorem FileName.slash_notMem (name : FileName) :
  '/' ∉ name.text.toList
  := by
  have hproper := name.proper
  rw [isFileName, Bool.and_eq_true, decide_eq_true_eq, decide_eq_true_eq] at hproper
  apply hproper.2

theorem cleanStep_name (name : FileName) (rooted : Bool) (components : List (List Char)) :
  cleanStep rooted components name.text.toList = name.text.toList :: components
  := by
  obtain ⟨hempty, hdot, hdots⟩ := name.toList_ne
  unfold cleanStep
  rw [if_neg (by simp [hempty, hdot]), if_neg hdots]

/-- The components between the slashes of a path, all of which are kept. -/
theorem foldl_cleanStep_names (path : Path) (rooted : Bool) (components : List (List Char)) :
  path.names.foldl (cleanStep rooted) components = path.names.reverse ++ components
  := by
  induction path generalizing components with
  | nil => rfl
  | cons name path ih =>
      rw [Path.names] at ih
      rw [Path.names, List.map_cons, List.foldl_cons, cleanStep_name, ih]
      simp

theorem foldl_cleanStep_splitOn (path : Path) (rooted : Bool) (components : List (List Char)) :
  ((['/'].intercalate path.names).splitOn '/').foldl (cleanStep rooted) components =
    path.names.reverse ++ components
  := by
  by_cases hpath : path = []
  · subst hpath
    simp [Path.names, cleanStep]
  · rw [List.splitOn_intercalate, foldl_cleanStep_names]
    · intro component hcomponent
      obtain ⟨name, -, rfl⟩ := List.mem_map.mp hcomponent
      apply name.slash_notMem
    · simp [Path.names, hpath]

/-- Joining clean paths is appending them. -/
theorem filepathJoin_chars (base tail : Path) :
  filepathJoin base.chars (['/'].intercalate tail.names) = Path.chars (base ++ tail)
  := by
  have hroot : base.chars.splitOn '/' = [] :: (['/'].intercalate base.names).splitOn '/' := by
    apply List.splitOn_append_cons_self []
  have hsplit : (base.chars ++ '/' :: ['/'].intercalate tail.names).splitOn '/' =
      [] :: ((['/'].intercalate base.names).splitOn '/' ++
        (['/'].intercalate tail.names).splitOn '/') := by
    rw [List.splitOn_append_cons_self, hroot, List.cons_append]
  have hrooted : (base.chars ++ '/' :: ['/'].intercalate tail.names).head? = some '/' := by
    rfl
  have hfirst : cleanStep true [] [] = [] := by
    rfl
  rw [filepathJoin, filepathClean]
  simp only [hrooted, decide_true, if_true]
  rw [hsplit, List.foldl_cons, hfirst, List.foldl_append, foldl_cleanStep_splitOn,
    foldl_cleanStep_splitOn]
  simp [Path.chars, Path.names]

end JetKvm

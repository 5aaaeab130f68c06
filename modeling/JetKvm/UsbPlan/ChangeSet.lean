import JetKvm.Text

/-!
# Requested file changes

What a change set asks of the files of the gadget, and the action that each request takes in
a given state of the files. A request is told apart by its key, which is its path unless it
is named.
-/

namespace JetKvm.UsbPlan

/-! ### The files -/

/-- What `Lstat` finds at a path. -/
inductive FileInfo where
  | notExist
  | failed
  | symlink
  | directory
  | device
  | regular
  | irregular
deriving DecidableEq, Repr

structure DirEntry where
  name : FileName
  isSymlink : Bool

structure Mount where
  mountPoint : String
  source : String
  fsType : String
deriving DecidableEq

/-- The state of the files. What cannot be read is `none`. -/
structure FileSystem where
  lstat : Path → FileInfo
  readlink : Path → Option (List Char)
  readFile : Path → Option (List UInt8)
  readDir : Path → Option (List DirEntry)
  mounts : Option (List Mount)

/-- The bytes of a text. -/
def bytes (text : String) : List UInt8 :=
  text.toUTF8.data.toList

/-! ### Requests -/

inductive FileState where
  | unknown
  | absent
  | directory
  | file
  | fileContentMatch
  | fileWrite
  | mounted
  | mountedConfigFS
  | symlink
  | symlinkInOrderConfigFS
  | symlinkNotInOrderConfigFS
  | touch
deriving DecidableEq, Repr

inductive FileChangeResolvedAction where
  | unknown
  | doNothing
  | remove
  | createFile
  | writeFile
  | updateFile
  | appendFile
  | createSymlink
  | recreateSymlink
  | createDirectoryAndSymlinks
  | reorderSymlinks
  | createDirectory
  | removeDirectory
  | touch
  | mountConfigFS
deriving DecidableEq, Repr

/-- What a change is known by: its path, or the name that it is given instead. -/
inductive ChangeKey where
  | path (path : Path)
  | named (name : String)
deriving DecidableEq

structure Symlink where
  path : Path
  target : List Char
deriving DecidableEq

/-- A slice that is nil and one that is empty are told apart in `beforeChange` only. -/
structure RequestedFileChange where
  component : String := ""
  key : String := ""
  path : Path
  paramSymlinks : List Symlink := []
  expectedState : FileState
  expectedContent : List UInt8 := []
  dependsOn : List ChangeKey := []
  beforeChange : Option (List ChangeKey) := none
  description : String := ""
  ignoreErrors : Bool := false
  condition : String := ""
deriving DecidableEq

namespace RequestedFileChange

/-- The key of the change, or else its path. -/
def changeKey (f : RequestedFileChange) : ChangeKey :=
  if f.key = "" then .path f.path else .named f.key

/-- The changes that are to be made before this one, if this one changes the file. -/
def changesBefore (f : RequestedFileChange) : List ChangeKey :=
  f.beforeChange.getD []

/-- The change is made only before another one. -/
def IsConditional (f : RequestedFileChange) : Prop :=
  f.condition ≠ ""

instance (f : RequestedFileChange) : Decidable f.IsConditional :=
  inferInstanceAs (Decidable (_ ≠ _))

def isSame (f other : RequestedFileChange) : Bool :=
  f.path = other.path && f.expectedState = other.expectedState &&
    f.expectedContent = other.expectedContent && f.dependsOn = other.dependsOn &&
    f.ignoreErrors = other.ignoreErrors

end RequestedFileChange

structure FileChange extends RequestedFileChange where
  actualState : FileState := .unknown
  actualContent : List UInt8 := []
  resolvedDeps : List ChangeKey := []
  checked : Bool := false
  action : FileChangeResolvedAction := .unknown
deriving DecidableEq

/-! ### Comparing contents -/

/-- The number with the given digits to the base 16, if there are any. -/
def parseHex (digits : List Char) : Option Int :=
  let values := digits.map fun c => "0123456789abcdef".toList.idxOf c.toLower
  if digits ≠ [] ∧ ∀ value ∈ values, value < 16
  then some (values.foldl (fun number value => 16 * number + value) 0 : Nat) else none

/-- `strconv.ParseInt` to the base 16, of a number far from the bounds. -/
def hexToDecimal (hex : List Char) : Option Int :=
  match hex with
  | '-' :: digits => (parseHex digits).map (- ·)
  | '+' :: digits => parseHex digits
  | digits => parseHex digits

/-- The format `%04o`. -/
def decimalToOctal (decimal : Int) : List Char :=
  let digits := Nat.toDigits 8 decimal.natAbs
  if decimal < 0 then '-' :: (List.replicate (3 - digits.length) '0' ++ digits)
  else List.replicate (4 - digits.length) '0' ++ digits

/-- Takes the first `0x` out of a text. -/
def removeFirst0x : List Char → List Char
  | '0' :: 'x' :: rest => rest
  | c :: rest => c :: removeFirst0x rest
  | [] => []

def hexToOctal (hex : List Char) : Option (List Char) :=
  (hexToDecimal (removeFirst0x (hex.map Char.toLower))).map decimalToOctal

/-- The characters of a content, one for each byte. -/
def byteChars (content : List UInt8) : List Char :=
  content.map fun b => Char.ofNat b.toNat

/-- The text of a content without the space around it. -/
def trimmedText (content : List UInt8) : Option String :=
  (String.fromUTF8? ⟨content.toArray⟩).map trimSpace

/-- The comparison that ignores the space around the contents. -/
def compareLoosely (oldContent newContent : List UInt8) (looserMatch : Bool) : Bool :=
  looserMatch ∧ (trimmedText oldContent).isSome ∧ trimmedText oldContent = trimmedText newContent

def compareFileContent (oldContent newContent : List UInt8) (looserMatch : Bool) : Bool :=
  if oldContent = newContent then true
  else if oldContent = newContent ++ [10] then true
  else if newContent.length = 4 then
    if oldContent.length < 6 ∨ 7 < oldContent.length then false
    else
      let oldContent := if oldContent.length = 7 ∧ oldContent.getLast? = some 0x0a
        then oldContent.take 6 else oldContent
      match hexToOctal (byteChars oldContent) with
      | none => false
      | some oldOctalValue =>
          if oldOctalValue = byteChars newContent then true
          else compareLoosely oldContent newContent looserMatch
  else compareLoosely oldContent newContent looserMatch

/-! ### The actual state of a file -/

/-- The state of a directory whose symbolic links are to be in a given order. -/
def checkIfSymlinksInOrder (fs : FileSystem) (fc : FileChange) : Except String FileState :=
  if fc.paramSymlinks = [] then .error "no symlinks to check"
  else match fs.lstat fc.path with
  | .notExist => .ok .absent
  | .failed => .error "failed to stat file"
  | .directory =>
      match fs.readDir fc.path with
      | none => .error "failed to read directory"
      | some files =>
          let links := (files.filter (·.isSymlink)).mapM fun file =>
            let path := fc.path ++ [file.name]
            (fs.readlink path).map fun target =>
              let target := if filepathIsAbs target then target
                else filepathJoin fc.path.chars target
              Symlink.mk path target
          match links with
          | none => .error "failed to read symlink"
          | some links =>
              .ok (if fc.paramSymlinks = links then .symlinkInOrderConfigFS
                else .symlinkNotInOrderConfigFS)
  | _ => .error "file is not a directory"

/-- The state and the content of a directory that is to be a mount point. -/
def checkIfDirIsMountPoint (fs : FileSystem) (fc : FileChange) : Except String FileChange :=
  match fs.mounts with
  | none => .error "failed to get mounts"
  | some mounts =>
      match mounts.find? fun mount => mount.mountPoint = fc.path.text with
      | none => .ok fc
      | some mount =>
          .ok { fc with
            actualState := if mount.fsType = "configfs" then .mountedConfigFS else .mounted
            actualContent := bytes mount.source }

/-- Fills in the actual state of the file, and says what failed. -/
def getActualState (fs : FileSystem) (fc : FileChange) : FileChange × Option String :=
  match fs.lstat fc.path with
  | .notExist => ({ fc with actualState := .absent }, none)
  | .failed => ({ fc with actualState := .unknown }, none)
  | .symlink =>
      let fc := { fc with actualState := .symlink }
      match fs.readlink fc.path with
      | none => (fc, some "failed to read symlink")
      | some target =>
          let target := if filepathIsAbs target then target
            else filepathJoin (Path.chars fc.path.dropLast) target
          ({ fc with actualContent := bytes (String.ofList target) }, none)
  | .directory =>
      let fc := { fc with actualState := .directory }
      match fc.expectedState with
      | .mountedConfigFS =>
          match checkIfDirIsMountPoint fs fc with
          | .ok fc => (fc, none)
          | .error message => (fc, some message)
      | .symlinkInOrderConfigFS =>
          match checkIfSymlinksInOrder fs fc with
          | .ok state => ({ fc with actualState := state }, none)
          | .error message => (fc, some message)
      | _ => (fc, none)
  | .device => (fc, none)
  | .regular =>
      let fc := { fc with actualState := .file }
      match fs.readFile fc.path with
      | none => (fc, some "failed to read file")
      | some content => ({ fc with actualContent := content }, none)
  | .irregular => (fc, some "unknown file type")

/-! ### The action of a change -/

namespace FileChange

def resetActionResolution (fc : FileChange) : FileChange :=
  { fc with checked := false, action := .unknown }

/-- The name of the file, the last one of its path. -/
def baseName (fc : FileChange) : String :=
  ((fc.path.getLast?).map FileName.text).getD "/"

/-- The action of a change whose actual state is filled in. -/
def actionOfState (fc : FileChange) : FileChangeResolvedAction :=
  match fc.expectedState with
  | .directory => if fc.actualState = .directory then .doNothing else .createDirectory
  | .file => if fc.actualState = .file then .doNothing else .createFile
  | .fileContentMatch =>
      if fc.actualState = .file then
        if compareFileContent fc.actualContent fc.expectedContent
            (fc.baseName = "inquiry_string") then .doNothing
        -- a file without content is not updated to a line break
        else if fc.baseName = "file" ∧ fc.actualContent = [] ∧ fc.expectedContent = [0x0a] then
          .doNothing
        else .updateFile
      else .createFile
  | .symlink =>
      if fc.actualState = .symlink then
        if fc.actualContent = fc.expectedContent then .doNothing else .recreateSymlink
      else .createSymlink
  | .symlinkInOrderConfigFS =>
      if fc.actualState = .symlinkInOrderConfigFS then .doNothing else .reorderSymlinks
  | .absent => if fc.actualState = .absent then .doNothing else .remove
  | .mountedConfigFS =>
      if fc.actualState = .mountedConfigFS then .doNothing else .mountConfigFS
  | _ => .doNothing

def getFileChangeResolvedAction (fs : FileSystem) (fc : FileChange) :
    FileChange × FileChangeResolvedAction :=
  match fc.expectedState with
  | .fileWrite => (fc, .writeFile)
  | .touch => (fc, .touch)
  | _ =>
      match getActualState fs fc with
      | (fc, some _) => (fc, .doNothing)
      | (fc, none) => (fc, fc.actionOfState)

/-- The change with its action, which is worked out unless that has been done before. -/
def resolveAction (fs : FileSystem) (fc : FileChange) : FileChange :=
  if fc.checked then fc
  else
    let (fc, action) := fc.getFileChangeResolvedAction fs
    { fc with action := action, checked := true }

end FileChange

/-! ### What is left alone -/

variable (fs : FileSystem) (fc : FileChange)

/-- The two changes are the same up to what has been found out about the file. -/
def SameUpToState (fc fc' : FileChange) : Prop :=
  fc'.toRequestedFileChange = fc.toRequestedFileChange ∧ fc'.resolvedDeps = fc.resolvedDeps

variable {fs fc} {fc' : FileChange}

theorem sameUpToState_checkIfDirIsMountPoint (h : checkIfDirIsMountPoint fs fc = .ok fc') :
  SameUpToState fc fc'
  := by
  unfold checkIfDirIsMountPoint at h
  split at h
  · cases h
  · split at h
    · cases h
      exact ⟨rfl, rfl⟩
    · cases h
      exact ⟨rfl, rfl⟩

theorem sameUpToState_getActualState :
  SameUpToState fc (getActualState fs fc).1
  := by
  unfold getActualState
  cases hstat : fs.lstat fc.path with
  | symlink =>
      dsimp only
      split
      · exact ⟨rfl, rfl⟩
      · exact ⟨rfl, rfl⟩
  | directory =>
      dsimp only
      split
      · split
        · next found hfound => apply sameUpToState_checkIfDirIsMountPoint hfound
        · exact ⟨rfl, rfl⟩
      · split
        · exact ⟨rfl, rfl⟩
        · exact ⟨rfl, rfl⟩
      · exact ⟨rfl, rfl⟩
  | regular =>
      dsimp only
      split
      · exact ⟨rfl, rfl⟩
      · exact ⟨rfl, rfl⟩
  | notExist | failed | device | irregular => exact ⟨rfl, rfl⟩

theorem sameUpToState_getFileChangeResolvedAction :
  SameUpToState fc (fc.getFileChangeResolvedAction fs).1
  := by
  have hstate : SameUpToState fc (getActualState fs fc).1 := sameUpToState_getActualState
  unfold FileChange.getFileChangeResolvedAction
  split
  · exact ⟨rfl, rfl⟩
  · exact ⟨rfl, rfl⟩
  · split
    · next hfound =>
        rw [hfound] at hstate
        apply hstate
    · next hfound =>
        rw [hfound] at hstate
        apply hstate

/-- Working out its action leaves what was requested of a change. -/
theorem sameUpToState_resolveAction :
  SameUpToState fc (fc.resolveAction fs)
  := by
  have hresolved : SameUpToState fc (fc.getFileChangeResolvedAction fs).1 :=
    sameUpToState_getFileChangeResolvedAction
  unfold FileChange.resolveAction
  split
  · exact ⟨rfl, rfl⟩
  · exact ⟨hresolved.1, hresolved.2⟩

end JetKvm.UsbPlan

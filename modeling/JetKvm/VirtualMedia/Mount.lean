import Mathlib.Data.List.Infix
import JetKvm.Library.Procedure
import JetKvm.Library.ThreadPool
import JetKvm.Text

/-!
# Mounting virtual media

Mounting an image over HTTP, mounting one from the storage, and unmounting what is mounted.
The regions under `virtualMediaStateMutex` are atomic, and what the calls do outside of them
is cut into atomic steps in between. The file system, the gadget, the URL and the network
block device may fail each step that needs them.
-/

namespace JetKvm.VirtualMedia

open Procedure

inductive VirtualMediaSource where
  | http
  | storage
deriving DecidableEq, Repr

/-- The mode of a CD-ROM. Any other text stands for a disk. -/
def modeCDROM : String :=
  "CDROM"

structure VirtualMediaState where
  source : VirtualMediaSource
  mode : String
  filename : String := ""
  url : String := ""
  size : Int
deriving DecidableEq, Repr

structure VirtualMediaUrlInfo where
  usable : Bool
  reason : String := ""
  size : Int := 0
deriving DecidableEq, Repr

/-- What the calls share: what is said to be mounted, whether there is a network block
device, the URL that is read, and the image and the mode given to the gadget. -/
structure Media where
  currentVirtualMediaState : Option VirtualMediaState
  nbdDevice : Bool
  httpRangeReader : Option String
  massStorageImage : String
  massStorageCdrom : String
deriving DecidableEq, Repr

/-- What becomes of the writing of a file. -/
inductive FileWrite where
  | written
  | busy (message : String)
  | failed (message : String)
deriving DecidableEq, Repr

def FileWrite.error : FileWrite → Option String
  | written => none
  | busy message => some message
  | failed message => some message

/-- What a step meets. -/
structure Surroundings where
  checkMountUrl : Except String VirtualMediaUrlInfo
  /-- The size of the image file. -/
  stat : Except String Int
  overrideGadgetConfig : Option String
  updateGadgetConfig : Option String
  openKeyboardHidFile : Option String
  rebindUsb : Option String
  writeImage : FileWrite
  /-- The writing that is tried again after the gadget has been rebound. -/
  rewriteImage : FileWrite
  /-- Whether there is the file of the network block device. -/
  nbdExists : Bool
  nbdStart : Option String

/-! ### The locked regions -/

variable (surr : Surroundings)

/-- Hands an image to the gadget. -/
def setMassStorageImage (write : FileWrite) (imagePath : String) : Procedure Media Unit := do
  failOn "failed to set image path: " write.error
  modify fun s => { s with massStorageImage := imagePath }

def rebindAndRecoverHID (context : String) : Procedure Media Unit :=
  failOn (context ++ ": corrective USB rebind failed: ") surr.rebindUsb

/-- Sets the mode of the gadget, which is rebound if the mode is another one. -/
def setMassStorageMode (cdrom : Bool) : Procedure Media Unit := do
  let mode := if cdrom then "1" else "0"
  failOn "failed to set cdrom mode: " surr.overrideGadgetConfig
  let s ← get
  runWhen (s.massStorageCdrom ≠ mode) do
    modify fun s => { s with massStorageCdrom := mode }
    failOn "" surr.updateGadgetConfig
    runWhen (surr.openKeyboardHidFile.isSome = true)
      (rebindAndRecoverHID surr "mass-storage-mode-change")

/-- Takes the image out of the gadget, by force if the gadget is busy. -/
def ejectImage : Procedure Media Unit :=
  match surr.writeImage with
  | .busy message => do
      describe ("failed to unmount image: failed to set image path: " ++ message ++ ", ")
        (rebindAndRecoverHID surr "ebusy-unmount")
      describe "failed to unmount image after gadget rebind: "
        (setMassStorageImage surr.rewriteImage "\n")
  | write => describe "failed to unmount image: " (setMassStorageImage write "\n")

def unmountImageLocked : Procedure Media Unit := do
  ejectImage surr
  modify fun s => { s with nbdDevice := false, currentVirtualMediaState := none }

/-- The check that nothing is mounted. -/
def checkNotMounted : Procedure Media Unit := do
  let s ← get
  failWhen (s.currentVirtualMediaState.isSome = true) "another virtual media is already mounted"

/-- The region of `prepareHTTPMount` that is under the lock. -/
def prepareHTTPMountLocked (url mode : String) (size : Int) :
    Procedure Media VirtualMediaState := do
  checkNotMounted
  modify fun s => { s with httpRangeReader := some url }
  describe "failed to set mass storage mode: " (setMassStorageMode surr (mode = modeCDROM))
  let state : VirtualMediaState := { source := .http, mode := mode, url := url, size := size }
  modify fun s => { s with currentVirtualMediaState := some state }
  return state

def imagesFolder : String :=
  "/userdata/jetkvm/images"

def prepareStorageMount (filename mode : String) : Procedure Media Unit := do
  checkNotMounted
  let size ← describe "failed to get file info: " (MonadExcept.ofExcept surr.stat)
  describe "failed to set mass storage mode: " (setMassStorageMode surr (mode = modeCDROM))
  describe "failed to set mass storage image: "
    (setMassStorageImage surr.writeImage (imagesFolder ++ "/" ++ filename))
  modify fun s => { s with
    currentVirtualMediaState := some
      { source := .storage, mode := mode, filename := filename, size := size } }

/-- The name of an image file, without any folder. -/
def sanitizeFilename (filename : String) : Except String String :=
  let cleanPath := filepathClean filename.toList
  if cleanPath.head? = some '/' ∨ ['.', '.'] <:+: cleanPath then
    throw "invalid filename"
  else
    let sanitized := filepathBase cleanPath
    if sanitized = ['.'] ∨ sanitized = ['/'] then throw "invalid filename"
    else return String.ofList sanitized

/-! ### The calls -/

/-- Where a call is. -/
inductive MediaCall where
  /-- `rpcMountWithHTTP`, before the first look at what is mounted. -/
  | checkMounted (url mode : String)
  /-- `rpcMountWithHTTP`, before the check of the URL. -/
  | checkUrl (url mode : String)
  /-- `rpcMountWithHTTP`, before the region under the lock. -/
  | prepareHTTP (url mode : String) (size : Int)
  /-- `rpcMountWithHTTP`, having published a state, before `NewNBDDevice`. -/
  | newDevice (published : VirtualMediaState)
  /-- `rpcMountWithHTTP`, before the start of the device. -/
  | startDevice (published : VirtualMediaState)
  /-- `rpcMountWithHTTP`, before the device is handed to the gadget. -/
  | setImage (published : VirtualMediaState)
  /-- `rpcMountWithStorage`, before the check of the file name. -/
  | mountStorage (filename mode : String)
  /-- `rpcMountWithStorage`, before `prepareStorageMount`. -/
  | prepareStorage (filename mode : String)
  | unmount
  /-- A mount call that has returned. -/
  | mountReturned (err : Option String)
  /-- A call of `rpcUnmountImage` that has returned. -/
  | unmountReturned (err : Option String)
deriving DecidableEq, Repr

/-- The call goes on where `next` says when the procedure returns a value, and has returned
an error when it fails. -/
def proceed {α : Type} (p : Procedure Media α) (next : α → MediaCall)
    (failed : Option String → MediaCall) (s : Media) : Media × MediaCall :=
  match p s with
  | .ok a t => (t, next a)
  | .error message t => (t, failed (some message))

/-- The device is started, unless another call has taken it away. -/
def startNBDDevice : Procedure Media Unit := do
  failWhen (surr.nbdExists = false) "NBD device does not exist"
  let s ← get
  failWhen (s.nbdDevice = false) "invalid memory address or nil pointer dereference"
  failOn "" surr.nbdStart

namespace MediaCall

/-- One atomic step of a call. -/
def exec (s : Media) : MediaCall → Option (Media × MediaCall)
  | checkMounted url mode =>
      some (proceed checkNotMounted (fun _ => checkUrl (trimSpace url) mode) mountReturned s)
  | checkUrl url mode =>
      match surr.checkMountUrl with
      | .error message => some (s, mountReturned (some message))
      | .ok urlInfo =>
          if urlInfo.usable then some (s, prepareHTTP url mode urlInfo.size)
          else some (s, mountReturned (some urlInfo.reason))
  | prepareHTTP url mode size =>
      some (proceed (prepareHTTPMountLocked surr url mode size) newDevice mountReturned s)
  | newDevice published => some ({ s with nbdDevice := true }, .startDevice published)
  | startDevice published =>
      some (proceed (startNBDDevice surr) (fun _ => setImage published) mountReturned s)
  | setImage _ =>
      some (proceed (setMassStorageImage surr.writeImage "/dev/nbd0")
        (fun _ => mountReturned none) mountReturned s)
  | mountStorage filename mode =>
      match sanitizeFilename filename with
      | .error message => some (s, mountReturned (some message))
      | .ok sanitized => some (s, prepareStorage sanitized mode)
  | prepareStorage filename mode =>
      some (proceed (prepareStorageMount surr filename mode) (fun _ => mountReturned none)
        mountReturned s)
  | unmount =>
      some (proceed (unmountImageLocked surr) (fun _ => unmountReturned none) unmountReturned s)
  | mountReturned _ => none
  | unmountReturned _ => none

/-- Where a call begins. -/
inductive Begins : MediaCall → Prop
  | rpcMountWithHTTP (url mode : String) : Begins (checkMounted url mode)
  | rpcMountWithStorage (filename mode : String) : Begins (mountStorage filename mode)
  | rpcUnmountImage : Begins unmount

end MediaCall

/-- The interleavings of the calls. -/
def mediaLts (Thread : Type) [DecidableEq Thread] :
    Lts (Pool Media MediaCall Thread) (Thread × Surroundings) :=
  Pool.lts fun _ surr s call => call.exec surr s

end JetKvm.VirtualMedia

import JetKvm.Library.Procedure
import JetKvm.Library.Log
import Mathlib.Logic.Function.Basic
import Mathlib.Data.List.Sort

/-!
# The update state

An update concerns two components, the application and the system. What is known about
each of them is kept from one update to the next. The version numbers, the digests and the
keys are those of libraries, which are given; the answers of the update server, of the key
servers and of the file system are the surroundings of each update.
-/

namespace JetKvm.Ota

/-- A component that can be updated, one of `availableComponents`. -/
inductive Component where
  | app
  | system
deriving DecidableEq, Repr

/-- The name of a component in the update parameters. -/
def Component.name : Component → String
  | app => "app"
  | system => "system"

/-- The functions of the libraries for semantic versions, SHA-256 and OpenPGP. -/
structure Libraries (Version Entity : Type) where
  newVersion : String → Except String Version
  greaterThan : Version → Version → Bool
  prerelease : Version → String
  versionString : Version → String
  sha256 : List UInt8 → List UInt8
  readArmoredKeyRing : List UInt8 → Except String (List Entity)
  /-- The fingerprint of the primary key, when the entity and its key are there. -/
  fingerprint : Entity → Option (List UInt8)
  /-- The error of checking a signature over some contents, if there is one. -/
  checkDetachedSignature : List Entity → List UInt8 → List UInt8 → Option String

/-- What the update server offers for a component. -/
structure ComponentMetadata where
  version : String
  url : String
  hash : String
  sigUrl : String
deriving DecidableEq, Repr

/-- The metadata of an update. -/
structure UpdateMetadata where
  app : ComponentMetadata
  system : ComponentMetadata
deriving DecidableEq, Repr

/-- The fields of the metadata that carry the prefix of the component. -/
def UpdateMetadata.component (m : UpdateMetadata) : Component → ComponentMetadata
  | .app => m.app
  | .system => m.system

/-- The parameters of an update. The components are a map from names to versions, the empty
version asking for the newest one. -/
structure UpdateParams where
  deviceID : String := ""
  sku : String := ""
  components : List (String × String)
  includePreRelease : Bool
  resetConfig : Bool
deriving DecidableEq, Repr

def defaultComponents : List (String × String) :=
  [("app", ""), ("system", "")]

namespace UpdateParams

/-- The parameters with an empty map of components replaced by the default one. -/
def withDefault (params : UpdateParams) : UpdateParams :=
  if params.components = [] then { params with components := defaultComponents } else params

/-- The version asked for of a component, when the component is in the map. -/
def constraint (params : UpdateParams) (c : Component) : Option String :=
  params.components.lookup c.name

/-- Whether the update asks for the component. -/
def asksFor (params : UpdateParams) (c : Component) : Bool :=
  (params.constraint c).isSome

/-- Whether a version is asked for of some component. -/
def isCustomVersion (params : UpdateParams) : Bool :=
  params.components.any fun component => component.2 ≠ ""

/-- The map of components as `%v` prints it. -/
def formatComponents (params : UpdateParams) : String :=
  let entries := (params.components.mergeSort fun a b => a.1 ≤ b.1).map fun a => a.1 ++ ":" ++ a.2
  "map[" ++ " ".intercalate entries ++ "]"

end UpdateParams

/-- The status of the update of a component. -/
structure ComponentUpdateStatus where
  pending : Bool := false
  available : Bool := false
  availableReason : String := ""
  customVersionUpdate : Bool := false
  version : String := ""
  localVersion : String := ""
  url : String := ""
  hash : String := ""
  sigUrl : String := ""
deriving DecidableEq, Repr

/-- The verifier of signatures, with the key and the keyring it has cached. -/
structure GPGVerifier (Entity : Type) where
  rootKeyFP : String
  cachedKey : Option (List UInt8) := none
  cachedKeyTime : Nat := 0
  keyring : Option (List Entity) := none

/-- The state that lasts from one update to the next. -/
structure State (Entity : Type) where
  updating : Bool := false
  error : String := ""
  rebootNeeded : Bool := false
  componentUpdateStatuses : Component → ComponentUpdateStatus := fun _ => {}
  gpgVerifier : GPGVerifier Entity

/-- The files of a component: the one under its update path, and the one with
`.unverified` appended to the path. -/
structure UpdateFiles where
  verified : Option (List UInt8) := none
  unverified : Option (List UInt8) := none
deriving DecidableEq, Repr

/-- What an update does that is to be accounted for. -/
inductive Event (Entity : Type) where
  /-- `updateApp` or `updateSystem` is called. -/
  | update (c : Component)
  /-- The verifier accepts a signature over some contents. -/
  | accept (keyring : List Entity) (signature contents : List UInt8)
  /-- The downloaded file of the component is renamed to its update path. -/
  | rename (c : Component) (contents : List UInt8)
  /-- `setAutoUpdate(false)`, whose failure is only reported. -/
  | disableAutoUpdate
  | resetConfig
  /-- The reboot is requested, after which the user is sent to a page. -/
  | reboot (redirectTo : String)
deriving DecidableEq

/-- The device: the update state, the files and the events of the latest update. -/
structure Device (Entity : Type) where
  state : State Entity
  files : Component → UpdateFiles := fun _ => {}
  log : List (Event Entity) := []

/-- The procedures of an update. -/
abbrev Update (Entity Value : Type) :=
  Procedure (Device Entity) Value

/-! ### The surroundings of an update -/

/-- The answer to a request. The body is what was read of it before it ended, or before the
reading failed with `bodyError`. -/
structure Answer where
  statusCode : Nat
  contentLength : Int := 0
  body : List UInt8 := []
  bodyError : Option String := none

/-- The fate of a request. -/
inductive Exchange (α : Type) where
  | notCreated (message : String)
  | notSent (message : String)
  | answered (answer : α)

/-- The answer of the update server: the status code and the decoded metadata. -/
structure MetadataAnswer where
  statusCode : Nat
  metadata : Except String UpdateMetadata

/-- The key servers at the time of a verification. -/
structure KeyserverSurroundings where
  now : Nat
  cancelled : String → Option String
  keyserver : String → Exchange Answer
  cancelledAfter : Option String

/-- What the download and the verification of a component meet: the answers to the requests
for its signature and its file, and the errors of the operations that fail. -/
structure ComponentSurroundings where
  signature : String → Exchange Answer
  removeFile : Option String := none
  removeUnverified : Option String := none
  createFile : Option String := none
  download : String → Exchange Answer
  /-- The write that fails, after how many bytes of the file and with what message. -/
  writeFile : Option (Nat × String) := none
  sync : Option String := none
  dropCaches : Option String := none
  openToHash : Option String := none
  stat : Option String := none
  read : Option String := none
  keyservers : KeyserverSurroundings
  openToVerify : Option String := none
  renameFile : Option String := none
  chmod : Option String := none

/-- What an update meets. -/
structure Surroundings (Version : Type) where
  /-- The versions of the system and of the application that run. -/
  getLocalVersion : Except String (Version × Version)
  parseEndpoint : Option String := none
  /-- The answer of the update server to a query. -/
  metadata : List (String × String) → Exchange MetadataAnswer
  component : Component → ComponentSurroundings
  startRkOta : Option String := none
  waitRkOta : Option String := none
  resetConfig : Option String := none
  reboot : Option String := none

/-! ### Changing the state -/

variable {Version Entity Value : Type}

/-- Changes the update state. -/
def modifyState (f : State Entity → State Entity) : Update Entity Unit :=
  modify fun d => { d with state := f d.state }

/-- Changes the files of a component. -/
def modifyFiles (c : Component) (f : UpdateFiles → UpdateFiles) : Update Entity Unit :=
  modify fun d => { d with files := Function.update d.files c (f (d.files c)) }

/-- Logs an event. -/
def emit (e : Event Entity) : Update Entity Unit :=
  modify fun d => { d with log := d.log ++ [e] }

def setUpdating (updating : Bool) : Update Entity Unit :=
  modifyState fun s => { s with updating := updating }

/-- Stores the status of a component. -/
def triggerComponentUpdateState (c : Component) (update : ComponentUpdateStatus) :
    Update Entity Unit :=
  modifyState fun s =>
    { s with componentUpdateStatuses := Function.update s.componentUpdateStatuses c update }

/-- Records an error, which ends the update. -/
def componentUpdateError (text message : String) : Update Entity Value := do
  modifyState fun s => { s with error := text ++ ": " ++ message, updating := false }
  throw message

/-- Ends the update when `p` fails. -/
def orUpdateError (text : String) (p : Update Entity Value) : Update Entity Value :=
  tryCatch p (componentUpdateError text)

end JetKvm.Ota

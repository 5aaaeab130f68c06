import JetKvm.Config.Save
import JetKvm.Library.Unmarshal
import JetKvm.Macro.Compile
import JetKvm.Network.NetworkConfig

/-!
# The fields of the configuration and their decoders

The configuration consists of five sections, which are behind pointers, and of plain fields. Each
type is decoded from JSON by its fields, and the types of the network section that may be null
decode themselves.
-/

namespace JetKvm.ConfigFile

open Unmarshal ConfParser

/-! ### The sections -/

/-- When and how the mouse is jiggled. -/
structure JigglerConfig where
  inactivityLimitSeconds : ℤ
  jitterPercentage : ℤ
  scheduleCronTab : String
  timezone : String
deriving DecidableEq

/-- `usbgadget.Config`, without what is not exported. -/
structure UsbConfig where
  vendorId : String
  productId : String
  serialNumber : String
  manufacturer : String
  product : String
deriving DecidableEq

/-- The broker, and what is announced to it. -/
structure MQTTConfig where
  enabled : Bool
  broker : String
  port : ℤ
  username : String
  password : String
  baseTopic : String
  useTLS : Bool
  tlsInsecure : Bool
  enableHADiscovery : Bool
  enableActions : Bool
  enableHAMacroButtons : Bool
  enableHAMediaButtons : Bool
  debounceMs : ℤ
deriving DecidableEq

/-- A jiggle every minute without input. -/
def defaultJigglerConfig : JigglerConfig where
  inactivityLimitSeconds := 60
  jitterPercentage := 25
  scheduleCronTab := "0 * * * * *"
  timezone := "UTC"

/-- The device presents itself under these identifiers. -/
def defaultUsbConfig : UsbConfig where
  vendorId := "0x1d6b"
  productId := "0x0104"
  serialNumber := ""
  manufacturer := "JetKVM"
  product := "USB Emulation Device"

/-- All devices but the serial console. -/
def defaultUsbDevices : Devices where
  absoluteMouse := true
  relativeMouse := true
  keyboard := true
  massStorage := true
  serialConsole := false
  audio := true

/-! ### The other fields -/

/-- A host that can be woken over the network. -/
structure WakeOnLanDevice where
  name : String
  macAddress : String
  broadcastIP : String
deriving DecidableEq

/-- A stored macro. -/
structure KeyboardMacro where
  id : String
  name : String
  steps : List Macro.MacroStep
  sortOrder : ℤ
deriving DecidableEq

/-- The fields that loading does not look at, with the type of floating point numbers. -/
structure Others (F : Type) where
  cloudURL : String
  updateAPIURL : String
  cloudAppURL : String
  cloudToken : String
  tailscaleControlURL : String
  googleIdentity : String
  jigglerEnabled : Bool
  autoUpdateEnabled : Bool
  includePreRelease : Bool
  hashedPassword : String
  localAuthToken : String
  localAuthMode : String
  localLoopbackOnly : Bool
  wakeOnLanDevices : List WakeOnLanDevice
  keyboardMacros : List KeyboardMacro
  activeExtension : String
  displayRotation : String
  displayMaxBrightness : ℤ
  displayDimAfterSec : ℤ
  displayOffAfterSec : ℤ
  tlsMode : String
  videoSleepAfterSec : ℤ
  videoQualityFactor : F
  videoCodecPreference : String
  hideDisplayWhenIdle : Bool
  nativeMaxRestart : ℕ
deriving DecidableEq

/-- The fields that are not behind a pointer. -/
structure Plain (F : Type) where
  audioEnabled : Bool
  keyboardLayout : String
  defaultLogLevel : String
  edidString : String
  others : Others F
deriving DecidableEq

/-- The fields that are pointers to a section. -/
inductive Section where
  | jigglerConfig | usbConfig | usbDevices | networkConfig | mqttConfig
deriving DecidableEq

namespace Section

/-- What the pointer points to. -/
def Value : Section → Type
  | jigglerConfig => JigglerConfig
  | usbConfig => UsbConfig
  | usbDevices => Devices
  | networkConfig => NetworkConfig
  | mqttConfig => MQTTConfig

/-- What `new` makes. -/
def zero : (s : Section) → s.Value
  | jigglerConfig => JigglerConfig.mk 0 0 "" ""
  | usbConfig => UsbConfig.mk "" "" "" "" ""
  | usbDevices => Devices.mk false false false false false false
  | networkConfig => NetworkConfig.zero
  | mqttConfig => MQTTConfig.mk false "" 0 "" "" "" false false false false false false 0

/-- What `getDefaultConfig` makes. -/
def default : (s : Section) → s.Value
  | jigglerConfig => defaultJigglerConfig
  | usbConfig => defaultUsbConfig
  | usbDevices => defaultUsbDevices
  | networkConfig => NetworkConfig.withDefaults
  | mqttConfig =>
      MQTTConfig.mk false "" 1883 "" "" "jetkvm" false false false true false false 500

instance : (s : Section) → DecidableEq s.Value
  | jigglerConfig => inferInstanceAs (DecidableEq JigglerConfig)
  | usbConfig => inferInstanceAs (DecidableEq UsbConfig)
  | usbDevices => inferInstanceAs (DecidableEq Devices)
  | networkConfig => inferInstanceAs (DecidableEq NetworkConfig)
  | mqttConfig => inferInstanceAs (DecidableEq MQTTConfig)

end Section

/-! ### Decoding -/

/-- What is used of other libraries: how a text is parsed as JSON, how a number is read as a
floating point number, and how the types of `null` decode themselves. -/
structure Libraries (F : Type) where
  parse : List UInt8 → Option Document
  parseFloat : String → Option F
  /-- The number one. -/
  one : F
  nullString : Document → Option (NullString → NullString)
  nullInt : Document → Option (NullInt → NullInt)
  nullBool : Document → Option (NullBool → NullBool)

/-- A string takes the place of the old one. -/
def string : Decoder String :=
  .literal fun
    | .string s => some s
    | _ => none

/-- So does a truth value. -/
def bool : Decoder Bool :=
  .literal fun
    | .bool b => some b
    | _ => none

/-- The device has `int`s of 32 bits. -/
def int : Decoder ℤ :=
  .literal fun
    | .number literal => (atoi literal).filter fun n => -2147483648 ≤ n ∧ n ≤ 2147483647
    | _ => none

/-- A number that is not negative and has no fraction. -/
def uint : Decoder ℕ :=
  .literal fun
    | .number literal =>
        if literal.toList.all Char.isDigit then
          ((atoi literal).filter fun n => n ≤ 4294967295).map Int.toNat
        else none
    | _ => none

/-- A field, given how it is read and replaced. -/
def field {σ α : Type} (name : String) (get : σ → α) (set : σ → α → σ) (decoder : Decoder α) :
    String × Decoder σ :=
  (name, fun value => (decoder value).on get set)

/-- The fields of a structure. -/
def struct {σ : Type} (fields : List (String × Decoder σ)) : Decoder σ :=
  .struct (findField fields)

/-- The section of the jiggler. -/
def jigglerConfig : Decoder JigglerConfig :=
  struct
    [field "inactivity_limit_seconds" (·.inactivityLimitSeconds)
      (fun c v => { c with inactivityLimitSeconds := v }) int,
     field "jitter_percentage" (·.jitterPercentage) (fun c v => { c with jitterPercentage := v }) int,
     field "schedule_cron_tab" (·.scheduleCronTab)
      (fun c v => { c with scheduleCronTab := v }) string,
     field "timezone" (·.timezone) (fun c v => { c with timezone := v }) string]

/-- The section of the USB identifiers. -/
def usbConfig : Decoder UsbConfig :=
  struct
    [field "vendor_id" (·.vendorId) (fun c v => { c with vendorId := v }) string,
     field "product_id" (·.productId) (fun c v => { c with productId := v }) string,
     field "serial_number" (·.serialNumber) (fun c v => { c with serialNumber := v }) string,
     field "manufacturer" (·.manufacturer) (fun c v => { c with manufacturer := v }) string,
     field "product" (·.product) (fun c v => { c with product := v }) string]

/-- The section of the USB devices. -/
def usbDevices : Decoder Devices :=
  struct
    [field "absolute_mouse" (·.absoluteMouse) (fun d v => { d with absoluteMouse := v }) bool,
     field "relative_mouse" (·.relativeMouse) (fun d v => { d with relativeMouse := v }) bool,
     field "keyboard" (·.keyboard) (fun d v => { d with keyboard := v }) bool,
     field "mass_storage" (·.massStorage) (fun d v => { d with massStorage := v }) bool,
     field "serial_console" (·.serialConsole) (fun d v => { d with serialConsole := v }) bool,
     field "audio" (·.audio) (fun d v => { d with audio := v }) bool]

/-- The section of the broker. -/
def mqttConfig : Decoder MQTTConfig :=
  struct
    [field "enabled" (·.enabled) (fun c v => { c with enabled := v }) bool,
     field "broker" (·.broker) (fun c v => { c with broker := v }) string,
     field "port" (·.port) (fun c v => { c with port := v }) int,
     field "username" (·.username) (fun c v => { c with username := v }) string,
     field "password" (·.password) (fun c v => { c with password := v }) string,
     field "base_topic" (·.baseTopic) (fun c v => { c with baseTopic := v }) string,
     field "use_tls" (·.useTLS) (fun c v => { c with useTLS := v }) bool,
     field "tls_insecure" (·.tlsInsecure) (fun c v => { c with tlsInsecure := v }) bool,
     field "enable_ha_discovery" (·.enableHADiscovery)
      (fun c v => { c with enableHADiscovery := v }) bool,
     field "enable_actions" (·.enableActions) (fun c v => { c with enableActions := v }) bool,
     field "enable_ha_macro_buttons" (·.enableHAMacroButtons)
      (fun c v => { c with enableHAMacroButtons := v }) bool,
     field "enable_ha_media_buttons" (·.enableHAMediaButtons)
      (fun c v => { c with enableHAMediaButtons := v }) bool,
     field "debounce_ms" (·.debounceMs) (fun c v => { c with debounceMs := v }) int]

/-- An entry of the list of hosts. -/
def wakeOnLanDevice : Decoder WakeOnLanDevice :=
  struct
    [field "name" (·.name) (fun d v => { d with name := v }) string,
     field "macAddress" (·.macAddress) (fun d v => { d with macAddress := v }) string,
     field "broadcastIP" (·.broadcastIP) (fun d v => { d with broadcastIP := v }) string]

/-- A step of a stored macro. -/
def keyboardMacroStep : Decoder Macro.MacroStep :=
  struct
    [field "keys" (·.keys) (fun s v => { s with keys := v }) (.slice string ""),
     field "modifiers" (·.modifiers) (fun s v => { s with modifiers := v }) (.slice string ""),
     field "delay" (·.delay) (fun s v => { s with delay := v }) int]

/-- A stored macro with its steps. -/
def keyboardMacro : Decoder KeyboardMacro :=
  struct
    [field "id" (·.id) (fun m v => { m with id := v }) string,
     field "name" (·.name) (fun m v => { m with name := v }) string,
     field "steps" (·.steps) (fun m v => { m with steps := v }) (.slice keyboardMacroStep ⟨[], [], 0⟩),
     field "sortOrder" (·.sortOrder) (fun m v => { m with sortOrder := v }) int]

section

variable {F : Type} (lib : Libraries F)

/-- A number with a fraction. -/
def float : Decoder F :=
  .literal fun
    | .number literal => lib.parseFloat literal
    | _ => none

/-- The static addresses of IPv4. -/
def ipv4StaticConfig : Decoder IPv4StaticConfig :=
  struct
    [field "address" (·.address) (fun c v => { c with address := v }) (.custom lib.nullString),
     field "netmask" (·.netmask) (fun c v => { c with netmask := v }) (.custom lib.nullString),
     field "gateway" (·.gateway) (fun c v => { c with gateway := v }) (.custom lib.nullString),
     field "dns" (·.dns) (fun c v => { c with dns := v }) (.slice string "")]

/-- The static addresses of IPv6. -/
def ipv6StaticConfig : Decoder IPv6StaticConfig :=
  struct
    [field "prefix" (·.ipPrefix) (fun c v => { c with ipPrefix := v }) (.custom lib.nullString),
     field "gateway" (·.gateway) (fun c v => { c with gateway := v }) (.custom lib.nullString),
     field "dns" (·.dns) (fun c v => { c with dns := v }) (.slice string "")]

/-- The section of the network. -/
def networkConfig : Decoder NetworkConfig :=
  struct
    [field "dhcp_client" (·.dhcpClient) (fun c v => { c with dhcpClient := v })
      (.custom lib.nullString),
     field "hostname" (·.hostname) (fun c v => { c with hostname := v }) (.custom lib.nullString),
     field "http_proxy" (·.httpProxy) (fun c v => { c with httpProxy := v }) (.custom lib.nullString),
     field "domain" (·.domain) (fun c v => { c with domain := v }) (.custom lib.nullString),
     field "ipv4_mode" (·.ipv4Mode) (fun c v => { c with ipv4Mode := v }) (.custom lib.nullString),
     field "ipv4_static" (·.ipv4Static) (fun c v => { c with ipv4Static := v })
      (.pointer (ipv4StaticConfig lib) ⟨⟨"", false⟩, ⟨"", false⟩, ⟨"", false⟩, []⟩),
     field "ipv6_mode" (·.ipv6Mode) (fun c v => { c with ipv6Mode := v }) (.custom lib.nullString),
     field "ipv6_static" (·.ipv6Static) (fun c v => { c with ipv6Static := v })
      (.pointer (ipv6StaticConfig lib) ⟨⟨"", false⟩, ⟨"", false⟩, []⟩),
     field "lldp_mode" (·.lldpMode) (fun c v => { c with lldpMode := v }) (.custom lib.nullString),
     field "lldp_tx_tlvs" (·.lldpTxTLVs) (fun c v => { c with lldpTxTLVs := v }) (.slice string ""),
     field "mdns_mode" (·.mdnsMode) (fun c v => { c with mdnsMode := v }) (.custom lib.nullString),
     field "time_sync_mode" (·.timeSyncMode) (fun c v => { c with timeSyncMode := v })
      (.custom lib.nullString),
     field "time_sync_ordering" (·.timeSyncOrdering) (fun c v => { c with timeSyncOrdering := v })
      (.slice string ""),
     field "time_sync_disable_fallback" (·.timeSyncDisableFallback)
      (fun c v => { c with timeSyncDisableFallback := v }) (.custom lib.nullBool),
     field "time_sync_parallel" (·.timeSyncParallel) (fun c v => { c with timeSyncParallel := v })
      (.custom lib.nullInt),
     field "time_sync_ntp_servers" (·.timeSyncNTPServers)
      (fun c v => { c with timeSyncNTPServers := v }) (.slice string ""),
     field "time_sync_http_urls" (·.timeSyncHTTPUrls)
      (fun c v => { c with timeSyncHTTPUrls := v }) (.slice string "")]

end

end JetKvm.ConfigFile

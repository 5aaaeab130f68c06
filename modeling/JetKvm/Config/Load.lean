import JetKvm.Config.Decoders

/-!
# Loading the configuration

`LoadConfig` decodes the file into a copy of the defaults, so that a file that is not accepted
should leave the defaults as they are. The copy is shallow: its five sections are the ones of the
defaults, behind the same pointers. A file that is not JSON is not decoded at all, but one with a
value of a wrong type is decoded as far as it goes, and what it says about the sections is then in
force although the file is reported as not loaded.
-/

namespace JetKvm.ConfigFile

open Unmarshal ConfParser

variable {F : Type} (lib : Libraries F)

/-! ### The fields -/

def Section.decoder : (s : Section) → Decoder s.Value
  | .jigglerConfig => ConfigFile.jigglerConfig
  | .usbConfig => ConfigFile.usbConfig
  | .usbDevices => ConfigFile.usbDevices
  | .networkConfig => ConfigFile.networkConfig lib
  | .mqttConfig => ConfigFile.mqttConfig

/-- Where a value goes. -/
inductive Target (F : Type) where
  | section (s : Section)
  | plain (decoder : Decoder (Plain F))

/-- A plain field. -/
def plain {α : Type} (name : String) (get : Plain F → α) (set : Plain F → α → Plain F)
    (decoder : Decoder α) : String × Target F :=
  (name, .plain fun value => (decoder value).on get set)

/-- A plain field that loading does not look at. -/
def other {α : Type} (name : String) (get : Others F → α) (set : Others F → α → Others F)
    (decoder : Decoder α) : String × Target F :=
  plain name (fun c => get c.others) (fun c v => { c with others := set c.others v }) decoder

/-- The fields of the configuration. -/
def fields : List (String × Target F) :=
  [other "cloud_url" (·.cloudURL) (fun c v => { c with cloudURL := v }) string,
   other "update_api_url" (·.updateAPIURL) (fun c v => { c with updateAPIURL := v }) string,
   other "cloud_app_url" (·.cloudAppURL) (fun c v => { c with cloudAppURL := v }) string,
   other "cloud_token" (·.cloudToken) (fun c v => { c with cloudToken := v }) string,
   other "tailscale_control_url" (·.tailscaleControlURL)
    (fun c v => { c with tailscaleControlURL := v }) string,
   other "google_identity" (·.googleIdentity) (fun c v => { c with googleIdentity := v }) string,
   other "jiggler_enabled" (·.jigglerEnabled) (fun c v => { c with jigglerEnabled := v }) bool,
   ("jiggler_config", .section .jigglerConfig),
   other "auto_update_enabled" (·.autoUpdateEnabled) (fun c v => { c with autoUpdateEnabled := v })
    bool,
   other "include_pre_release" (·.includePreRelease) (fun c v => { c with includePreRelease := v })
    bool,
   other "hashed_password" (·.hashedPassword) (fun c v => { c with hashedPassword := v }) string,
   other "local_auth_token" (·.localAuthToken) (fun c v => { c with localAuthToken := v }) string,
   other "localAuthMode" (·.localAuthMode) (fun c v => { c with localAuthMode := v }) string,
   other "local_loopback_only" (·.localLoopbackOnly) (fun c v => { c with localLoopbackOnly := v })
    bool,
   other "wake_on_lan_devices" (·.wakeOnLanDevices) (fun c v => { c with wakeOnLanDevices := v })
    (.slice wakeOnLanDevice ⟨"", "", ""⟩),
   other "keyboard_macros" (·.keyboardMacros) (fun c v => { c with keyboardMacros := v })
    (.slice keyboardMacro ⟨"", "", [], 0⟩),
   plain "keyboard_layout" (·.keyboardLayout) (fun c v => { c with keyboardLayout := v }) string,
   plain "hdmi_edid_string" (·.edidString) (fun c v => { c with edidString := v }) string,
   other "active_extension" (·.activeExtension) (fun c v => { c with activeExtension := v }) string,
   other "display_rotation" (·.displayRotation) (fun c v => { c with displayRotation := v }) string,
   other "display_max_brightness" (·.displayMaxBrightness)
    (fun c v => { c with displayMaxBrightness := v }) int,
   other "display_dim_after_sec" (·.displayDimAfterSec)
    (fun c v => { c with displayDimAfterSec := v }) int,
   other "display_off_after_sec" (·.displayOffAfterSec)
    (fun c v => { c with displayOffAfterSec := v }) int,
   other "tls_mode" (·.tlsMode) (fun c v => { c with tlsMode := v }) string,
   ("usb_config", .section .usbConfig),
   ("usb_devices", .section .usbDevices),
   ("network_config", .section .networkConfig),
   plain "default_log_level" (·.defaultLogLevel) (fun c v => { c with defaultLogLevel := v }) string,
   other "video_sleep_after_sec" (·.videoSleepAfterSec)
    (fun c v => { c with videoSleepAfterSec := v }) int,
   other "video_quality_factor" (·.videoQualityFactor)
    (fun c v => { c with videoQualityFactor := v }) (float lib),
   other "video_codec_preference" (·.videoCodecPreference)
    (fun c v => { c with videoCodecPreference := v }) string,
   other "host_display_disable_when_idle" (·.hideDisplayWhenIdle)
    (fun c v => { c with hideDisplayWhenIdle := v }) bool,
   other "native_max_restart_attempts" (·.nativeMaxRestart)
    (fun c v => { c with nativeMaxRestart := v }) uint,
   ("mqtt_config", .section .mqttConfig),
   plain "audio_enabled" (·.audioEnabled) (fun c v => { c with audioEnabled := v }) bool]

/-! ### Configurations -/

/-- The types of the sections, and the other fields. -/
def parts (F : Type) : Parts where
  UsbConfig := UsbConfig
  NetworkConfig := NetworkConfig
  JigglerConfig := JigglerConfig
  MqttConfig := MQTTConfig
  Other := Others F

instance : DecidableEq (parts F).JigglerConfig :=
  inferInstanceAs (DecidableEq JigglerConfig)

/-- A configuration, given by what its pointers point to and by the plain fields. -/
structure Settings (F : Type) where
  sections : (s : Section) → Option s.Value
  plain : Plain F

def Settings.toConfig (c : Settings F) : Config (parts F) where
  usbConfig := c.sections .usbConfig
  usbDevices := c.sections .usbDevices
  audioEnabled := c.plain.audioEnabled
  networkConfig := c.sections .networkConfig
  jigglerConfig := c.sections .jigglerConfig
  mqttConfig := c.sections .mqttConfig
  keyboardLayout := c.plain.keyboardLayout
  defaultLogLevel := c.plain.defaultLogLevel
  edidString := c.plain.edidString
  others := c.plain.others

def defaultOthers : Others F where
  cloudURL := "https://api.jetkvm.com"
  updateAPIURL := "https://api.jetkvm.com"
  cloudAppURL := "https://app.jetkvm.com"
  cloudToken := ""
  tailscaleControlURL := ""
  googleIdentity := ""
  jigglerEnabled := false
  autoUpdateEnabled := true
  includePreRelease := false
  hashedPassword := ""
  localAuthToken := ""
  localAuthMode := ""
  localLoopbackOnly := false
  wakeOnLanDevices := []
  keyboardMacros := []
  activeExtension := ""
  displayRotation := "270"
  displayMaxBrightness := 64
  displayDimAfterSec := 120
  displayOffAfterSec := 1800
  tlsMode := ""
  videoSleepAfterSec := 0
  videoQualityFactor := lib.one
  videoCodecPreference := "auto"
  hideDisplayWhenIdle := false
  nativeMaxRestart := 0

def defaultPlain : Plain F where
  audioEnabled := false
  keyboardLayout := "en-US"
  defaultLogLevel := "WARN"
  edidString := ""
  others := defaultOthers lib

/-- The defaults, as the merging takes them. -/
def defaults : Defaults (parts F) where
  usbConfig := Section.default .usbConfig
  usbDevices := defaultUsbDevices
  networkConfig := Section.default .networkConfig
  jigglerConfig := Section.default .jigglerConfig
  mqttConfig := Section.default .mqttConfig
  others := defaultOthers lib

def getDefaultConfig : Settings F where
  sections s := some s.default
  plain := defaultPlain lib

/-- How a configuration of its own is decoded. -/
def Settings.decoder : Decoder (Settings F) :=
  .struct fun key => (findField (fields lib) key).map fun
    | .section s => fun value =>
        (Decoder.pointer (s.decoder lib) s.zero value).on (·.sections s)
          fun c p => { c with sections := Function.update c.sections s p }
    | .plain decoder => fun value => (decoder value).on (·.plain) fun c p => { c with plain := p }

/-! ### The shallow copy -/

/-- The sections of the defaults with the pointers of `loadedConfig`, and the plain fields of
`loadedConfig`. -/
structure Memory (F : Type) where
  places : (s : Section) → Place s.Value
  plain : Plain F

namespace Memory

/-- `loadedConfig := defaultConfig`. -/
def shallowCopy : Memory F where
  places s := (s.default, some .shared)
  plain := defaultPlain lib

variable (m : Memory F)

/-- What `defaultConfig` is. -/
def defaultConfig : Settings F where
  sections s := some (m.places s).1
  plain := defaultPlain lib

/-- What `loadedConfig` is. -/
def loadedConfig : Settings F where
  sections s := (m.places s).read
  plain := m.plain

def setPlace (s : Section) (place : Place s.Value) : Memory F :=
  { m with places := Function.update m.places s place }

/-- How `loadedConfig` is decoded. -/
def decoder : Decoder (Memory F) :=
  .struct fun key => (findField (fields lib) key).map fun
    | .section s => fun value =>
        (Place.decode (s.decoder lib) s.zero value).on (·.places s) fun m => m.setPlace s
    | .plain decoder => fun value => (decoder value).on (·.plain) fun m p => { m with plain := p }

/-- A section that is missing is the one of another default configuration. -/
def fillNil (s : Section) : Memory F :=
  if (m.places s).2 = none then m.setPlace s ((m.places s).1, some (.own s.default)) else m

/-- The devices that say nothing about audio. -/
def fillAudio (hasAudio : Bool) : Memory F :=
  if (m.places .usbDevices).2 = none then m.fillNil .usbDevices
  else if hasAudio then m
  else
    m.setPlace .usbDevices <| (m.places .usbDevices).write fun devices : Devices =>
      { devices with audio := defaultUsbDevices.audio }

def usbDevices : Option Devices :=
  (m.places .usbDevices).read

/-- Without an audio device there is no audio. -/
def audioEnabled : Bool :=
  if m.usbDevices.any (·.audio) then m.plain.audioEnabled else false

/-- What `LoadConfig` does to `loadedConfig` after it has been decoded. -/
def merge (hasAudio : Bool) : Memory F :=
  let m := (m.fillNil .usbConfig).fillAudio hasAudio
  let m := { m with plain := { m.plain with audioEnabled := m.audioEnabled } }
  let m := ((m.fillNil .networkConfig).fillNil .jigglerConfig).fillNil .mqttConfig
  let plain := m.plain
  { m with
    plain :=
      { plain with
        keyboardLayout := if plain.keyboardLayout = "en_US" then "en-US" else plain.keyboardLayout
        defaultLogLevel := "WARN"
        edidString :=
          if plain.edidString = "" ∨ equalFold plain.edidString tsbDefaultEDID ∨
              equalFold plain.edidString jkvV1NoHighRefresh ∨
              equalFold plain.edidString jkvV1CtaOnly120 then
            defaultEDID
          else plain.edidString } }

end Memory

/-- Whether the file says anything about audio, if it says something about the devices. -/
def usbDevicesConfigHasAudio : Document → Bool
  | .object members =>
      let values := (members.filter fun m =>
        (findField [("usb_devices", ())] m.1).isSome).map Prod.snd
      let keys := values.foldl (fun keys value =>
        match value with
        | .object devices => some (keys.getD [] ++ devices.map Prod.fst)
        | _ => none) (none : Option (List String))
      if values.all (fun value =>
          match value with
          | .object _ | .null => true
          | _ => false) then
        match keys with
        | some keys => decide ("audio" ∈ keys)
        | none => true
      else true
  | _ => true

/-! ### Loading -/

/-- The file of the configuration. -/
inductive File where
  | missing
  /-- It cannot be read. -/
  | unreadable
  | content (rawConfig : List UInt8)

/-- The configuration, and whether its last load is reported as successful. -/
structure Loaded (F : Type) where
  config : Settings F
  configSuccess : Bool

def LoadConfig (loaded : Option (Loaded F)) (file : File) : Loaded F :=
  match loaded, file with
  | some loaded, _ => loaded
  | none, .missing => ⟨getDefaultConfig lib, true⟩
  | none, .unreadable => ⟨getDefaultConfig lib, false⟩
  | none, .content rawConfig =>
      match lib.parse rawConfig with
      | none => ⟨getDefaultConfig lib, false⟩
      | some document =>
          let decoded := Memory.decoder lib document
          let m := decoded.run (Memory.shallowCopy lib)
          if decoded.verdict = .fits then
            ⟨(m.merge (usbDevicesConfigHasAudio document)).loadedConfig, true⟩
          else ⟨m.defaultConfig lib, false⟩

/-! ### What decoding and merging show -/

namespace Memory

variable (m : Memory F)

/-- Decoding into the copy shows in `loadedConfig` what decoding into a configuration of its own
shows. -/
theorem shows_loadedConfig (document : Document) :
  Effect.Shows loadedConfig (decoder lib document) (Settings.decoder lib document)
  := by
  apply shows_struct
  intro t value
  cases t with
  | plain decoder => exact ⟨rfl, fun _ => rfl⟩
  | «section» s =>
      obtain ⟨hverdict, hrun⟩ : Effect.Shows Place.read
          (Place.decode (s.decoder lib) s.zero value)
          (Decoder.pointer (s.decoder lib) s.zero value) := Place.shows_read_decode value
      use hverdict
      intro m
      have hsections : (fun s' => (Function.update m.places s
            ((Place.decode (s.decoder lib) s.zero value).run (m.places s)) s').read) =
          Function.update (fun s' => (m.places s').read) s
            ((Decoder.pointer (s.decoder lib) s.zero value).run (m.places s).read) := by
        funext s'
        by_cases h : s' = s
        · obtain rfl := h
          rw [Function.update_self, Function.update_self, hrun]
        · rw [Function.update_of_ne h, Function.update_of_ne h]
      exact congrArg (Settings.mk · m.plain) hsections

@[simp]
theorem places_setPlace_self {s : Section} (place : Place s.Value) :
  (m.setPlace s place).places s = place
  := Function.update_self ..

theorem places_setPlace_of_ne {s s' : Section} (h : s' ≠ s) (place : Place s.Value) :
  (m.setPlace s place).places s' = m.places s'
  := Function.update_of_ne h ..

theorem read_fillNil (s : Section) :
  ((m.fillNil s).places s).read = some ((m.places s).read.getD s.default)
  := by
  rw [fillNil]
  split
  · next h =>
      rw [places_setPlace_self, Place.read, Place.read, h]
      rfl
  · next h =>
      obtain ⟨cell, hcell⟩ := Option.ne_none_iff_exists'.mp h
      rw [Place.read, hcell]
      rfl

theorem places_fillNil_of_ne {s s' : Section} (h : s' ≠ s) :
  (m.fillNil s).places s' = m.places s'
  := by
  rw [fillNil]
  split
  · exact places_setPlace_of_ne m h _
  · rfl

@[simp]
theorem plain_fillNil (s : Section) :
  (m.fillNil s).plain = m.plain
  := by
  rw [fillNil]
  split
  · rfl
  · rfl

theorem places_fillAudio_of_ne {s : Section} (h : s ≠ .usbDevices) (hasAudio : Bool) :
  (m.fillAudio hasAudio).places s = m.places s
  := by
  rw [fillAudio]
  split
  · exact places_fillNil_of_ne m h
  · split
    · rfl
    · exact places_setPlace_of_ne m h _

@[simp]
theorem plain_fillAudio (hasAudio : Bool) :
  (m.fillAudio hasAudio).plain = m.plain
  := by
  rw [fillAudio]
  split
  · exact plain_fillNil m _
  · split
    · rfl
    · rfl

/-- The devices that the merging makes of those in the file. -/
def mergedDevices (hasAudio : Bool) : Option Devices → Devices
  | none => (defaults lib).usbDevices
  | some devices =>
      if hasAudio then devices else { devices with audio := (defaults lib).usbDevices.audio }

theorem read_fillAudio (hasAudio : Bool) :
  ((m.fillAudio hasAudio).places .usbDevices).read =
    some (mergedDevices lib hasAudio (m.places .usbDevices).read)
  := by
  rw [fillAudio]
  split
  · next h =>
      rw [read_fillNil, Place.read, h]
      rfl
  · next h =>
      obtain ⟨cell, hcell⟩ := Option.ne_none_iff_exists'.mp h
      obtain ⟨devices, hdevices⟩ : ∃ devices, (m.places .usbDevices).read = some devices := by
        rw [Place.read, hcell]
        exact ⟨_, rfl⟩
      split
      · next haudio =>
          rw [hdevices, haudio]
          rfl
      · next haudio =>
          rw [places_setPlace_self, Bool.eq_false_iff.mpr haudio]
          apply Eq.trans (Place.read_write _ _)
          rw [hdevices]
          rfl

theorem read_merge_of_ne {s : Section} (h : s ≠ .usbDevices) (hasAudio : Bool) :
  ((m.merge hasAudio).places s).read = some ((m.places s).read.getD s.default)
  := by
  have hother : ∀ {s'}, s ≠ s' → ∀ m : Memory F, (m.fillNil s').places s = m.places s :=
    fun hne m => places_fillNil_of_ne m hne
  rw [merge]
  dsimp only
  cases s with
  | usbDevices => exact absurd rfl h
  | usbConfig =>
      rw [hother (by decide), hother (by decide), hother (by decide)]
      dsimp only
      rw [places_fillAudio_of_ne _ h, read_fillNil]
  | networkConfig =>
      rw [hother (by decide), hother (by decide), read_fillNil]
      dsimp only
      rw [places_fillAudio_of_ne _ h, hother (by decide)]
  | jigglerConfig =>
      rw [hother (by decide), read_fillNil, hother (by decide)]
      dsimp only
      rw [places_fillAudio_of_ne _ h, hother (by decide)]
  | mqttConfig =>
      rw [read_fillNil, hother (by decide), hother (by decide)]
      dsimp only
      rw [places_fillAudio_of_ne _ h, hother (by decide)]

theorem read_merge_usbDevices (hasAudio : Bool) :
  ((m.merge hasAudio).places .usbDevices).read =
    some (mergedDevices lib hasAudio (m.places .usbDevices).read)
  := by
  have hother : ∀ {s'}, .usbDevices ≠ s' → ∀ m : Memory F,
      (m.fillNil s').places .usbDevices = m.places .usbDevices :=
    fun hne m => places_fillNil_of_ne m hne
  rw [merge]
  dsimp only
  rw [hother (by decide), hother (by decide), hother (by decide)]
  dsimp only
  rw [read_fillAudio lib, hother (by decide)]

theorem plain_merge (hasAudio : Bool) :
  (m.merge hasAudio).plain =
    { audioEnabled :=
        if (mergedDevices lib hasAudio m.usbDevices).audio then m.plain.audioEnabled else false
      keyboardLayout :=
        if m.plain.keyboardLayout = "en_US" then "en-US" else m.plain.keyboardLayout
      defaultLogLevel := "WARN"
      edidString :=
        if m.plain.edidString = "" ∨ equalFold m.plain.edidString tsbDefaultEDID ∨
            equalFold m.plain.edidString jkvV1NoHighRefresh ∨
            equalFold m.plain.edidString jkvV1CtaOnly120 then
          defaultEDID
        else m.plain.edidString
      others := m.plain.others }
  := by
  have hdevices : ((m.fillNil .usbConfig).fillAudio hasAudio).usbDevices =
      some (mergedDevices lib hasAudio m.usbDevices) := by
    apply (read_fillAudio lib _ hasAudio).trans
    rw [places_fillNil_of_ne m (by decide)]
    rfl
  have haudio : ((m.fillNil .usbConfig).fillAudio hasAudio).audioEnabled =
      if (mergedDevices lib hasAudio m.usbDevices).audio then m.plain.audioEnabled else false := by
    rw [audioEnabled, hdevices, plain_fillAudio, plain_fillNil]
    rfl
  rw [merge]
  simp only [plain_fillNil, plain_fillAudio, haudio]

/-- The file is merged over the defaults. -/
theorem toConfig_loadedConfig_merge (hasAudio : Bool) :
  (m.merge hasAudio).loadedConfig.toConfig =
    (defaults lib).merge hasAudio m.loadedConfig.toConfig
  := by
  have hsection : ∀ s, s ≠ .usbDevices →
      ((m.merge hasAudio).places s).read = some ((m.places s).read.getD s.default) :=
    fun s h => read_merge_of_ne m h hasAudio
  rw [loadedConfig, Settings.toConfig]
  dsimp only
  rw [hsection .usbConfig (by decide), hsection .networkConfig (by decide),
    hsection .jigglerConfig (by decide), hsection .mqttConfig (by decide),
    read_merge_usbDevices lib, plain_merge lib]
  rfl

end Memory

/-! ### What a failed load leaves behind -/

/-- What decoding does to a section of the defaults. A null of the section ends it. -/
def sharedDecoder (s : Section) : Decoder s.Value :=
  .struct fun key => (findField (fields lib) key).map fun
    | .section s' => fun value =>
        if s' = s then Place.decodeShared (s.decoder lib) value
        else .skip (Place.decode (s'.decoder lib) s'.zero value).verdict
    | .plain decoder => fun value => .skip (decoder value).verdict

/-- What the document says about the sections, before a null, is what is there by default. -/
def LeavesSections (document : Document) : Prop :=
  ∀ s : Section, (sharedDecoder lib s document).run s.default = s.default

/-- If the file is JSON that does not have the types of the configuration, it leaves the
sections. -/
def Harmless : File → Prop
  | .content rawConfig => ∀ document ∈ lib.parse rawConfig,
      (Settings.decoder lib document).verdict = .fits ∨ LeavesSections lib document
  | _ => True

/-- The file is merged over the defaults. A file that is missing says nothing. -/
def Merged : File → Config (parts F) → Prop
  | .missing, config => config = (defaults lib).getDefaultConfig
  | .unreadable, _ => False
  | .content rawConfig, config => ∃ document ∈ lib.parse rawConfig,
      (Settings.decoder lib document).verdict = .fits ∧
        config = (defaults lib).merge (usbDevicesConfigHasAudio document)
          ((Settings.decoder lib document).run (getDefaultConfig lib)).toConfig

/-- Success is recorded and the file used, or the defaults are in force. -/
def LoadsOrLeaves (file : File) (loaded : Loaded F) : Prop :=
  loaded.configSuccess = true ∧ Merged lib file loaded.config.toConfig ∨
    loaded.configSuccess = false ∧ loaded.config.toConfig = (defaults lib).getDefaultConfig

theorem shares_decoder (s : Section) (document : Document) :
  Place.Shares (·.places s) (Memory.decoder lib document) (sharedDecoder lib s document)
  := by
  apply Place.shares_struct
  intro t value
  cases t with
  | plain decoder => exact Place.shares_of_unchanged fun _ => rfl
  | «section» s' =>
      dsimp only
      split
      · next h =>
          obtain rfl := h
          exact Place.shares_decode (fun m place => m.places_setPlace_self place) value
      · next h =>
          exact Place.shares_of_unchanged fun m =>
            m.places_setPlace_of_ne (fun heq => h heq.symm) _

/-- The defaults are left as they are when each section is. -/
theorem toConfig_defaultConfig_iff (document : Document) :
  (((Memory.decoder lib document).run (Memory.shallowCopy lib)).defaultConfig lib).toConfig =
      (defaults lib).getDefaultConfig ↔
    LeavesSections lib document
  := by
  have hplace : ∀ s, (((Memory.decoder lib document).run (Memory.shallowCopy lib)).places s).1 =
      (sharedDecoder lib s document).run s.default :=
    fun s => (shares_decoder lib s document).attached (Memory.shallowCopy lib) rfl
  rw [LeavesSections, Memory.defaultConfig, Settings.toConfig]
  simp only [hplace]
  constructor
  · intro h
    obtain ⟨husb, hdevices, -, hnetwork, hjiggler, hmqtt, -⟩ := Config.mk.inj h
    intro s
    cases s with
    | jigglerConfig => exact Option.some.inj hjiggler
    | usbConfig => exact Option.some.inj husb
    | usbDevices => exact Option.some.inj hdevices
    | networkConfig => exact Option.some.inj hnetwork
    | mqttConfig => exact Option.some.inj hmqtt
  · intro h
    simp only [h]
    rfl

variable {lib}

/-- What is in force after a file has been read. -/
theorem LoadConfig_content {rawConfig : List UInt8} {document : Document}
    (hparse : lib.parse rawConfig = some document) :
  ((Settings.decoder lib document).verdict = .fits ∧
      (LoadConfig lib none (.content rawConfig)).configSuccess = true ∧
      (LoadConfig lib none (.content rawConfig)).config.toConfig =
        (defaults lib).merge (usbDevicesConfigHasAudio document)
          ((Settings.decoder lib document).run (getDefaultConfig lib)).toConfig) ∨
    (Settings.decoder lib document).verdict ≠ .fits ∧
      (LoadConfig lib none (.content rawConfig)).configSuccess = false ∧
      ((LoadConfig lib none (.content rawConfig)).config.toConfig =
        (defaults lib).getDefaultConfig ↔ LeavesSections lib document)
  := by
  have hshows := Memory.shows_loadedConfig lib document
  rw [LoadConfig, hparse]
  dsimp only
  rw [hshows.verdict]
  by_cases hfits : (Settings.decoder lib document).verdict = .fits
  · rw [if_pos hfits]
    refine Or.inl ⟨hfits, rfl, ?_⟩
    rw [Memory.toConfig_loadedConfig_merge lib, hshows.run]
    rfl
  · rw [if_neg hfits]
    exact Or.inr ⟨hfits, rfl, toConfig_defaultConfig_iff lib document⟩

/-- A text that is not JSON leaves the defaults. -/
theorem LoadConfig_malformed {rawConfig : List UInt8} (hparse : lib.parse rawConfig = none) :
  LoadConfig lib none (.content rawConfig) = ⟨getDefaultConfig lib, false⟩
  := by
  rw [LoadConfig, hparse]

/-- Loading a harmless file is what reading back a saved file takes it to be. -/
theorem toConfig_LoadConfig_of_harmless {json : Json (parts F)} {rawConfig : List UInt8}
    (hunmarshal : json.unmarshal rawConfig (defaults lib).getDefaultConfig =
      (lib.parse rawConfig).bind fun document =>
        if (Settings.decoder lib document).verdict = .fits then
          some ((Settings.decoder lib document).run (getDefaultConfig lib)).toConfig
        else none)
    (haudio : ∀ document ∈ lib.parse rawConfig,
      json.usbDevicesConfigHasAudio rawConfig = usbDevicesConfigHasAudio document)
    (hharmless : Harmless lib (.content rawConfig)) :
  (LoadConfig lib none (.content rawConfig)).config.toConfig =
    loadConfig json (defaults lib) (some rawConfig)
  := by
  rw [loadConfig, hunmarshal]
  cases hparse : lib.parse rawConfig with
  | none =>
      rw [LoadConfig_malformed hparse]
      rfl
  | some document =>
      rw [Option.bind_some]
      obtain ⟨hfits, -, hconfig⟩ | ⟨hfits, -, hconfig⟩ := LoadConfig_content hparse
      · rw [if_pos hfits, haudio document hparse]
        exact hconfig
      · rw [if_neg hfits]
        exact hconfig.mpr ((hharmless document hparse).resolve_left hfits)

variable (lib)

/-- A load uses the file or leaves the defaults exactly when the file is harmless. -/
theorem loadsOrLeaves_iff (file : File) :
  LoadsOrLeaves lib file (LoadConfig lib none file) ↔ Harmless lib file
  := by
  cases file with
  | missing => exact iff_of_true (Or.inl ⟨rfl, rfl⟩) trivial
  | unreadable => exact iff_of_true (Or.inr ⟨rfl, rfl⟩) trivial
  | content rawConfig =>
      cases hparse : lib.parse rawConfig with
      | none =>
          rw [LoadConfig_malformed hparse]
          apply iff_of_true (Or.inr ⟨rfl, rfl⟩)
          intro document hdocument
          rw [hparse] at hdocument
          cases hdocument
      | some document =>
          have hharmless : Harmless lib (.content rawConfig) ↔
              (Settings.decoder lib document).verdict = .fits ∨ LeavesSections lib document := by
            simp only [Harmless, hparse, Option.mem_def, Option.some.injEq, forall_eq']
          rw [hharmless]
          obtain ⟨hfits, hsuccess, hconfig⟩ | ⟨hfits, hsuccess, hconfig⟩ :=
            LoadConfig_content hparse
          · exact iff_of_true (Or.inl ⟨hsuccess, document, hparse, hfits, hconfig⟩) (Or.inl hfits)
          · rw [LoadsOrLeaves, hsuccess, hconfig, or_iff_right hfits]
            constructor
            · rintro (⟨hfalse, -⟩ | ⟨-, hleaves⟩)
              · cases hfalse
              · exact hleaves
            · exact fun hleaves => Or.inr ⟨rfl, hleaves⟩

/-! ### A number for an address -/

/-- What is used of other libraries, as far as the document below needs it. -/
def wrongURLLibraries (document : Document) (text : List UInt8) : Libraries ℤ where
  parse rawConfig := if rawConfig = text then some document else none
  parseFloat := atoi
  one := 1
  nullString
    | .string s => some fun _ => ⟨s, true⟩
    | .null => some fun s => { s with valid := false }
    | _ => none
  nullInt
    | .number literal => (atoi literal).map fun n _ => ⟨n, true⟩
    | .null => some fun n => { n with valid := false }
    | _ => none
  nullBool
    | .bool b => some fun _ => ⟨b, true⟩
    | .null => some fun b => { b with valid := false }
    | _ => none

/-- A jitter of thirty percent, and a number where the address of the cloud should be. -/
def wrongURL : Document :=
  .object [("jiggler_config", .object [("jitter_percentage", .number "30")]),
    ("cloud_url", .number "5")]

/-- Its text. -/
def wrongURLText : List UInt8 :=
  123 :: ("\"jiggler_config\":".toList.map fun c => c.toNat.toUInt8) ++
    123 :: ("\"jitter_percentage\":30".toList.map fun c => c.toNat.toUInt8) ++
    125 :: (",\"cloud_url\":5".toList.map fun c => c.toNat.toUInt8) ++ [125]

/-- The file is reported as not loaded, and the jitter is thirty percent. -/
theorem not_loadsOrLeaves_wrongURL :
  let lib := wrongURLLibraries wrongURL wrongURLText
  let loaded := LoadConfig lib none (.content wrongURLText)
  loaded.configSuccess = false ∧
    loaded.config.toConfig.jigglerConfig = some { defaultJigglerConfig with jitterPercentage := 30 } ∧
    ¬ LoadsOrLeaves lib (.content wrongURLText) loaded
  := by
  intro lib loaded
  have hsuccess : loaded.configSuccess = false := by decide +kernel
  have hjiggler : loaded.config.toConfig.jigglerConfig =
      some { defaultJigglerConfig with jitterPercentage := 30 } := by decide +kernel
  use hsuccess, hjiggler
  rintro (⟨htrue, -⟩ | ⟨-, hdefault⟩)
  · rw [hsuccess] at htrue
    cases htrue
  · rw [hdefault] at hjiggler
    exact absurd hjiggler (by decide +kernel)

end JetKvm.ConfigFile

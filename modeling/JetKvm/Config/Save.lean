import Mathlib.Data.List.DropRight
import Mathlib.Tactic.Common

/-!
# Saving the configuration

`saveConfig` truncates the configuration file and writes it again, and `LoadConfig` reads it when
the device starts. The device may lose power at any point of the writing, and a file that does not
parse is answered with the defaults. What encodes and parses a configuration is a parameter, of
which only this is assumed: what is encoded parses, and what is encoded up to its last brace does
not parse when it is cut.
-/

namespace JetKvm.ConfigFile

/-- The devices of the gadget. -/
structure Devices where
  absoluteMouse : Bool
  relativeMouse : Bool
  keyboard : Bool
  massStorage : Bool
  serialConsole : Bool
  audio : Bool
deriving DecidableEq, Repr

/-- The types of the parts of a configuration that are only copied. -/
structure Parts where
  UsbConfig : Type
  NetworkConfig : Type
  JigglerConfig : Type
  MqttConfig : Type
  Other : Type

/-- A configuration: the fields that loading and saving look at, and the others. -/
structure Config (P : Parts) where
  usbConfig : Option P.UsbConfig
  usbDevices : Option Devices
  audioEnabled : Bool
  networkConfig : Option P.NetworkConfig
  jigglerConfig : Option P.JigglerConfig
  mqttConfig : Option P.MqttConfig
  keyboardLayout : String
  defaultLogLevel : String
  edidString : String
  others : P.Other

/-- The defaults of the parts that may be missing, and of the others. -/
structure Defaults (P : Parts) where
  usbConfig : P.UsbConfig
  usbDevices : Devices
  networkConfig : P.NetworkConfig
  jigglerConfig : P.JigglerConfig
  mqttConfig : P.MqttConfig
  others : P.Other

/-- `native.DefaultEDID`. -/
def defaultEDID : String :=
  "00FFFFFFFFFFFF0028B4010001EEFFC0302301038047287856EE91A3544C99260F5054000000D1C081C0" ++
    "318001010101010101010101023A801871382D40582C4500C48E2100001E773300A050D02B2030203500" ++
    "122C2100001A000000FD00174C0F5111000A202020202020000000FC004A65744B564D2076310A202020" ++
    "01D5020322D1431004012309070783010000E200CFE40D100401E305000065030C001000000000000000" ++
    "000000000000000000000000000000000000000000000000000000000000000000000000000000000000" ++
    "000000000000000000000000000000000000000000000000000000000000000000000000000000000000" ++
    "000000CF"

/-- The default of the chip. -/
def tsbDefaultEDID : String :=
  "00ffffffffffff0052620188008888881c150103800000780a0dc9a05747982712484c00000001010101" ++
    "010101010101010101010101023a801871382d40582c4500c48e2100001e011d007251d01e206e285500" ++
    "c48e2100001e000000fc00543734392d6648443732300a20000000fd00147801ff1d000a202020202020" ++
    "017b"

/-- A former default. -/
def jkvV1NoHighRefresh : String :=
  "00ffffffffffff0028b4010001eeffc0302301038047287856ee91a3544c99260f5054000000d1c081c0" ++
    "318001010101010101010101023a801871382d40582c4500c48e2100001e011d007251d01e206e285500" ++
    "c48e2100001e000000fd00174c0f5111000a202020202020000000fc004a65744b564d2076310a202020" ++
    "011d020322d1431004012309070783010000e200cfe40d100401e305000065030c001000000000000000" ++
    "000000000000000000000000000000000000000000000000000000000000000000000000000000000000" ++
    "000000000000000000000000000000000000000000000000000000000000000000000000000000000000" ++
    "000000cf"

/-- Another former default. -/
def jkvV1CtaOnly120 : String :=
  "00ffffffffffff0028b4010001eeffc0302301038047287856ee91a3544c99260f5054000000d1c081c0" ++
    "318001010101010101010101023a801871382d40582c4500c48e2100001e011d007251d01e206e285500" ++
    "c48e2100001e000000fd00174c0f5111000a202020202020000000fc004a65744b564d2076310a202020" ++
    "011d020322d1431004012309070783010000e200cfe40d100401e305000065030c001000773300a050d0" ++
    "2b2030203500122c2100001a000000000000000000000000000000000000000000000000000000000000" ++
    "000000000000000000000000000000000000000000000000000000000000000000000000000000000000" ++
    "0000001c"

/-- The strings are equal but for the case of their letters. It is only asked about hexadecimal
digits, which no letter outside of ASCII folds to. -/
def equalFold (s t : String) : Bool :=
  s.toList.map Char.toLower = t.toList.map Char.toLower

variable {P : Parts}

/-- `getDefaultConfig`. -/
def Defaults.getDefaultConfig (defaults : Defaults P) : Config P where
  usbConfig := some defaults.usbConfig
  usbDevices := some defaults.usbDevices
  audioEnabled := false
  networkConfig := some defaults.networkConfig
  jigglerConfig := some defaults.jigglerConfig
  mqttConfig := some defaults.mqttConfig
  keyboardLayout := "en-US"
  defaultLogLevel := "WARN"
  edidString := ""
  others := defaults.others

/-- What `LoadConfig` makes of a configuration that has been parsed. `hasAudio` says whether the
file says anything about audio, if it says something about the devices at all. -/
def Defaults.merge (defaults : Defaults P) (hasAudio : Bool) (config : Config P) : Config P :=
  let usbDevices :=
    match config.usbDevices with
    | none => defaults.usbDevices
    | some devices =>
        if hasAudio then devices else { devices with audio := defaults.usbDevices.audio }
  { config with
    usbConfig := some (config.usbConfig.getD defaults.usbConfig)
    usbDevices := some usbDevices
    audioEnabled := if usbDevices.audio then config.audioEnabled else false
    networkConfig := some (config.networkConfig.getD defaults.networkConfig)
    jigglerConfig := some (config.jigglerConfig.getD defaults.jigglerConfig)
    mqttConfig := some (config.mqttConfig.getD defaults.mqttConfig)
    keyboardLayout := if config.keyboardLayout = "en_US" then "en-US" else config.keyboardLayout
    defaultLogLevel := "WARN"
    edidString :=
      if config.edidString = "" ∨ equalFold config.edidString tsbDefaultEDID ∨
          equalFold config.edidString jkvV1NoHighRefresh ∨
          equalFold config.edidString jkvV1CtaOnly120 then
        defaultEDID
      else config.edidString }

/-- `json.NewEncoder` and `json.Unmarshal`. A configuration that can be encoded is written as an
object, which ends with its last brace, and a line feed. -/
structure Json (P : Parts) where
  /-- The object of a configuration, if it can be encoded. -/
  object : Config P → Option (List UInt8)
  /-- The configuration, merged into another one. -/
  unmarshal : List UInt8 → Config P → Option (Config P)
  usbDevicesConfigHasAudio : List UInt8 → Bool
  /-- The end of the input comes unexpected. -/
  unmarshal_nil : ∀ into, unmarshal [] into = none
  /-- What has been encoded is parsed. -/
  unmarshal_object : ∀ config bytes into, object config = some bytes →
    (unmarshal bytes into).isSome
  /-- The line feed does not matter. -/
  unmarshal_lineFeed : ∀ bytes into, unmarshal (bytes ++ [10]) into = unmarshal bytes into
  hasAudio_lineFeed : ∀ bytes,
    usbDevicesConfigHasAudio (bytes ++ [10]) = usbDevicesConfigHasAudio bytes
  /-- An object that is cut before its last brace is not parsed. -/
  unmarshal_take : ∀ config bytes into n, object config = some bytes → n < bytes.length →
    unmarshal (bytes.take n) into = none

variable (json : Json P) (defaults : Defaults P)

/-- `LoadConfig`, with the content of the file, if there is one. -/
def loadConfig (file : Option (List UInt8)) : Config P :=
  match file with
  | none => defaults.getDefaultConfig
  | some rawConfig =>
      match json.unmarshal rawConfig defaults.getDefaultConfig with
      | none => defaults.getDefaultConfig
      | some loadedConfig =>
          defaults.merge (json.usbDevicesConfigHasAudio rawConfig) loadedConfig

/-- Where a save comes to its end, or the device loses power. -/
inductive SavePoint where
  /-- Before `os.Create`, or because it fails. -/
  | create
  /-- After `os.Create`, when so many bytes have been written. -/
  | written (n : ℕ)
  /-- After everything has been written, before `Sync`, or because it fails. -/
  | sync
  | saved
deriving DecidableEq, Repr

/-- The layout that is written is the new one. -/
def fixKeyboardLayout (config : Config P) : Config P :=
  { config with
    keyboardLayout := if config.keyboardLayout = "en_US" then "en-US" else config.keyboardLayout }

/-- The file that `saveConfig` leaves behind when it comes to its end at the given point. Of a
configuration that cannot be encoded nothing is written. -/
def saveConfig (config : Config P) (point : SavePoint) (file : Option (List UInt8)) :
    Option (List UInt8) :=
  let encoded := ((json.object (fixKeyboardLayout config)).map (· ++ [10])).getD []
  match point with
  | .create => file
  | .written n => some (encoded.take n)
  | .sync | .saved => some encoded

/-- What is loaded after the configuration has been saved, if it can be encoded. -/
def normalised (config : Config P) : Option (Config P) :=
  (json.object (fixKeyboardLayout config)).map
    fun bytes => loadConfig json defaults (some (bytes ++ [10]))

/-- The save stops after the file has been truncated and before the last brace is written. -/
def Truncates (config : Config P) (point : SavePoint) : Prop :=
  match json.object (fixKeyboardLayout config) with
  | none => point ≠ .create
  | some bytes => ∃ n < bytes.length, point = .written n

/-! ### Loading what has been saved -/

variable {json defaults} {config before : Config P} {point : SavePoint} {bytes : List UInt8}

theorem loadConfig_lineFeed (bytes : List UInt8) :
  loadConfig json defaults (some (bytes ++ [10])) = loadConfig json defaults (some bytes)
  := by
  rw [loadConfig, loadConfig, json.unmarshal_lineFeed, json.hasAudio_lineFeed]

/-- A file that does not parse is answered with the defaults. -/
theorem loadConfig_unparsed
  (h : json.unmarshal bytes defaults.getDefaultConfig = none) :
  loadConfig json defaults (some bytes) = defaults.getDefaultConfig
  := by
  rw [loadConfig, h]

/-- No merged configuration is the default one, which says nothing about the display. -/
theorem merge_ne_default (hasAudio : Bool) (config : Config P) :
  defaults.merge hasAudio config ≠ defaults.getDefaultConfig
  := by
  intro h
  have h := congrArg Config.edidString h
  simp only [Defaults.merge, Defaults.getDefaultConfig] at h
  split at h
  · exact absurd h (by decide)
  · rename_i h'
    exact h' (Or.inl h)

/-- What has been saved is never loaded as the defaults. -/
theorem normalised_ne_default :
  normalised json defaults config ≠ some defaults.getDefaultConfig
  := by
  rw [normalised]
  intro h
  obtain ⟨bytes, h, hb⟩ := Option.map_eq_some_iff.mp h
  obtain ⟨loaded, hl⟩ := Option.isSome_iff_exists.mp
    (json.unmarshal_object _ bytes defaults.getDefaultConfig h)
  rw [loadConfig_lineFeed, loadConfig, hl] at hb
  exact merge_ne_default _ _ hb

/-! ### Loading after a save that may have stopped -/

/-- A truncated file is answered with the defaults. -/
theorem loadConfig_truncated {file : Option (List UInt8)} (h : Truncates json config point) :
  loadConfig json defaults (saveConfig json config point file) = defaults.getDefaultConfig
  := by
  rw [Truncates] at h
  unfold saveConfig
  cases ho : json.object (fixKeyboardLayout config) with
  | none =>
      rw [ho] at h
      cases point with
      | create => exact absurd rfl h
      | written n =>
          apply loadConfig_unparsed
          simp [json.unmarshal_nil]
      | sync => exact loadConfig_unparsed (json.unmarshal_nil _)
      | saved => exact loadConfig_unparsed (json.unmarshal_nil _)
  | some bytes =>
      rw [ho] at h
      obtain ⟨n, hn, rfl⟩ := h
      apply loadConfig_unparsed
      rw [Option.map_some, Option.getD_some, List.take_append_of_le_length hn.le]
      exact json.unmarshal_take _ bytes _ n ho hn

/-- When the file has not been truncated, what is loaded is the one or the other. -/
theorem loadConfig_not_truncated {file : Option (List UInt8)} (h : ¬ Truncates json config point)
  (hf : some (loadConfig json defaults file) = normalised json defaults before) :
  some (loadConfig json defaults (saveConfig json config point file)) =
      normalised json defaults before ∨
    some (loadConfig json defaults (saveConfig json config point file)) =
      normalised json defaults config
  := by
  rw [Truncates] at h
  unfold saveConfig
  rw [normalised.eq_1 json defaults config]
  cases ho : json.object (fixKeyboardLayout config) with
  | none =>
      rw [ho] at h
      have h := not_not.mp h
      subst h
      exact Or.inl hf
  | some bytes =>
      rw [ho] at h
      cases point with
      | create => exact Or.inl hf
      | written n =>
          right
          have hn : bytes.length ≤ n := not_lt.mp fun hn => h ⟨n, hn, rfl⟩
          simp only [Option.map_some, Option.getD_some, Option.some.injEq]
          -- Only the line feed may be missing.
          obtain hn | hn := hn.eq_or_lt
          · rw [← hn, List.take_left, loadConfig_lineFeed]
          · rw [List.take_of_length_le (by rw [List.length_append]; exact hn)]
      | sync => exact Or.inr rfl
      | saved => exact Or.inr rfl

/-- After a save that may have stopped anywhere, what is loaded is what was saved last or what was
being saved, and never the defaults, exactly when the save does not leave a truncated file. -/
theorem loads_saved_iff {file : Option (List UInt8)}
  (hb : (json.object (fixKeyboardLayout before)).isSome) :
  ((some (loadConfig json defaults (saveConfig json config point
          (saveConfig json before .saved file))) = normalised json defaults before ∨
      some (loadConfig json defaults (saveConfig json config point
          (saveConfig json before .saved file))) = normalised json defaults config) ∧
    loadConfig json defaults (saveConfig json config point
      (saveConfig json before .saved file)) ≠ defaults.getDefaultConfig) ↔
    ¬ Truncates json config point
  := by
  constructor
  · rintro ⟨-, h⟩ ht
    exact h (loadConfig_truncated ht)
  · intro ht
    have hf : some (loadConfig json defaults (saveConfig json before .saved file)) =
        normalised json defaults before := by
      obtain ⟨bytes, hb⟩ := Option.isSome_iff_exists.mp hb
      rw [saveConfig, normalised, hb]
      rfl
    have h := loadConfig_not_truncated ht hf
    use h
    intro hd
    rw [hd] at h
    obtain h | h := h
    · exact normalised_ne_default h.symm
    · exact normalised_ne_default h.symm

/-! ### A German layout -/

/-- An encoder that knows the configurations with one layout, of which it makes one text. -/
def Json.ofLayout (layout : String) (text : List UInt8) (parsed : Config P) (h₀ : text ≠ [])
  (h₁ : text.rdropWhile (· = 10) = text) : Json P
  where
  object config := if config.keyboardLayout = layout then some text else none
  unmarshal bytes _ := if bytes.rdropWhile (· = 10) = text then some parsed else none
  usbDevicesConfigHasAudio _ := true
  unmarshal_nil _ := if_neg h₀.symm
  unmarshal_object config bytes into h := by
    split at h
    · obtain rfl := Option.some.inj h
      rw [if_pos h₁, Option.isSome_some]
    · exact nomatch h
  unmarshal_lineFeed bytes into := by
    rw [List.rdropWhile_concat_pos (p := (· = (10 : UInt8))) _ _ (decide_eq_true rfl)]
  hasAudio_lineFeed _ := rfl
  unmarshal_take config bytes into n h hn := by
    split at h
    · obtain rfl := Option.some.inj h
      apply if_neg
      intro h
      have hl := (List.rdropWhile_prefix (· = (10 : UInt8)) (text.take n)).length_le
      rw [h, List.length_take] at hl
      omega
    · exact nomatch h

/-- Parts of which nothing is written. -/
def noParts : Parts where
  UsbConfig := Unit
  NetworkConfig := Unit
  JigglerConfig := Unit
  MqttConfig := Unit
  Other := Unit

/-- The defaults of these parts. -/
def noDefaults : Defaults noParts where
  usbConfig := ()
  usbDevices := ⟨true, true, true, true, true, true⟩
  networkConfig := ()
  jigglerConfig := ()
  mqttConfig := ()
  others := ()

/-- A configuration with nothing but a layout. -/
def german : Config noParts where
  usbConfig := none
  usbDevices := none
  audioEnabled := false
  networkConfig := none
  jigglerConfig := none
  mqttConfig := none
  keyboardLayout := "de-DE"
  defaultLogLevel := "WARN"
  edidString := ""
  others := ()

/-- Its text, between the braces. -/
def germanFields : String :=
  "\n  \"jiggler_config\": null,\n  \"keyboard_layout\": \"de-DE\",\n" ++
    "  \"hdmi_edid_string\": \"\",\n  \"usb_config\": null,\n  \"usb_devices\": null,\n" ++
    "  \"network_config\": null,\n  \"default_log_level\": \"WARN\",\n" ++
    "  \"mqtt_config\": null,\n  \"audio_enabled\": false\n"

/-- Its text. -/
def germanText : List UInt8 :=
  123 :: (germanFields.toList.map fun c => c.toNat.toUInt8) ++ [125]

theorem germanText_rdropWhile :
  germanText.rdropWhile (· = 10) = germanText
  := by
  apply List.rdropWhile_concat_neg
  decide

theorem germanText_ne_nil :
  germanText ≠ []
  := by
  rw [germanText]
  apply List.append_ne_nil_of_right_ne_nil
  apply List.cons_ne_nil

/-- The encoder of this configuration. -/
def germanJson : Json noParts :=
  .ofLayout "de-DE" germanText german (List.cons_ne_nil _ _) germanText_rdropWhile

/-- Saved to its end, the German layout is loaded again. -/
theorem loads_saved_iff_german :
  let file := saveConfig germanJson german .saved (saveConfig germanJson german .saved none)
  some (loadConfig germanJson noDefaults file) = normalised germanJson noDefaults german
  := by
  have hnot : ¬ Truncates germanJson german .saved := by
    rintro ⟨n, -, h⟩
    exact nomatch h
  have hencoded : (germanJson.object (fixKeyboardLayout german)).isSome := rfl
  have h := ((@loads_saved_iff noParts germanJson noDefaults german german .saved none
    hencoded).mpr hnot).1
  exact h.elim id id

/-- When the device loses power after `os.Create`, the layout is lost: the defaults are loaded. -/
theorem layout_lost :
  let file := saveConfig germanJson german (.written 0)
    (saveConfig germanJson german .saved none)
  loadConfig germanJson noDefaults file = noDefaults.getDefaultConfig ∧
    some (loadConfig germanJson noDefaults file) ≠ normalised germanJson noDefaults german
  := by
  have h : loadConfig germanJson noDefaults (saveConfig germanJson german (.written 0)
      (saveConfig germanJson german .saved none)) = noDefaults.getDefaultConfig := by
    apply loadConfig_truncated
    have hg : germanJson.object (fixKeyboardLayout german) = some germanText := rfl
    rw [Truncates, hg]
    exact ⟨0, List.length_pos_iff.mpr germanText_ne_nil, rfl⟩
  use h
  rw [h]
  exact normalised_ne_default.symm

end JetKvm.ConfigFile

import JetKvm.Library.Transition
import JetKvm.Library.Writes
import JetKvm.Macro.Stored

/-!
# Entities announced to Home Assistant

The manager announces its entities in retained messages, which the broker keeps until they are
overwritten or removed by an empty one. Which entities there are depends on the settings, the active
extension and the stored macros. Each announcement removes what an earlier one may have left behind,
for which the manager keeps the names of the macros that it has announced. A new manager does not
know the macros that were announced by the one before it.
-/

namespace JetKvm.Mqtt

open Macro (KeyboardMacro)

/-! ### Messages -/

/-- The component and the name of an entity, from which the topic is formed. -/
structure Entity where
  component : String
  objectID : String
deriving DecidableEq, Repr

/-- `haDiscoveryPayload`, without the fields that say how the entity is displayed. Topics are given
by their parts. -/
structure HaDiscoveryPayload where
  name : String
  stateTopic : List String := []
  commandTopic : List String := []
  options : List String := []
  payloadOn : String := ""
  payloadOff : String := ""
  payloadPress : String := ""
  payloadInstall : String := ""
deriving DecidableEq, Repr

/-- A retained message for an entity, which is empty when the entity is removed. -/
abbrev Message :=
  Entity × Option HaDiscoveryPayload

def publishDiscovery (component objectID : String) (payload : HaDiscoveryPayload) : Message :=
  ({ component, objectID }, some payload)

def removeDiscovery (component objectID : String) : Message :=
  ({ component, objectID }, none)

/-- What the announcements depend on. -/
structure Env where
  enableHADiscovery : Bool
  enableActions : Bool
  enableHAMacroButtons : Bool
  enableHAMediaButtons : Bool
  keyboardMacros : List KeyboardMacro
  activeExtension : String
  restoreState : ℤ
  /-- The images that are available, and the one that is mounted from a URL. -/
  vmOptions : List String

/-! ### Extensions -/

def publishATXDiscovery (actionsEnabled : Bool) : List Message :=
  [publishDiscovery "binary_sensor" "power_led"
      { name := "ATX Power LED", stateTopic := ["atx", "state"] },
    publishDiscovery "binary_sensor" "hdd_led"
      { name := "ATX HDD LED", stateTopic := ["atx", "state"] }] ++
  if actionsEnabled then
    [publishDiscovery "button" "atx_power_short"
        { name := "ATX Power (Short Press)", commandTopic := ["atx_power_short", "set"]
          payloadPress := "PRESS" },
      publishDiscovery "button" "atx_power_long"
        { name := "ATX Power (Long Press)", commandTopic := ["atx_power_long", "set"]
          payloadPress := "PRESS" },
      publishDiscovery "button" "atx_reset"
        { name := "ATX Reset", commandTopic := ["atx_reset", "set"], payloadPress := "PRESS" }]
  else
    [removeDiscovery "button" "atx_power_short", removeDiscovery "button" "atx_power_long",
      removeDiscovery "button" "atx_reset"]

def removeATXDiscovery : List Message :=
  [removeDiscovery "binary_sensor" "power_led", removeDiscovery "binary_sensor" "hdd_led",
    removeDiscovery "button" "atx_power_short", removeDiscovery "button" "atx_power_long",
    removeDiscovery "button" "atx_reset"]

def publishDCDiscovery (actionsEnabled : Bool) (restoreState : ℤ) : List Message :=
  [publishDiscovery "sensor" "voltage" { name := "DC Voltage", stateTopic := ["dc", "state"] },
    publishDiscovery "sensor" "current" { name := "DC Current", stateTopic := ["dc", "state"] },
    publishDiscovery "sensor" "power" { name := "DC Power", stateTopic := ["dc", "state"] }] ++
  (if actionsEnabled then
    [removeDiscovery "binary_sensor" "dc_power",
      publishDiscovery "switch" "dc_power"
        { name := "DC Power", stateTopic := ["dc", "state"], commandTopic := ["dc_power", "set"]
          payloadOn := "ON", payloadOff := "OFF" }]
  else
    [removeDiscovery "switch" "dc_power",
      publishDiscovery "binary_sensor" "dc_power"
        { name := "DC Power", stateTopic := ["dc", "state"] }]) ++
  if restoreState ≥ 0 then
    if actionsEnabled then
      [removeDiscovery "sensor" "dc_restore",
        publishDiscovery "select" "dc_restore"
          { name := "Restore on Power Loss", stateTopic := ["dc", "state"]
            commandTopic := ["dc_restore", "set"], options := ["off", "on", "last_state"] }]
    else
      [removeDiscovery "select" "dc_restore",
        publishDiscovery "sensor" "dc_restore"
          { name := "Restore on Power Loss", stateTopic := ["dc", "state"] }]
  else [removeDiscovery "select" "dc_restore", removeDiscovery "sensor" "dc_restore"]

def removeDCDiscovery : List Message :=
  [removeDiscovery "sensor" "voltage", removeDiscovery "sensor" "current",
    removeDiscovery "sensor" "power", removeDiscovery "switch" "dc_power",
    removeDiscovery "binary_sensor" "dc_power", removeDiscovery "select" "dc_restore",
    removeDiscovery "sensor" "dc_restore"]

/-! ### Macros -/

def MaxMacrosPerDevice : ℕ := 25

def sanitizeMacroObjectID (id : String) : String :=
  id.map fun r =>
    if ('a' ≤ r ∧ r ≤ 'z') ∨ ('A' ≤ r ∧ r ≤ 'Z') ∨ ('0' ≤ r ∧ r ≤ '9') ∨ r = '_' then r else '_'

def macroObjectID (macroID : String) : String :=
  "macro_" ++ sanitizeMacroObjectID macroID

/-- The button of a macro. -/
def publishMacroButton (keyboardMacro : KeyboardMacro) : Message :=
  publishDiscovery "button" (macroObjectID keyboardMacro.id)
    { name := if keyboardMacro.name = "" then keyboardMacro.id else keyboardMacro.name
      commandTopic := ["macro", keyboardMacro.id, "set"]
      payloadPress := "PRESS" }

/-- The buttons of the macros whose names are given are removed. -/
def removeMacroDiscovery (lastMacroDiscoveryIDs : List String) : List Message :=
  lastMacroDiscoveryIDs.map (removeDiscovery "button")

/-- The names of the macros that are announced. -/
def macroObjectIDs (keyboardMacros : List KeyboardMacro) : List String :=
  (keyboardMacros.take MaxMacrosPerDevice).map fun keyboardMacro => macroObjectID keyboardMacro.id

/-- The messages for the macros, and the names that are kept. -/
def publishMacroDiscovery (actionsEnabled : Bool) (keyboardMacros : List KeyboardMacro)
    (lastMacroDiscoveryIDs : List String) : List Message × List String :=
  if actionsEnabled then
    ((keyboardMacros.take MaxMacrosPerDevice).map publishMacroButton ++
        removeMacroDiscovery
          (lastMacroDiscoveryIDs.filter fun oldID => oldID ∉ macroObjectIDs keyboardMacros),
      macroObjectIDs keyboardMacros)
  else (removeMacroDiscovery lastMacroDiscoveryIDs, [])

/-! ### Media keys -/

/-- The names of the buttons, what they show, and what they send. -/
def mqttMediaButtons : List (String × String × String) :=
  [("media_play_pause", "Media Play/Pause", "PLAY_PAUSE"), ("media_next", "Media Next", "NEXT"),
    ("media_previous", "Media Previous", "PREVIOUS"),
    ("media_volume_up", "Media Volume Up", "VOLUME_UP"),
    ("media_volume_down", "Media Volume Down", "VOLUME_DOWN"),
    ("media_mute", "Media Mute", "VOLUME_MUTE"), ("media_stop", "Media Stop", "STOP")]

def removeMediaDiscovery : List Message :=
  mqttMediaButtons.map fun button => removeDiscovery "button" button.1

def publishMediaDiscovery (actionsEnabled : Bool) : List Message :=
  if actionsEnabled then
    mqttMediaButtons.map fun button =>
      publishDiscovery "button" button.1
        { name := button.2.1, commandTopic := ["media", "set"], payloadPress := button.2.2 }
  else removeMediaDiscovery

/-! ### All entities -/

/-- The entities that are always announced, in one way. -/
def publishGeneral : List Message :=
  [publishDiscovery "binary_sensor" "online" { name := "Online", stateTopic := ["status"] },
    publishDiscovery "binary_sensor" "video_signal"
      { name := "Video Signal", stateTopic := ["video", "state"] },
    publishDiscovery "sensor" "video_resolution"
      { name := "Video Resolution", stateTopic := ["video", "state"] },
    publishDiscovery "sensor" "video_fps" { name := "Video FPS", stateTopic := ["video", "state"] },
    publishDiscovery "binary_sensor" "cloud_connected"
      { name := "Cloud Connected", stateTopic := ["cloud", "state"] },
    publishDiscovery "sensor" "active_sessions"
      { name := "Active Sessions", stateTopic := ["sessions", "state"] },
    publishDiscovery "binary_sensor" "usb_state"
      { name := "USB Connected", stateTopic := ["usb", "state"] },
    publishDiscovery "sensor" "ip_address"
      { name := "IP Address", stateTopic := ["network", "state"] },
    publishDiscovery "sensor" "hostname" { name := "Hostname", stateTopic := ["network", "state"] },
    publishDiscovery "sensor" "cpu_load" { name := "CPU Load", stateTopic := ["system", "state"] },
    publishDiscovery "sensor" "temperature"
      { name := "Temperature", stateTopic := ["system", "state"] },
    publishDiscovery "sensor" "memory_used"
      { name := "Memory Used", stateTopic := ["system", "state"] },
    publishDiscovery "sensor" "storage_used"
      { name := "Storage Used", stateTopic := ["system", "state"] },
    publishDiscovery "sensor" "storage_free"
      { name := "Storage Free", stateTopic := ["system", "state"] }]

/-- The selection of an image. -/
def publishVirtualMediaSelect (vmOptions : List String) : Message :=
  publishDiscovery "select" "virtual_media"
    { name := "Virtual Media", stateTopic := ["virtual_media", "state"]
      commandTopic := ["virtual_media", "set"], options := vmOptions }

/-- The image that is mounted, which can be selected if actions are enabled. -/
def publishVirtualMedia (actionsEnabled : Bool) (vmOptions : List String) : List Message :=
  if actionsEnabled then
    [removeDiscovery "sensor" "virtual_media", publishVirtualMediaSelect vmOptions]
  else
    [removeDiscovery "select" "virtual_media",
      publishDiscovery "sensor" "virtual_media"
        { name := "Virtual Media", stateTopic := ["virtual_media", "state"] }]

/-- The jiggler, which can be switched if actions are enabled. -/
def publishJiggler (actionsEnabled : Bool) : List Message :=
  if actionsEnabled then
    [removeDiscovery "binary_sensor" "jiggler",
      publishDiscovery "switch" "jiggler"
        { name := "Mouse Jiggler", stateTopic := ["jiggler", "state"]
          commandTopic := ["jiggler", "set"], payloadOn := "ON", payloadOff := "OFF" }]
  else
    [removeDiscovery "switch" "jiggler",
      publishDiscovery "binary_sensor" "jiggler"
        { name := "Mouse Jiggler", stateTopic := ["jiggler", "state"] }]

def publishReboot (actionsEnabled : Bool) : List Message :=
  if actionsEnabled then
    [publishDiscovery "button" "reboot"
        { name := "Reboot", commandTopic := ["reboot", "set"], payloadPress := "PRESS" }]
  else [removeDiscovery "button" "reboot"]

def publishFirmware (actionsEnabled : Bool) : List Message :=
  [publishDiscovery "update" "firmware"
    { name := "Firmware", stateTopic := ["update", "state"]
      commandTopic := if actionsEnabled then ["update", "install"] else []
      payloadInstall := if actionsEnabled then "INSTALL" else "" }]

/-- The entities of the active extension, those of the others being removed. -/
def publishExtension (env : Env) : List Message :=
  if env.activeExtension = "atx-power" then
    publishATXDiscovery env.enableActions ++ removeDCDiscovery
  else if env.activeExtension = "dc-power" then
    publishDCDiscovery env.enableActions env.restoreState ++ removeATXDiscovery
  else removeATXDiscovery ++ removeDCDiscovery

/-- The messages for the macros that an announcement contains. -/
def publishMacros (env : Env) (lastMacroDiscoveryIDs : List String) : List Message × List String :=
  publishMacroDiscovery (env.enableActions && env.enableHAMacroButtons) env.keyboardMacros
    lastMacroDiscoveryIDs

/-- The messages of an announcement, and the names of macros that are kept. -/
def publishHADiscovery (env : Env) (lastMacroDiscoveryIDs : List String) :
    List Message × List String :=
  (publishGeneral ++ publishVirtualMedia env.enableActions env.vmOptions ++
      publishJiggler env.enableActions ++ publishReboot env.enableActions ++
      (publishMacros env lastMacroDiscoveryIDs).1 ++
      publishMediaDiscovery (env.enableActions && env.enableHAMediaButtons) ++
      publishFirmware env.enableActions ++ publishExtension env,
    (publishMacros env lastMacroDiscoveryIDs).2)

/-- The messages that remove all entities. -/
def removeAllDiscovery (lastMacroDiscoveryIDs : List String) : List Message :=
  [removeDiscovery "binary_sensor" "online", removeDiscovery "binary_sensor" "video_signal",
    removeDiscovery "sensor" "video_resolution", removeDiscovery "sensor" "video_fps",
    removeDiscovery "binary_sensor" "cloud_connected", removeDiscovery "sensor" "active_sessions",
    removeDiscovery "binary_sensor" "usb_state", removeDiscovery "sensor" "ip_address",
    removeDiscovery "sensor" "hostname", removeDiscovery "sensor" "cpu_load",
    removeDiscovery "sensor" "temperature", removeDiscovery "sensor" "memory_used",
    removeDiscovery "sensor" "storage_used", removeDiscovery "sensor" "storage_free",
    removeDiscovery "select" "virtual_media", removeDiscovery "sensor" "virtual_media",
    removeDiscovery "switch" "jiggler", removeDiscovery "binary_sensor" "jiggler",
    removeDiscovery "button" "reboot"] ++
  removeMacroDiscovery lastMacroDiscoveryIDs ++ removeMediaDiscovery ++
  [removeDiscovery "update" "firmware"] ++ removeATXDiscovery ++ removeDCDiscovery ++
  [removeDiscovery "binary_sensor" "dc_power"]

/-! ### The broker -/

/-- The messages that the broker has retained, and what the manager keeps. -/
structure Announcer where
  retained : Entity → Option HaDiscoveryPayload
  lastMacroDiscoveryIDs : List String
  lastVMOptions : List String

/-- What the manager does. `republishHADiscovery` stands for the announcement when it is connected,
too. -/
inductive AnnouncerAction where
  | republishHADiscovery (env : Env)
  | onMacrosChanged (env : Env)
  | publishVirtualMediaState (env : Env)
  | removeAllDiscovery
  /-- The manager is replaced by a new one. -/
  | newManager

/-- What is done to the retained messages, one action after the other, each message reaching the
broker. -/
def announcerStep (s : Announcer) : AnnouncerAction → Announcer
  | .republishHADiscovery env =>
      if env.enableHADiscovery then
        { s with
          retained := Writes.writeAll s.retained (publishHADiscovery env s.lastMacroDiscoveryIDs).1
          lastMacroDiscoveryIDs := (publishHADiscovery env s.lastMacroDiscoveryIDs).2 }
      else s
  | .onMacrosChanged env =>
      if env.enableHADiscovery then
        { s with
          retained := Writes.writeAll s.retained (publishMacros env s.lastMacroDiscoveryIDs).1
          lastMacroDiscoveryIDs := (publishMacros env s.lastMacroDiscoveryIDs).2 }
      else s
  | .publishVirtualMediaState env =>
      if env.enableHADiscovery ∧ env.enableActions ∧ env.vmOptions ≠ s.lastVMOptions then
        { s with
          retained := Writes.writeAll s.retained [publishVirtualMediaSelect env.vmOptions]
          lastVMOptions := env.vmOptions }
      else s
  | .removeAllDiscovery =>
      { s with
        retained := Writes.writeAll s.retained (removeAllDiscovery s.lastMacroDiscoveryIDs)
        lastMacroDiscoveryIDs := [] }
  | .newManager => { s with lastMacroDiscoveryIDs := [], lastVMOptions := [] }

def announcerLts : Lts Announcer AnnouncerAction where
  step s a t := announcerStep s a = t

/-- Nothing has been announced. -/
def Announcer.new : Announcer where
  retained _ := none
  lastMacroDiscoveryIDs := []
  lastVMOptions := []

/-- What a single announcement leaves on a broker that has retained nothing. -/
def announced (env : Env) : Entity → Option HaDiscoveryPayload :=
  Writes.writeAll (fun _ => none) (publishHADiscovery env []).1

/-- The button of a macro. -/
def macroButton (objectID : String) : Entity where
  component := "button"
  objectID := objectID

/-- The buttons of macros whose names were forgotten by a manager that was replaced. -/
def Forgotten (tr : List (Lts.Transition Announcer AnnouncerAction)) (e : Entity) : Prop :=
  ∃ step ∈ tr, step.action = .newManager ∧
    ∃ id ∈ step.before.lastMacroDiscoveryIDs, e = macroButton id

/-! ### The entities of an announcement -/

/-- The entities that there are without macros. -/
def fixedEntities : List Entity :=
  (removeAllDiscovery []).map Prod.fst

/-- The messages are about these entities. -/
def About (messages : List Message) (entities : List Entity) : Prop :=
  ∀ e, e ∈ messages.map Prod.fst ↔ e ∈ entities

theorem about_of_forall {messages : List Message} {entities : List Entity}
    (h : (∀ e ∈ messages.map Prod.fst, e ∈ entities) ∧ ∀ e ∈ entities, e ∈ messages.map Prod.fst) :
  About messages entities
  := fun e => ⟨h.1 e, h.2 e⟩

variable {env : Env} {lastMacroDiscoveryIDs : List String} {e : Entity}

theorem about_publishVirtualMedia (actionsEnabled : Bool) (vmOptions : List String) :
  About (publishVirtualMedia actionsEnabled vmOptions)
    [⟨"select", "virtual_media"⟩, ⟨"sensor", "virtual_media"⟩]
  := by
  apply about_of_forall
  cases actionsEnabled
  · simp [publishVirtualMedia, publishDiscovery, removeDiscovery]
  · simp [publishVirtualMedia, publishVirtualMediaSelect, publishDiscovery, removeDiscovery]

theorem about_publishJiggler (actionsEnabled : Bool) :
  About (publishJiggler actionsEnabled) [⟨"switch", "jiggler"⟩, ⟨"binary_sensor", "jiggler"⟩]
  := by
  apply about_of_forall
  revert actionsEnabled
  decide

theorem about_publishReboot (actionsEnabled : Bool) :
  About (publishReboot actionsEnabled) [⟨"button", "reboot"⟩]
  := by
  apply about_of_forall
  revert actionsEnabled
  decide

theorem about_publishMediaDiscovery (actionsEnabled : Bool) :
  About (publishMediaDiscovery actionsEnabled) (removeMediaDiscovery.map Prod.fst)
  := by
  apply about_of_forall
  revert actionsEnabled
  decide

theorem about_publishFirmware (actionsEnabled : Bool) :
  About (publishFirmware actionsEnabled) [⟨"update", "firmware"⟩]
  := by
  apply about_of_forall
  revert actionsEnabled
  decide

theorem about_publishATXDiscovery (actionsEnabled : Bool) :
  About (publishATXDiscovery actionsEnabled) (removeATXDiscovery.map Prod.fst)
  := by
  apply about_of_forall
  revert actionsEnabled
  decide

theorem about_publishDCDiscovery (actionsEnabled : Bool) (restoreState : ℤ) :
  About (publishDCDiscovery actionsEnabled restoreState) (removeDCDiscovery.map Prod.fst)
  := by
  apply about_of_forall
  rw [publishDCDiscovery]
  by_cases h : restoreState ≥ 0
  · rw [if_pos h]
    revert actionsEnabled
    decide
  · rw [if_neg h]
    revert actionsEnabled
    decide

theorem about_publishExtension (env : Env) :
  About (publishExtension env)
    (removeATXDiscovery.map Prod.fst ++ removeDCDiscovery.map Prod.fst)
  := by
  intro e
  rw [publishExtension]
  split
  · rw [List.map_append, List.mem_append, List.mem_append, about_publishATXDiscovery]
  · split
    · rw [List.map_append, List.mem_append, List.mem_append, about_publishDCDiscovery, or_comm]
    · rw [List.map_append]

/-- The entities that there are without macros, in the groups in which they are announced. -/
theorem about_removeAllDiscovery :
  About (removeAllDiscovery []) (publishGeneral.map Prod.fst ++
    [⟨"select", "virtual_media"⟩, ⟨"sensor", "virtual_media"⟩] ++
    [⟨"switch", "jiggler"⟩, ⟨"binary_sensor", "jiggler"⟩] ++ [⟨"button", "reboot"⟩] ++
    removeMediaDiscovery.map Prod.fst ++ [⟨"update", "firmware"⟩] ++
    (removeATXDiscovery.map Prod.fst ++ removeDCDiscovery.map Prod.fst))
  := by
  apply about_of_forall
  decide +kernel

/-- The messages of an announcement before those for the macros, and after them. -/
def publishedBefore (env : Env) : List Message :=
  publishGeneral ++ publishVirtualMedia env.enableActions env.vmOptions ++
    publishJiggler env.enableActions ++ publishReboot env.enableActions

def publishedAfter (env : Env) : List Message :=
  publishMediaDiscovery (env.enableActions && env.enableHAMediaButtons) ++
    publishFirmware env.enableActions ++ publishExtension env

theorem publishHADiscovery_eq :
  (publishHADiscovery env lastMacroDiscoveryIDs).1 =
    publishedBefore env ++ (publishMacros env lastMacroDiscoveryIDs).1 ++ publishedAfter env
  := by
  simp only [publishHADiscovery, publishedBefore, publishedAfter, List.append_assoc]

/-- An announcement is about all entities that there are without macros, whatever it depends on. -/
theorem mem_published :
  e ∈ (publishedBefore env).map Prod.fst ∨ e ∈ (publishedAfter env).map Prod.fst ↔
    e ∈ fixedEntities
  := by
  have hfixed := about_removeAllDiscovery e
  rw [← fixedEntities] at hfixed
  rw [hfixed, publishedBefore, publishedAfter]
  simp only [List.map_append, List.mem_append, about_publishVirtualMedia env.enableActions _ e,
    about_publishJiggler env.enableActions e, about_publishReboot env.enableActions e,
    about_publishMediaDiscovery _ e, about_publishFirmware env.enableActions e,
    about_publishExtension env e]
  tauto

theorem mem_removeMacroDiscovery :
  e ∈ (removeMacroDiscovery lastMacroDiscoveryIDs).map Prod.fst ↔
    ∃ id ∈ lastMacroDiscoveryIDs, e = macroButton id
  := by
  rw [removeMacroDiscovery, List.map_map, List.mem_map]
  apply exists_congr
  intro id
  exact and_congr_right fun _ => eq_comm

theorem mem_removeAllDiscovery :
  e ∈ (removeAllDiscovery lastMacroDiscoveryIDs).map Prod.fst ↔
    e ∈ fixedEntities ∨ ∃ id ∈ lastMacroDiscoveryIDs, e = macroButton id
  := by
  have hnone : e ∉ (removeMacroDiscovery []).map Prod.fst := List.not_mem_nil
  rw [← mem_removeMacroDiscovery, fixedEntities, removeAllDiscovery, removeAllDiscovery]
  simp only [List.map_append, List.mem_append]
  tauto

/-- Every message of `removeAllDiscovery` removes. -/
theorem removeAllDiscovery_none :
  ∀ message ∈ removeAllDiscovery lastMacroDiscoveryIDs, message.2 = none
  := by
  have hfixed : ∀ message ∈ removeAllDiscovery [], message.2 = none := by decide +kernel
  intro message hmem
  by_cases hbutton : message ∈ removeMacroDiscovery lastMacroDiscoveryIDs
  · obtain ⟨id, -, rfl⟩ := List.mem_map.mp hbutton
    rfl
  · apply hfixed
    rw [removeAllDiscovery] at hmem ⊢
    simp only [List.mem_append] at hmem ⊢
    tauto

/-! ### Macros -/

theorem macroObjectID_take (macroID : String) :
  (macroObjectID macroID).toList.take 6 = "macro_".toList
  := by
  rw [macroObjectID, String.toList_append]
  exact List.take_left' (by decide)

/-- The button of a macro is none of the other entities. -/
theorem macroButton_notMem (macroID : String) :
  macroButton (macroObjectID macroID) ∉ fixedEntities
  := by
  have hfixed : ∀ e ∈ fixedEntities, e.objectID.toList.take 6 ≠ "macro_".toList := by
    decide +kernel
  intro hmem
  exact hfixed _ hmem (macroObjectID_take macroID)

theorem mem_publishMacroButtons {keyboardMacros : List KeyboardMacro} :
  e ∈ ((keyboardMacros.take MaxMacrosPerDevice).map publishMacroButton).map Prod.fst ↔
    ∃ id ∈ macroObjectIDs keyboardMacros, e = macroButton id
  := by
  rw [List.map_map, List.mem_map, macroObjectIDs]
  constructor
  · rintro ⟨keyboardMacro, hmem, rfl⟩
    exact ⟨_, List.mem_map_of_mem hmem, rfl⟩
  · rintro ⟨id, hid, rfl⟩
    obtain ⟨keyboardMacro, hmem, rfl⟩ := List.mem_map.mp hid
    exact ⟨keyboardMacro, hmem, rfl⟩

/-- The macros that have a button. -/
def announcedMacros (env : Env) : List KeyboardMacro :=
  if env.enableActions && env.enableHAMacroButtons then env.keyboardMacros else []

/-- The buttons of the macros are set, and those are removed that are not set again. -/
theorem publishMacros_eq :
  publishMacros env lastMacroDiscoveryIDs =
    (((announcedMacros env).take MaxMacrosPerDevice).map publishMacroButton ++
        removeMacroDiscovery
          (lastMacroDiscoveryIDs.filter fun oldID => oldID ∉ macroObjectIDs (announcedMacros env)),
      macroObjectIDs (announcedMacros env))
  := by
  rw [publishMacros, publishMacroDiscovery, announcedMacros]
  split
  · rfl
  · simp [macroObjectIDs]

/-- The messages for the macros are about those that were announced and those that are. -/
theorem mem_publishMacros :
  e ∈ (publishMacros env lastMacroDiscoveryIDs).1.map Prod.fst ↔
    (∃ id ∈ lastMacroDiscoveryIDs, e = macroButton id) ∨
    ∃ id ∈ macroObjectIDs (announcedMacros env), e = macroButton id
  := by
  rw [publishMacros_eq, List.map_append, List.mem_append, mem_publishMacroButtons,
    mem_removeMacroDiscovery]
  constructor
  · rintro (hnew | ⟨id, hid, he⟩)
    · exact Or.inr hnew
    · exact Or.inl ⟨id, (List.mem_filter.mp hid).1, he⟩
  · rintro (⟨id, hid, he⟩ | hnew)
    · by_cases hnew : id ∈ macroObjectIDs (announcedMacros env)
      · exact Or.inl ⟨id, hnew, he⟩
      · exact Or.inr ⟨id, List.mem_filter.mpr ⟨hid, decide_eq_true hnew⟩, he⟩
    · exact Or.inl hnew

/-- What is set by the messages for the macros is the button of a macro. -/
theorem publishMacros_some {payload : HaDiscoveryPayload}
    (h : (e, some payload) ∈ (publishMacros env lastMacroDiscoveryIDs).1) :
  ∃ id ∈ macroObjectIDs (announcedMacros env), e = macroButton id
  := by
  rw [publishMacros_eq] at h
  rcases List.mem_append.mp h with h | h
  · exact mem_publishMacroButtons.mp (List.mem_map_of_mem h)
  · obtain ⟨id, -, hid⟩ := List.mem_map.mp h
    cases hid

/-- What is set by an announcement is the button of a macro, or one of the other entities. -/
theorem publishHADiscovery_some {payload : HaDiscoveryPayload}
    (h : (e, some payload) ∈ (publishHADiscovery env lastMacroDiscoveryIDs).1) :
  e ∈ fixedEntities ∨ ∃ id ∈ macroObjectIDs (announcedMacros env), e = macroButton id
  := by
  rw [publishHADiscovery_eq, List.mem_append, List.mem_append] at h
  rcases h with (h | h) | h
  · exact Or.inl (mem_published.mp (Or.inl (List.mem_map_of_mem h)))
  · exact Or.inr (publishMacros_some h)
  · exact Or.inl (mem_published.mp (Or.inr (List.mem_map_of_mem h)))

/-- The entities that an announcement is about. -/
theorem mem_publishHADiscovery :
  e ∈ (publishHADiscovery env lastMacroDiscoveryIDs).1.map Prod.fst ↔
    e ∈ fixedEntities ∨ (∃ id ∈ lastMacroDiscoveryIDs, e = macroButton id) ∨
    ∃ id ∈ macroObjectIDs (announcedMacros env), e = macroButton id
  := by
  rw [← mem_publishMacros, ← mem_published, publishHADiscovery_eq, List.map_append,
    List.map_append, List.mem_append, List.mem_append]
  tauto

/-- The removals among the messages for the macros have no effect where there is nothing. -/
theorem writeAll_publishMacros {store : Entity → Option HaDiscoveryPayload}
    (h : store e = none ∨ ∃ id ∈ lastMacroDiscoveryIDs, e = macroButton id) :
  Writes.writeAll store (publishMacros env lastMacroDiscoveryIDs).1 e =
    Writes.writeAll (fun _ => none)
      (((announcedMacros env).take MaxMacrosPerDevice).map publishMacroButton) e
  := by
  have hcongr : Writes.writeAll store (publishMacros env lastMacroDiscoveryIDs).1 e =
      Writes.writeAll (fun _ => none) (publishMacros env lastMacroDiscoveryIDs).1 e := by
    apply Writes.writeAll_congr
    rcases h with h | h
    · exact Or.inl h
    · exact Or.inr (mem_publishMacros.mpr (Or.inl h))
  rw [hcongr, publishMacros_eq, Writes.writeAll_append]
  apply congrFun
  apply Writes.writeAll_of_absent
  · intro write hwrite
    obtain ⟨id, -, rfl⟩ := List.mem_map.mp hwrite
    rfl
  · intro write hwrite
    obtain ⟨id, hid, rfl⟩ := List.mem_map.mp hwrite
    -- a name is removed only if it is not set again
    apply Writes.writeAll_of_notMem
    rw [mem_publishMacroButtons]
    rintro ⟨newID, hnewID, heq⟩
    obtain rfl : id = newID := congrArg Entity.objectID heq
    exact of_decide_eq_true (List.mem_filter.mp hid).2 hnewID

/-- All names are names of macros. -/
def AreNames (ids : List String) : Prop :=
  ∀ id ∈ ids, ∃ macroID, id = macroObjectID macroID

theorem areNames_macroObjectIDs (keyboardMacros : List KeyboardMacro) :
  AreNames (macroObjectIDs keyboardMacros)
  := by
  intro id hid
  obtain ⟨keyboardMacro, -, rfl⟩ := List.mem_map.mp hid
  exact ⟨keyboardMacro.id, rfl⟩

/-- The messages for the macros leave the other entities alone. -/
theorem publishMacros_notMem (hnames : AreNames lastMacroDiscoveryIDs) (he : e ∈ fixedEntities) :
  e ∉ (publishMacros env lastMacroDiscoveryIDs).1.map Prod.fst
  := by
  rw [mem_publishMacros]
  rintro (⟨id, hid, rfl⟩ | ⟨id, hid, rfl⟩)
  · obtain ⟨macroID, rfl⟩ := hnames id hid
    exact macroButton_notMem macroID he
  · obtain ⟨macroID, rfl⟩ := areNames_macroObjectIDs _ id hid
    exact macroButton_notMem macroID he

/-- What an announcement leaves of the other entities does not depend on what was there. -/
theorem writeAll_publishHADiscovery_fixed {store : Entity → Option HaDiscoveryPayload}
    (hnames : AreNames lastMacroDiscoveryIDs) (he : e ∈ fixedEntities) :
  Writes.writeAll store (publishHADiscovery env lastMacroDiscoveryIDs).1 e =
    Writes.writeAll (fun _ => none) (publishedBefore env ++ publishedAfter env) e
  := by
  have hmacros : Writes.writeAll (Writes.writeAll store (publishedBefore env))
      (publishMacros env lastMacroDiscoveryIDs).1 e =
        Writes.writeAll store (publishedBefore env) e :=
    Writes.writeAll_of_notMem (publishMacros_notMem hnames he)
  have hwritten : e ∈ (publishedBefore env ++ publishedAfter env).map Prod.fst := by
    rw [List.map_append, List.mem_append, mem_published]
    exact he
  rw [publishHADiscovery_eq, Writes.writeAll_append, Writes.writeAll_append,
    Writes.writeAll_congr (Or.inl hmacros), ← Writes.writeAll_append,
    Writes.writeAll_congr (Or.inr hwritten)]

/-- What an announcement leaves of a macro does not depend on what was there, if its name is known. -/
theorem writeAll_publishHADiscovery_of_notMem {store : Entity → Option HaDiscoveryPayload}
    (he : e ∉ fixedEntities)
    (h : store e = none ∨ ∃ id ∈ lastMacroDiscoveryIDs, e = macroButton id) :
  Writes.writeAll store (publishHADiscovery env lastMacroDiscoveryIDs).1 e =
    Writes.writeAll (fun _ => none)
      (((announcedMacros env).take MaxMacrosPerDevice).map publishMacroButton) e
  := by
  have hnot := mt (mem_published.mp : e ∈ (publishedBefore env).map Prod.fst ∨ _ → _) he
  obtain ⟨hbefore, hafter⟩ := not_or.mp hnot
  rw [publishHADiscovery_eq, Writes.writeAll_append, Writes.writeAll_append,
    Writes.writeAll_of_notMem hafter]
  apply writeAll_publishMacros
  rw [Writes.writeAll_of_notMem hbefore]
  exact h

theorem announced_fixed (he : e ∈ fixedEntities) :
  announced env e =
    Writes.writeAll (fun _ => none) (publishedBefore env ++ publishedAfter env) e
  := writeAll_publishHADiscovery_fixed (by simp [AreNames]) he

theorem announced_of_notMem (he : e ∉ fixedEntities) :
  announced env e =
    Writes.writeAll (fun _ => none)
      (((announcedMacros env).take MaxMacrosPerDevice).map publishMacroButton) e
  := writeAll_publishHADiscovery_of_notMem he (Or.inl rfl)

/-! ### Runs -/

variable {tr tr' : List (Lts.Transition Announcer AnnouncerAction)} {s t : Announcer}

/-- Whatever is retained is known to the manager, apart from what was forgotten. -/
structure Known (tr : List (Lts.Transition Announcer AnnouncerAction)) (s : Announcer) : Prop where
  names : AreNames s.lastMacroDiscoveryIDs
  retained : ∀ e, s.retained e ≠ none →
    e ∈ fixedEntities ∨ (∃ id ∈ s.lastMacroDiscoveryIDs, e = macroButton id) ∨ Forgotten tr e

theorem Forgotten.append (h : Forgotten tr e)
    (tr' : List (Lts.Transition Announcer AnnouncerAction)) :
  Forgotten (tr ++ tr') e
  := by
  obtain ⟨step, hstep, h⟩ := h
  exact ⟨step, List.mem_append_left _ hstep, h⟩

/-- Messages that set known entities only, and remove those that are known no longer. -/
theorem Known.write (known : Known tr s) {messages : List Message} {ids vmOptions : List String}
    (hnames : AreNames ids)
    (hset : ∀ e payload, (e, some payload) ∈ messages →
      e ∈ fixedEntities ∨ ∃ id ∈ ids, e = macroButton id)
    (hold : ∀ id ∈ s.lastMacroDiscoveryIDs, macroButton id ∈ messages.map Prod.fst ∨ id ∈ ids) :
  Known tr ⟨Writes.writeAll s.retained messages, ids, vmOptions⟩
  := by
  refine ⟨hnames, ?_⟩
  intro e he
  obtain ⟨payload, hpayload⟩ := Option.ne_none_iff_exists'.mp he
  rcases Writes.writeAll_eq_some hpayload with ⟨hretained, hnot⟩ | hmem
  · rcases known.retained e (by simp [hretained]) with hfixed | ⟨id, hid, rfl⟩ | hforgotten
    · exact Or.inl hfixed
    · rcases hold id hid with hwritten | hkept
      · exact absurd hwritten hnot
      · exact Or.inr (Or.inl ⟨id, hkept, rfl⟩)
    · exact Or.inr (Or.inr hforgotten)
  · rcases hset e payload hmem with hfixed | hbutton
    · exact Or.inl hfixed
    · exact Or.inr (Or.inl hbutton)

theorem Known.republishHADiscovery (known : Known tr s) :
  Known tr (announcerStep s (.republishHADiscovery env))
  := by
  rw [announcerStep]
  split
  · apply known.write
    · rw [publishHADiscovery, publishMacros_eq]
      exact areNames_macroObjectIDs _
    · intro e payload hmem
      rw [publishHADiscovery, publishMacros_eq]
      exact publishHADiscovery_some hmem
    · intro id hid
      exact Or.inl (mem_publishHADiscovery.mpr (Or.inr (Or.inl ⟨id, hid, rfl⟩)))
  · exact known

theorem Known.onMacrosChanged (known : Known tr s) :
  Known tr (announcerStep s (.onMacrosChanged env))
  := by
  rw [announcerStep]
  split
  · apply known.write
    · rw [publishMacros_eq]
      exact areNames_macroObjectIDs _
    · intro e payload hmem
      right
      have hbutton := publishMacros_some hmem
      rw [publishMacros_eq]
      exact hbutton
    · intro id hid
      exact Or.inl (mem_publishMacros.mpr (Or.inl ⟨id, hid, rfl⟩))
  · exact known

theorem Known.publishVirtualMediaState (known : Known tr s) :
  Known tr (announcerStep s (.publishVirtualMediaState env))
  := by
  have hfixed : (⟨"select", "virtual_media"⟩ : Entity) ∈ fixedEntities := by decide
  rw [announcerStep]
  split
  · apply known.write known.names
    · intro e payload hmem
      obtain rfl := congrArg Prod.fst (List.mem_singleton.mp hmem)
      exact Or.inl hfixed
    · intro id hid
      exact Or.inr hid
  · exact known

theorem Known.removeAllDiscovery (known : Known tr s) :
  Known tr (announcerStep s .removeAllDiscovery)
  := by
  apply known.write
  · simp [AreNames]
  · intro e payload hmem
    cases removeAllDiscovery_none _ hmem
  · intro id hid
    exact Or.inl (mem_removeAllDiscovery.mpr (Or.inr ⟨id, hid, rfl⟩))

/-- The names that a new manager does not know are forgotten. -/
theorem Known.newManager (known : Known tr s) :
  Known (tr ++ [⟨s, .newManager, announcerStep s .newManager⟩]) (announcerStep s .newManager)
  := by
  refine ⟨by simp [announcerStep, AreNames], ?_⟩
  intro e he
  rcases known.retained e he with hfixed | hbutton | hforgotten
  · exact Or.inl hfixed
  · exact Or.inr (Or.inr ⟨_, List.mem_append_right _ (List.mem_singleton_self _), rfl, hbutton⟩)
  · exact Or.inr (Or.inr (hforgotten.append _))

theorem Known.append (known : Known tr s)
    (tr' : List (Lts.Transition Announcer AnnouncerAction)) :
  Known (tr ++ tr') s
  := by
  refine ⟨known.names, ?_⟩
  intro e he
  rcases known.retained e he with hfixed | hbutton | hforgotten
  · exact Or.inl hfixed
  · exact Or.inr (Or.inl hbutton)
  · exact Or.inr (Or.inr (hforgotten.append _))

theorem known_of_run (run : announcerLts.Run Announcer.new tr s) :
  Known tr s
  := by
  induction run with
  | nil => exact ⟨by simp [Announcer.new, AreNames], by simp [Announcer.new]⟩
  | @snoc tr t u a run step ih =>
      obtain rfl : announcerStep t a = u := step
      cases a with
      | republishHADiscovery env => exact ih.republishHADiscovery.append _
      | onMacrosChanged env => exact ih.onMacrosChanged.append _
      | publishVirtualMediaState env => exact ih.publishVirtualMediaState.append _
      | removeAllDiscovery => exact ih.removeAllDiscovery.append _
      | newManager => exact ih.newManager

/-- A macro that is retained and not forgotten is known. -/
theorem Known.button (known : Known tr s) (he : e ∉ fixedEntities) (hforgotten : ¬ Forgotten tr e) :
  s.retained e = none ∨ ∃ id ∈ s.lastMacroDiscoveryIDs, e = macroButton id
  := by
  by_cases hnone : s.retained e = none
  · exact Or.inl hnone
  · rcases known.retained e hnone with hfixed | hbutton | h
    · exact absurd hfixed he
    · exact Or.inr hbutton
    · exact absurd h hforgotten

theorem retained_republishHADiscovery (known : Known tr s) (henable : env.enableHADiscovery = true)
    (hforgotten : ¬ Forgotten tr e) :
  (announcerStep s (.republishHADiscovery env)).retained e = announced env e
  := by
  rw [announcerStep, if_pos henable]
  by_cases he : e ∈ fixedEntities
  · rw [announced_fixed he]
    exact writeAll_publishHADiscovery_fixed known.names he
  · rw [announced_of_notMem he]
    exact writeAll_publishHADiscovery_of_notMem he (known.button he hforgotten)

/-- When only the macros have changed, it is enough to publish the macros. -/
theorem retained_onMacrosChanged (known : Known tr s) (henable : env.enableHADiscovery = true)
    (hforgotten : ¬ Forgotten tr e) (hretained : s.retained e = announced env e)
    (keyboardMacros : List KeyboardMacro) :
  (announcerStep s (.onMacrosChanged { env with keyboardMacros })).retained e =
    announced { env with keyboardMacros } e
  := by
  rw [announcerStep, if_pos henable]
  by_cases he : e ∈ fixedEntities
  · have hnot : e ∉ (publishMacros { env with keyboardMacros } s.lastMacroDiscoveryIDs).1.map
        Prod.fst := publishMacros_notMem known.names he
    rw [announced_fixed he] at hretained ⊢
    exact (Writes.writeAll_of_notMem hnot).trans hretained
  · rw [announced_of_notMem he]
    exact writeAll_publishMacros (known.button he hforgotten)

/-- A device with these macros, all buttons being enabled. -/
def envOf (keyboardMacros : List KeyboardMacro) : Env where
  enableHADiscovery := true
  enableActions := true
  enableHAMacroButtons := true
  enableHAMediaButtons := true
  keyboardMacros := keyboardMacros
  activeExtension := "atx-power"
  restoreState := -1
  vmOptions := []

/-- An announcement forgets nothing. -/
theorem not_forgotten_republishHADiscovery :
  ¬ Forgotten ([] ++ [⟨s, .republishHADiscovery env, t⟩]) e
  := by
  rintro ⟨step, hstep, haction, -⟩
  obtain rfl := List.mem_singleton.mp hstep
  cases haction

/-- What is done while the announcements are disabled. -/
def AnnouncerAction.Disabled : AnnouncerAction → Prop
  | .republishHADiscovery env => env.enableHADiscovery = false
  | .onMacrosChanged env => env.enableHADiscovery = false
  | .publishVirtualMediaState env => env.enableHADiscovery = false
  | .removeAllDiscovery => True
  | .newManager => True

/-- What is not retained is not announced while the announcements are disabled. -/
theorem AnnouncerAction.Disabled.retained {action : AnnouncerAction} (hdisabled : action.Disabled)
    (hnone : s.retained e = none) :
  (announcerStep s action).retained e = none
  := by
  cases action with
  | republishHADiscovery env =>
      rw [announcerStep, if_neg (Bool.eq_false_iff.mp hdisabled)]
      exact hnone
  | onMacrosChanged env =>
      rw [announcerStep, if_neg (Bool.eq_false_iff.mp hdisabled)]
      exact hnone
  | publishVirtualMediaState env =>
      rw [announcerStep, if_neg fun h => Bool.eq_false_iff.mp hdisabled h.1]
      exact hnone
  | removeAllDiscovery => exact Writes.writeAll_none hnone removeAllDiscovery_none
  | newManager => exact hnone

end JetKvm.Mqtt

import JetKvm.Library.Transition
import JetKvm.UsbPlan.Attributes

/-!
# The mode of the mass storage

The mode of the drive is an attribute in the map of the gadget's configuration. A call that sets the
mode stores it in the map and then applies the configuration, but only when the map holds another
mode. What has been applied last is therefore what was asked for last only as long as nothing fails,
and a mode whose configuration could not be applied is not applied when it is asked for again.
-/

namespace JetKvm.UsbPlan

/-! ### The map -/

/-- The value of an attribute, which is empty when there is none. -/
def getAttr (attrs : GadgetAttributes) (name : FileName) : String :=
  (attrs.lookup name).getD ""

def setAttr (attrs : GadgetAttributes) (name : FileName) (value : String) : GadgetAttributes :=
  (name, value) :: attrs.filter fun attr => attr.1 ≠ name

/-- The item of a key. -/
def findItem (configMap : List GadgetConfigItemWithKey) (key : String) :
    Option GadgetConfigItem :=
  (configMap.find? fun i => i.key = key).map (·.item)

/-- Sets an attribute of the item of a key. -/
def setItemAttr (configMap : List GadgetConfigItemWithKey) (key : String) (name : FileName)
    (value : String) : List GadgetConfigItemWithKey :=
  configMap.map fun i =>
    if i.key = key then { i with item := { i.item with attrs := setAttr i.item.attrs name value } }
    else i

/-- The map with the attribute, and whether it has changed. -/
def OverrideGadgetConfig (configMap : List GadgetConfigItemWithKey) (itemKey : String)
    (itemAttr : FileName) (value : String) : Except String (List GadgetConfigItemWithKey × Bool) :=
  match findItem configMap itemKey with
  | none => .error s!"config item {itemKey} not found"
  | some item =>
      if getAttr item.attrs itemAttr = value then .ok (configMap, false)
      else .ok (setItemAttr configMap itemKey itemAttr value, true)

/-! ### The gadget -/

structure UsbGadget where
  name : FileName
  udc : String
  configMap : List GadgetConfigItemWithKey
  customConfig : Config
  enabledDevices : Devices
  strictMode : Bool

def UsbGadget.loadGadgetConfig (u : UsbGadget) : UsbGadget :=
  if u.customConfig.isEmpty then u
  else
    { u with
      configMap := (customAttributes u.customConfig).foldl
        (fun configMap attr => setItemAttr configMap attr.1 attr.2.1 attr.2.2) u.configMap }

/-- An error is only reported in strict mode, and logged otherwise. -/
def UsbGadget.logError (u : UsbGadget) (msg err : String) : Except String Unit :=
  if u.strictMode then .error s!"{msg}: {err}" else .ok ()

/-- A way to put the items in order, in which those of the same order may come in any order. -/
structure Sorting where
  sort : List GadgetConfigItemWithKey → List GadgetConfigItemWithKey
  ordered : ∀ configMap, IsOrdered configMap (sort configMap)

/-- The plan of the gadget. Without a linked item there is none, and `Commit` faults. -/
def UsbGadget.plan (u : UsbGadget) (sorting : Sorting) : Option (List RequestedFileChange) :=
  (newUsbGadgetTransaction u.name u.udc (sorting.sort u.configMap)
    (isGadgetConfigItemEnabled u.enabledDevices)).configureUsbGadget true

/-- How an `UpdateGadgetConfig` goes: in which order the items come, and the error of the
transaction, if it fails. -/
structure Update where
  sorting : Sorting
  failure : Option String

/-- The configuration that has been applied, with its plan. -/
structure Applied where
  configMap : List GadgetConfigItemWithKey
  plan : List RequestedFileChange

/-- The gadget, and what the last `UpdateGadgetConfig` that succeeded has applied. -/
structure Device where
  gadget : UsbGadget
  applied : Option Applied

namespace Device

/-- Applies the configuration. None is a fault. -/
def UpdateGadgetConfig (d : Device) (update : Update) : Option (Device × Except String Unit) :=
  let u := d.gadget.loadGadgetConfig
  (u.plan update.sorting).map fun plan =>
    match update.failure with
    | some err => ({ d with gadget := u }, u.logError "unable to update gadget config" err)
    | none => ({ gadget := u, applied := some ⟨u.configMap, plan⟩ }, .ok ())

/-- The attribute for the mode. -/
def modeValue (cdrom : Bool) : String :=
  if cdrom then "1" else "0"

/-- Sets the mode. Last, the keyboard is opened anew, which may need another rebind that fails. -/
def setMassStorageMode (d : Device) (cdrom : Bool) (update : Update) (rebind : Option String) :
    Option (Device × Except String Unit) :=
  match OverrideGadgetConfig d.gadget.configMap "mass_storage_lun0" cdromName (modeValue cdrom) with
  | .error err => some (d, .error s!"failed to set cdrom mode: {err}")
  | .ok (configMap, changed) =>
      let d := { d with gadget := { d.gadget with configMap } }
      if !changed then some (d, .ok ())
      else
        (d.UpdateGadgetConfig update).map fun (d, result) =>
          match result, rebind with
          | .error err, _ => (d, .error err)
          | .ok (), some err => (d, .error err)
          | .ok (), none => (d, .ok ())

/-- What is called. -/
inductive Action where
  | setMassStorageMode (cdrom : Bool) (update : Update) (rebind : Option String)
  | updateGadgetConfig (update : Update)

def exec (d : Device) : Action → Option (Device × Except String Unit)
  | .setMassStorageMode cdrom update rebind => d.setMassStorageMode cdrom update rebind
  | .updateGadgetConfig update => d.UpdateGadgetConfig update

/-- The device after a call. -/
def next (d : Device) (action : Action) : Option Device :=
  (d.exec action).map Prod.fst

/-- The gadget with its calls, one after the other. -/
def lts : Lts Device Action :=
  .ofStep next

end Device

/-! ### Attributes in the map -/

section Map

variable {configMap : List GadgetConfigItemWithKey} {key key' value : String} {name name' : FileName}
  {attrs : GadgetAttributes} {item : GadgetConfigItem}

theorem getAttr_setAttr_self :
  getAttr (setAttr attrs name value) name = value
  := by
  rw [getAttr, setAttr, List.lookup_cons_self, Option.getD_some]

theorem mem_of_getAttr (h : getAttr attrs name = value) (hvalue : value ≠ "") :
  (name, value) ∈ attrs
  := by
  rw [getAttr] at h
  cases hlookup : attrs.lookup name with
  | none =>
      rw [hlookup] at h
      exact absurd h.symm hvalue
  | some found =>
      rw [hlookup] at h
      obtain rfl := h
      obtain ⟨front, back, rfl, -⟩ := List.lookup_eq_some_iff.mp hlookup
      simp

theorem keys_setItemAttr :
  (setItemAttr configMap key name value).map (·.key) = configMap.map (·.key)
  := by
  rw [setItemAttr, List.map_map]
  apply List.map_congr_left
  intro i _
  rw [Function.comp_apply]
  split
  · rfl
  · rfl

/-- The item of a key after an attribute has been set. -/
theorem findItem_setItemAttr :
  findItem (setItemAttr configMap key name value) key' =
    if key' = key then
      (findItem configMap key').map fun item =>
        { item with attrs := setAttr item.attrs name value }
    else findItem configMap key'
  := by
  have hkey : ∀ i : GadgetConfigItemWithKey, (if i.key = key then
      { i with item := { i.item with attrs := setAttr i.item.attrs name value } }
      else i).key = i.key := by
    intro i
    split
    · rfl
    · rfl
  rw [findItem, setItemAttr, List.find?_map, findItem]
  simp only [Function.comp_def, hkey]
  cases hfind : configMap.find? fun i => i.key = key' with
  | none =>
      split
      · rfl
      · rfl
  | some i =>
      have hi : i.key = key' := by simpa using List.find?_some hfind
      rw [Option.map_some, Option.map_some, Option.map_some, hi]
      split
      · rfl
      · rfl

/-- The mode that the map holds. -/
def cdromValue (configMap : List GadgetConfigItemWithKey) : String :=
  ((findItem configMap "mass_storage_lun0").map fun item => getAttr item.attrs cdromName).getD ""

theorem cdromValue_of_findItem (h : findItem configMap "mass_storage_lun0" = some item) :
  cdromValue configMap = getAttr item.attrs cdromName
  := by
  rw [cdromValue, h]
  rfl

theorem cdromValue_setItemAttr_self
    (h : findItem configMap "mass_storage_lun0" = some item) :
  cdromValue (setItemAttr configMap "mass_storage_lun0" cdromName value) = value
  := by
  rw [cdromValue, findItem_setItemAttr, if_pos rfl, h, Option.map_some, Option.map_some,
    Option.getD_some, getAttr_setAttr_self]

theorem cdromValue_setItemAttr_of_ne (h : "mass_storage_lun0" ≠ key) :
  cdromValue (setItemAttr configMap key name value) = cdromValue configMap
  := by
  rw [cdromValue, findItem_setItemAttr, if_neg h, cdromValue]

/-- The map has the item of the drive where it belongs. -/
structure HasDrive (configMap : List GadgetConfigItemWithKey) : Prop where
  keys : (configMap.map (·.key)).Nodup
  drive : ∃ item, findItem configMap "mass_storage_lun0" = some item ∧
    item.path = massStorageLun0Config.path

theorem HasDrive.setItemAttr (h : HasDrive configMap) :
  HasDrive (setItemAttr configMap key name value)
  := by
  obtain ⟨item, hitem, hpath⟩ := h.drive
  constructor
  · rw [keys_setItemAttr]
    exact h.keys
  · rw [findItem_setItemAttr, hitem]
    split
    · exact ⟨_, rfl, hpath⟩
    · exact ⟨item, rfl, hpath⟩

end Map

/-- The configuration of the user leaves the drive alone. -/
theorem loadGadgetConfig_drive (u : UsbGadget) :
  cdromValue u.loadGadgetConfig.configMap = cdromValue u.configMap ∧
    (HasDrive u.configMap → HasDrive u.loadGadgetConfig.configMap)
  := by
  have hfold : ∀ (attrs : List (String × FileName × String)) (configMap),
      (∀ attr ∈ attrs, "mass_storage_lun0" ≠ attr.1) →
      cdromValue (attrs.foldl (fun m attr => setItemAttr m attr.1 attr.2.1 attr.2.2) configMap) =
        cdromValue configMap ∧
      (HasDrive configMap → HasDrive
        (attrs.foldl (fun m attr => setItemAttr m attr.1 attr.2.1 attr.2.2) configMap)) := by
    intro attrs
    induction attrs with
    | nil => exact fun configMap _ => ⟨rfl, id⟩
    | cons attr attrs ih =>
        intro configMap hkeys
        rw [List.forall_mem_cons] at hkeys
        obtain ⟨hvalue, hdrive⟩ := ih (setItemAttr configMap attr.1 attr.2.1 attr.2.2) hkeys.2
        rw [List.foldl_cons]
        exact ⟨hvalue.trans (cdromValue_setItemAttr_of_ne hkeys.1),
          fun h => hdrive h.setItemAttr⟩
  rw [UsbGadget.loadGadgetConfig]
  split
  · exact ⟨rfl, id⟩
  · apply hfold
    intro attr hattr
    have hkeys : ∀ key ∈ ["base", "base", "base_info", "base_info", "base_info"],
        "mass_storage_lun0" ≠ key := by decide
    exact hkeys attr.1 (List.mem_map_of_mem (f := Prod.fst) hattr)

/-! ### The plan -/

/-- Where the mode of the drive is. -/
def cdromPath (name : FileName) : Path :=
  joinPath (gadgetPath ++ [name]) massStorageLun0Config.path ++ [cdromName]

/-- The plan writes the mode. -/
def WritesMode (name : FileName) (plan : List RequestedFileChange) (cdrom : Bool) : Prop :=
  ∃ f ∈ plan, UsbGadgetTransaction.WritesAttribute (cdromPath name) (Device.modeValue cdrom) f

/-- The plan writes the mode that the map holds, when the mass storage is enabled. -/
theorem writesMode_of_plan {u : UsbGadget} {sorting : Sorting} {plan : List RequestedFileChange}
    {cdrom : Bool} (hdrive : HasDrive u.configMap) (henabled : u.enabledDevices.massStorage = true)
    (hplan : u.plan sorting = some plan) (hvalue : cdromValue u.configMap = Device.modeValue cdrom) :
  WritesMode u.name plan cdrom
  := by
  obtain ⟨item, hitem, hpath⟩ := hdrive.drive
  rw [cdromValue_of_findItem hitem] at hvalue
  have hattr := mem_of_getAttr hvalue (by cases cdrom <;> decide)
  obtain ⟨val, hfind, rfl⟩ := Option.map_eq_some_iff.mp hitem
  have hkey : val.key = "mass_storage_lun0" := by simpa using List.find?_some hfind
  have hmem := (sorting.ordered u.configMap).perm.mem_iff.mpr (List.mem_of_find?_eq_some hfind)
  have hattributes := UsbGadgetTransaction.planAttributes_configureUsbGadget rfl rfl hplan
  apply (hattributes.attributes val hmem _ _ _ _).1
  · rw [UsbGadgetTransaction.isEnabled, hkey]
    exact henabled
  · apply List.mem_append_left
    rw [List.mem_map]
    use (cdromName, Device.modeValue cdrom), hattr
    rw [hpath]
    rfl

/-! ### Runs -/

namespace Device

/-- The gadget has a drive that is enabled, and what has been applied has written the mode that was
in the map. -/
structure Sound (d : Device) : Prop where
  drive : HasDrive d.gadget.configMap
  enabled : d.gadget.enabledDevices.massStorage = true
  applied : ∀ applied ∈ d.applied, ∀ cdrom,
    cdromValue applied.configMap = modeValue cdrom → WritesMode d.gadget.name applied.plan cdrom

/-- What has been applied last has the mode already, or the mode is not the one in the map and is
applied, unless an error is returned. -/
def Proceeds (e : Lts.Transition Device Action) : Prop :=
  match e.action with
  | .setMassStorageMode cdrom update rebind =>
      e.before.applied.map (cdromValue ·.configMap) = some (modeValue cdrom) ∨
        cdromValue e.before.gadget.configMap ≠ modeValue cdrom ∧
          (update.failure = none ∨ e.before.gadget.strictMode = true ∨ rebind ≠ none)
  | .updateGadgetConfig _ => True

instance : DecidablePred Proceeds
  | ⟨_, .setMassStorageMode _ _ _, _⟩ => inferInstanceAs (Decidable (_ ∨ _ ∧ _))
  | ⟨_, .updateGadgetConfig _, _⟩ => .isTrue trivial

/-- When the call returns nil, what has been applied last has written the mode. -/
def KeepsMode (e : Lts.Transition Device Action) : Prop :=
  match e.action with
  | .setMassStorageMode cdrom _ _ =>
      e.before.exec e.action = some (e.after, .ok ()) →
        ∃ applied ∈ e.after.applied, WritesMode e.after.gadget.name applied.plan cdrom
  | .updateGadgetConfig _ => True

variable {d d' : Device} {update : Update} {result : Except String Unit} {cdrom : Bool}
  {rebind : Option String}

theorem loadGadgetConfig_rest (u : UsbGadget) :
  u.loadGadgetConfig.name = u.name ∧ u.loadGadgetConfig.strictMode = u.strictMode ∧
    u.loadGadgetConfig.enabledDevices = u.enabledDevices
  := by
  rw [UsbGadget.loadGadgetConfig]
  split
  · exact ⟨rfl, rfl, rfl⟩
  · exact ⟨rfl, rfl, rfl⟩

/-- An update that succeeds writes the mode that the map holds, and one that fails leaves what has
been applied as it is. -/
theorem UpdateGadgetConfig_cases (sound : d.Sound)
    (h : d.UpdateGadgetConfig update = some (d', result)) :
  d'.Sound ∧
    (update.failure = none ∧ result = .ok () ∧ (∀ cdrom,
        cdromValue d.gadget.configMap = modeValue cdrom →
          ∃ applied ∈ d'.applied, WritesMode d'.gadget.name applied.plan cdrom) ∨
      update.failure ≠ none ∧ d'.applied = d.applied ∧
        (d.gadget.strictMode = true → result ≠ .ok ()))
  := by
  obtain ⟨hname, hstrict, hdevices⟩ := loadGadgetConfig_rest d.gadget
  obtain ⟨hvalue, hdrive⟩ := loadGadgetConfig_drive d.gadget
  have henabled : d.gadget.loadGadgetConfig.enabledDevices.massStorage = true := by
    rw [hdevices]
    exact sound.enabled
  rw [UpdateGadgetConfig] at h
  obtain ⟨plan, hplan, h⟩ := Option.map_eq_some_iff.mp h
  have hwrites : ∀ cdrom, cdromValue d.gadget.loadGadgetConfig.configMap = modeValue cdrom →
      WritesMode d.gadget.loadGadgetConfig.name plan cdrom :=
    fun cdrom => writesMode_of_plan (hdrive sound.drive) henabled hplan
  cases hfailure : update.failure with
  | none =>
      rw [hfailure] at h
      obtain ⟨rfl, rfl⟩ := Prod.mk.inj h
      constructor
      · refine ⟨hdrive sound.drive, henabled, ?_⟩
        intro applied happlied
        obtain rfl := Option.some.inj happlied
        exact hwrites
      · refine Or.inl ⟨rfl, rfl, fun cdrom hcdrom => ⟨_, rfl, hwrites cdrom ?_⟩⟩
        rw [hvalue]
        exact hcdrom
  | some err =>
      rw [hfailure] at h
      obtain ⟨rfl, rfl⟩ := Prod.mk.inj h
      constructor
      · refine ⟨hdrive sound.drive, henabled, ?_⟩
        dsimp only
        rw [hname]
        exact sound.applied
      · refine Or.inr ⟨Option.some_ne_none err, rfl, fun hmode => ?_⟩
        rw [UsbGadget.logError, hstrict, if_pos hmode]
        exact fun hok => by cases hok

/-- The device after the mode has been stored. -/
def stored (d : Device) (cdrom : Bool) : Device :=
  { d with gadget := { d.gadget with
      configMap := setItemAttr d.gadget.configMap "mass_storage_lun0" cdromName (modeValue cdrom) } }

theorem Sound.stored (sound : d.Sound) : (d.stored cdrom).Sound
  := ⟨sound.drive.setItemAttr, sound.enabled, sound.applied⟩

/-- Setting the mode that is stored does nothing, and another one is stored and applied. -/
theorem setMassStorageMode_cases (sound : d.Sound)
    (h : d.setMassStorageMode cdrom update rebind = some (d', result)) :
  cdromValue d.gadget.configMap = modeValue cdrom ∧ d' = d ∧ result = .ok () ∨
  cdromValue d.gadget.configMap ≠ modeValue cdrom ∧ ∃ updated,
    (d.stored cdrom).UpdateGadgetConfig update = some (d', updated) ∧
      (result = .ok () → updated = .ok () ∧ rebind = none)
  := by
  obtain ⟨item, hitem, -⟩ := sound.drive.drive
  rw [cdromValue_of_findItem hitem]
  rw [setMassStorageMode, OverrideGadgetConfig, hitem] at h
  dsimp only at h
  by_cases hsame : getAttr item.attrs cdromName = modeValue cdrom
  · rw [if_pos hsame] at h
    obtain ⟨rfl, rfl⟩ := Prod.mk.inj (Option.some.inj h)
    exact Or.inl ⟨hsame, rfl, rfl⟩
  · rw [if_neg hsame] at h
    obtain ⟨⟨updatedDevice, updated⟩, hupdate, h⟩ := Option.map_eq_some_iff.mp h
    refine Or.inr ⟨hsame, updated, ?_⟩
    cases updated with
    | error err =>
        obtain ⟨rfl, rfl⟩ := Prod.mk.inj h
        exact ⟨hupdate, fun hok => by cases hok⟩
    | ok _ =>
        cases rebind with
        | some err =>
            obtain ⟨rfl, rfl⟩ := Prod.mk.inj h
            exact ⟨hupdate, fun hok => by cases hok⟩
        | none =>
            obtain ⟨rfl, rfl⟩ := Prod.mk.inj h
            exact ⟨hupdate, fun _ => ⟨rfl, rfl⟩⟩

/-- A call keeps the device sound. -/
theorem sound_exec {action : Action} (sound : d.Sound) (h : d.exec action = some (d', result)) :
  d'.Sound
  := by
  cases action with
  | setMassStorageMode cdrom update rebind =>
      obtain ⟨-, rfl, -⟩ | ⟨-, updated, hupdate, -⟩ := setMassStorageMode_cases sound h
      · exact sound
      · exact (UpdateGadgetConfig_cases sound.stored hupdate).1
  | updateGadgetConfig update => exact (UpdateGadgetConfig_cases sound h).1

/-- A call that proceeds keeps the mode. -/
theorem keepsMode_of_proceeds {e : Lts.Transition Device Action} (sound : e.before.Sound)
    (proceeds : Proceeds e) : KeepsMode e
  := by
  obtain ⟨before, action, after⟩ := e
  cases action with
  | setMassStorageMode cdrom update rebind =>
      intro h
      rw [Proceeds] at proceeds
      dsimp only at sound proceeds h ⊢
      have happlied : ∀ {d : Device}, d.Sound → d.applied = before.applied →
          before.applied.map (cdromValue ·.configMap) = some (modeValue cdrom) →
          ∃ applied ∈ d.applied, WritesMode d.gadget.name applied.plan cdrom := by
        intro d hd heq hvalue
        obtain ⟨applied, happlied, hvalue⟩ := Option.map_eq_some_iff.mp hvalue
        rw [← heq] at happlied
        exact ⟨applied, happlied, hd.applied applied happlied cdrom hvalue⟩
      obtain ⟨hsame, rfl, -⟩ | ⟨hother, updated, hupdate, hok⟩ := setMassStorageMode_cases sound h
      · obtain hvalue | ⟨hother, -⟩ := proceeds
        · exact happlied sound rfl hvalue
        · exact absurd hsame hother
      · obtain ⟨hupdated, hrebind⟩ := hok rfl
        obtain ⟨item, hitem, -⟩ := sound.drive.drive
        obtain ⟨hafter, ⟨-, -, hwrites⟩ | ⟨hfailure, hunchanged, hstrict⟩⟩ :=
          UpdateGadgetConfig_cases sound.stored hupdate
        · exact hwrites cdrom (cdromValue_setItemAttr_self hitem)
        · obtain hvalue | ⟨-, hnone | hmode | hsome⟩ := proceeds
          · exact happlied hafter hunchanged hvalue
          · exact absurd hnone hfailure
          · exact absurd hupdated (hstrict hmode)
          · exact absurd hrebind hsome
  | updateGadgetConfig update => exact trivial

/-- In a run in which every call proceeds, a mode that is reported as set has been applied. -/
theorem keepsMode_of_run {tr : List (Lts.Transition Device Action)}
    (hdrive : HasDrive d.gadget.configMap) (henabled : d.gadget.enabledDevices.massStorage = true)
    (hfresh : d.applied = none) (run : lts.Run d tr d') (hproceeds : ∀ e ∈ tr, Proceeds e) :
  ∀ e ∈ tr, KeepsMode e
  := by
  have hsound : d.Sound := by
    refine ⟨hdrive, henabled, ?_⟩
    rw [hfresh]
    exact fun applied happlied => by cases happlied
  intro e he
  apply keepsMode_of_proceeds _ (hproceeds e he)
  apply run.invariant_before hsound _ e he
  intro e _ sound hstep
  obtain ⟨⟨after, result⟩, hexec, rfl⟩ := Option.map_eq_some_iff.mp hstep
  exact sound_exec sound hexec

/-! ### A mode that is not applied -/

/-- The items sorted by their order. -/
def sortedByOrder : Sorting where
  sort configMap := configMap.insertionSort fun i j => i.item.order ≤ j.item.order
  ordered configMap := by
    have htotal : Std.Total fun i j : GadgetConfigItemWithKey => i.item.order ≤ j.item.order :=
      ⟨fun _ _ => Nat.le_total _ _⟩
    have htrans : IsTrans GadgetConfigItemWithKey fun i j => i.item.order ≤ j.item.order :=
      ⟨fun _ _ _ => Nat.le_trans⟩
    exact ⟨List.perm_insertionSort _ _, List.pairwise_insertionSort _ _⟩

theorem isFileName_jetkvm :
  isFileName "jetkvm" = true
  := by
  decide

/-- The default gadget before its configuration has been applied, in strict mode or not. -/
def defaultDevice (strictMode : Bool) : Device where
  gadget :=
    { name := file "jetkvm" isFileName_jetkvm, udc := "ffb00000.usb"
      configMap := defaultGadgetConfig
      customConfig := { isEmpty := true }, enabledDevices := defaultUsbGadgetDevices, strictMode }
  applied := none

def applies : Action :=
  .updateGadgetConfig ⟨sortedByOrder, none⟩

/-- The drive is to be a disk, and the configuration cannot be applied. -/
def failsToApply : Action :=
  .setMassStorageMode false ⟨sortedByOrder, some "device or resource busy"⟩ none

/-- The mode is reported as set after the given calls, and what has been applied last does not write
it. -/
def LosesMode (d : Device) (actions : List Action) (cdrom : Bool) (update : Update) : Bool :=
  ((Lts.play next d actions).bind fun before =>
    before.exec (.setMassStorageMode cdrom update none)).any fun (after, result) =>
      decide (result = .ok ()) && after.applied.all fun applied =>
        decide (∀ f ∈ applied.plan, f.path = cdromPath after.gadget.name →
          f.expectedContent ≠ bytes (modeValue cdrom))

/-- There is a run in which the mode is not kept. -/
theorem exists_run_of_losesMode {d : Device} {actions : List Action} {cdrom : Bool}
    {update : Update} (h : d.LosesMode actions cdrom update = true) :
  ∃ tr d', lts.Run d tr d' ∧ ∃ e ∈ tr, ¬ KeepsMode e
  := by
  obtain ⟨⟨after, result⟩, hbind, hloses⟩ := (Option.any_eq_true _ _).mp h
  obtain ⟨before, hplay, hexec⟩ := Option.bind_eq_some_iff.mp hbind
  obtain ⟨tr, run, -⟩ := Lts.exists_run_of_play hplay
  rw [Bool.and_eq_true, decide_eq_true_iff] at hloses
  obtain ⟨rfl, hnone⟩ := hloses
  have hstep : lts.step before (.setMassStorageMode cdrom update none) after := by
    change next before _ = some after
    rw [next, hexec]
    rfl
  refine ⟨_, after, run.snoc hstep, _, List.mem_append_right _ (List.mem_singleton_self _), ?_⟩
  intro hkeeps
  obtain ⟨applied, happlied, f, hf, hwrites⟩ := hkeeps hexec
  obtain happlied : after.applied = some applied := happlied
  rw [happlied] at hnone
  exact of_decide_eq_true hnone f hf hwrites.file hwrites.content

/-- Setting the drive to be a disk fails, which is only logged and reported as success. In strict
mode it is reported, and the next attempt is reported as a success without doing anything. -/
theorem not_keepsMode_default :
  (∃ tr d', lts.Run (defaultDevice false) tr d' ∧ ∃ e ∈ tr, ¬ KeepsMode e) ∧
  ∃ tr d', lts.Run (defaultDevice true) tr d' ∧ ∃ e ∈ tr, ¬ KeepsMode e
  := by
  constructor
  · have hloses : (defaultDevice false).LosesMode [applies] false
        ⟨sortedByOrder, some "device or resource busy"⟩ = true := by decide +kernel
    exact exists_run_of_losesMode hloses
  · have hloses : (defaultDevice true).LosesMode [applies, failsToApply] false
        ⟨sortedByOrder, none⟩ = true := by decide +kernel
    exact exists_run_of_losesMode hloses

/-- The configuration is applied, and then with another mode. -/
theorem keepsMode_of_run_default :
  ∃ tr d', lts.Run (defaultDevice false) tr d' ∧ tr.length = 2 ∧ ∀ e ∈ tr, KeepsMode e
  := by
  obtain ⟨tr, d', run, hactions, hproceeds⟩ := Lts.exists_run_of_observe_transitions next
    (defaultDevice false) [applies, .setMassStorageMode false ⟨sortedByOrder, none⟩ none]
    (fun tr => tr.all fun e => decide (Proceeds e)) (o := true) (by decide +kernel)
  have hdrive : HasDrive (defaultDevice false).gadget.configMap :=
    ⟨by decide +kernel, _, rfl, rfl⟩
  use tr, d', run
  constructor
  · simpa using congrArg List.length hactions
  · apply keepsMode_of_run hdrive rfl rfl run
    intro e he
    exact of_decide_eq_true (List.all_eq_true.mp hproceeds e he)

end Device

end JetKvm.UsbPlan

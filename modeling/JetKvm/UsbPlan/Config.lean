import JetKvm.Text

/-!
# The configuration of the gadget

The items of the gadget: its own attributes and texts, and the functions that it offers. A
function that is linked appears as a symbolic link in the configuration of the gadget.
-/

namespace JetKvm.UsbPlan

/-- Attributes by the names of their files, in the order in which the map is gone through. -/
abbrev GadgetAttributes : Type :=
  List (FileName × String)

/-- An item of the gadget: its directory, its attributes, and where it is linked. -/
structure GadgetConfigItem where
  order : Nat
  device : String := ""
  path : Path := []
  attrs : GadgetAttributes := []
  configAttrs : Option GadgetAttributes := none
  configPath : Option Path := none
  reportDesc : Option (List UInt8) := none

/-- An item under its key. -/
structure GadgetConfigItemWithKey where
  key : String
  item : GadgetConfigItem

/-- The item is a function that is linked into the configuration. -/
def GadgetConfigItem.isLinked (item : GadgetConfigItem) : Bool :=
  item.configPath.isSome && item.configAttrs.isNone

/-- The items in the order in which they are written. Those of the same order may come in any
order. -/
structure IsOrdered (configMap items : List GadgetConfigItemWithKey) : Prop where
  perm : items.Perm configMap
  sorted : items.Pairwise fun i j => i.item.order ≤ j.item.order

/-- The devices that are enabled. -/
structure Devices where
  absoluteMouse : Bool
  relativeMouse : Bool
  keyboard : Bool
  massStorage : Bool
  serialConsole : Bool := false
  audio : Bool := false

/-- An item of no device is always enabled. -/
def isGadgetConfigItemEnabled (enabledDevices : Devices) (itemKey : String) : Bool :=
  match itemKey with
  | "absolute_mouse" => enabledDevices.absoluteMouse
  | "relative_mouse" => enabledDevices.relativeMouse
  | "keyboard" => enabledDevices.keyboard
  | "mass_storage_base" => enabledDevices.massStorage
  | "mass_storage_lun0" => enabledDevices.massStorage
  | "serial_console" => enabledDevices.serialConsole
  | "audio" => enabledDevices.audio
  | _ => true

def defaultUsbGadgetDevices : Devices where
  absoluteMouse := true
  relativeMouse := true
  keyboard := true
  massStorage := true
  audio := false

/-! ### The default configuration -/

/-- A name written out. -/
def file (text : String) (proper : isFileName text = true := by decide) : FileName :=
  ⟨text, proper⟩

/-- The directory of the strings. -/
def strings : FileName :=
  file "strings"

/-- The directory of the functions. -/
def functions : FileName :=
  file "functions"

/-- The report descriptor of the keyboard. -/
def keyboardReportDesc : List UInt8 :=
  [0x05, 0x01, 0x09, 0x06, 0xa1, 0x01, 0x85, 0x01, 0x05, 0x07, 0x19, 0xe0, 0x29, 0xe7,
   0x15, 0x00, 0x25, 0x01, 0x75, 0x01, 0x95, 0x08, 0x81, 0x02, 0x95, 0x01, 0x75, 0x08,
   0x81, 0x03, 0x95, 0x05, 0x75, 0x01, 0x05, 0x08, 0x19, 0x01, 0x29, 0x05, 0x91, 0x02,
   0x95, 0x01, 0x75, 0x03, 0x91, 0x03, 0x95, 0x06, 0x75, 0x08, 0x15, 0x00, 0x25, 0xff,
   0x05, 0x07, 0x19, 0x00, 0x29, 0xff, 0x81, 0x00, 0xc0]

/-- The report descriptor of the media keys. -/
def consumerControlReportDesc : List UInt8 :=
  [0x05, 0x0c, 0x09, 0x01, 0xa1, 0x01, 0x85, 0x02, 0x15, 0x00, 0x25, 0x01, 0x09, 0xe9,
   0x09, 0xea, 0x09, 0xe2, 0x09, 0xcd, 0x09, 0xb5, 0x09, 0xb6, 0x09, 0xb7, 0x75, 0x01,
   0x95, 0x07, 0x81, 0x02, 0x95, 0x01, 0x81, 0x03, 0xc0]

/-- The report descriptor of the device that wakes the host. -/
def wakeReportDesc : List UInt8 :=
  [0x06, 0x00, 0xff, 0x09, 0x01, 0xa1, 0x01, 0x15, 0x00, 0x26, 0xff, 0x00, 0x75, 0x08,
   0x95, 0x01, 0x09, 0x01, 0x81, 0x02, 0xc0]

/-- The report descriptor of the absolute mouse. -/
def absoluteMouseCombinedReportDesc : List UInt8 :=
  [0x05, 0x01, 0x09, 0x02, 0xa1, 0x01, 0x85, 0x01, 0x09, 0x01, 0xa1, 0x00, 0x05, 0x09,
   0x19, 0x01, 0x29, 0x05, 0x15, 0x00, 0x25, 0x01, 0x75, 0x01, 0x95, 0x05, 0x81, 0x02,
   0x95, 0x01, 0x75, 0x03, 0x81, 0x03, 0x05, 0x01, 0x09, 0x30, 0x09, 0x31, 0x16, 0x00,
   0x00, 0x26, 0xff, 0x7f, 0x36, 0x00, 0x00, 0x46, 0xff, 0x7f, 0x75, 0x10, 0x95, 0x02,
   0x81, 0x02, 0xc0, 0x85, 0x02, 0x09, 0x38, 0x15, 0x81, 0x25, 0x7f, 0x35, 0x00, 0x45,
   0x00, 0x75, 0x08, 0x95, 0x01, 0x81, 0x06, 0x05, 0x0c, 0x0a, 0x38, 0x02, 0x15, 0x81,
   0x25, 0x7f, 0x75, 0x08, 0x95, 0x01, 0x81, 0x06, 0xc0]

/-- The report descriptor of the relative mouse. -/
def relativeMouseCombinedReportDesc : List UInt8 :=
  [0x05, 0x01, 0x09, 0x02, 0xa1, 0x01, 0x09, 0x01, 0xa1, 0x00, 0x05, 0x09, 0x19, 0x01,
   0x29, 0x08, 0x15, 0x00, 0x25, 0x01, 0x95, 0x08, 0x75, 0x01, 0x81, 0x02, 0x05, 0x01,
   0x09, 0x30, 0x09, 0x31, 0x09, 0x38, 0x15, 0x81, 0x25, 0x7f, 0x75, 0x08, 0x95, 0x03,
   0x81, 0x06, 0x05, 0x0c, 0x0a, 0x38, 0x02, 0x15, 0x81, 0x25, 0x7f, 0x75, 0x08, 0x95,
   0x01, 0x81, 0x06, 0xc0, 0xc0]

/-- The attributes of a HID function. -/
def hidAttrs (protocol subclass reportLength noOutEndpoint wakeupOnWrite : String) :
    GadgetAttributes :=
  [(file "protocol", protocol), (file "subclass", subclass),
   (file "report_length", reportLength), (file "no_out_endpoint", noOutEndpoint),
   (file "wakeup_on_write", wakeupOnWrite)]

/-- The keyboard. -/
def keyboardConfig : GadgetConfigItem where
  order := 1000
  device := "hid.usb0"
  path := [functions, file "hid.usb0"]
  configPath := some [file "hid.usb0"]
  attrs := hidAttrs "1" "1" "9" "0" "0"
  reportDesc := some (keyboardReportDesc ++ consumerControlReportDesc)

/-- The device that wakes the host. -/
def wakeHIDConfig : GadgetConfigItem where
  order := 1003
  device := "hid.usb3"
  path := [functions, file "hid.usb3"]
  configPath := some [file "hid.usb3"]
  attrs := hidAttrs "0" "0" "1" "1" "1"
  reportDesc := some wakeReportDesc

/-- The absolute mouse. -/
def absoluteMouseConfig : GadgetConfigItem where
  order := 1001
  device := "hid.usb1"
  path := [functions, file "hid.usb1"]
  configPath := some [file "hid.usb1"]
  attrs := hidAttrs "2" "0" "6" "1" "0"
  reportDesc := some absoluteMouseCombinedReportDesc

/-- The relative mouse. -/
def relativeMouseConfig : GadgetConfigItem where
  order := 1002
  device := "hid.usb2"
  path := [functions, file "hid.usb2"]
  configPath := some [file "hid.usb2"]
  attrs := hidAttrs "2" "1" "5" "1" "0"
  reportDesc := some relativeMouseCombinedReportDesc

/-- The sound card. -/
def audioConfig : GadgetConfigItem where
  order := 2500
  device := "uac1.usb0"
  path := [functions, file "uac1.usb0"]
  configPath := some [file "uac1.usb0"]
  attrs :=
    [(file "c_chmask", "0x3"), (file "c_srate", "48000"), (file "c_ssize", "2"),
     (file "p_chmask", "0")]

/-- The mass storage. -/
def massStorageBaseConfig : GadgetConfigItem where
  order := 3000
  device := "mass_storage.usb0"
  path := [functions, file "mass_storage.usb0"]
  configPath := some [file "mass_storage.usb0"]
  attrs := [(file "stall", "1")]

/-- The only unit of the mass storage. -/
def massStorageLun0Config : GadgetConfigItem where
  order := 3001
  path := [functions, file "mass_storage.usb0", file "lun.0"]
  attrs :=
    [(file "cdrom", "1"), (file "ro", "1"), (file "removable", "1"), (file "file", "\n"),
     (file "inquiry_string", "JetKVM  Virtual Media")]

/-- The file that says whether the drive is a cdrom. -/
def cdromName : FileName :=
  file "cdrom"

/-- The file that names the medium of the drive. -/
def mediumName : FileName :=
  file "file"

/-- The serial console. -/
def serialConsoleConfig : GadgetConfigItem where
  order := 4000
  device := "acm.usb0"
  path := [functions, file "acm.usb0"]
  configPath := some [file "acm.usb0"]

/-- The gadget itself. -/
def baseConfig : GadgetConfigItem where
  order := 0
  attrs :=
    [(file "bcdUSB", "0x0200"), (file "idVendor", "0x1d6b"), (file "idProduct", "0x0104"),
     (file "bcdDevice", "0x0100")]
  configAttrs := some [(file "MaxPower", "250"), (file "bmAttributes", "0xa0")]

/-- What the gadget says of itself. -/
def baseInfoConfig : GadgetConfigItem where
  order := 1
  path := [strings, file "0x409"]
  configPath := some [strings, file "0x409"]
  attrs :=
    [(file "serialnumber", ""), (file "manufacturer", "JetKVM"),
     (file "product", "JetKVM USB Emulation Device")]
  configAttrs := some [(file "configuration", "Config 1: HID")]

/-- The items of the default configuration, in their order. -/
def defaultGadgetConfig : List GadgetConfigItemWithKey :=
  [⟨"base", baseConfig⟩, ⟨"base_info", baseInfoConfig⟩, ⟨"keyboard", keyboardConfig⟩,
   ⟨"absolute_mouse", absoluteMouseConfig⟩, ⟨"relative_mouse", relativeMouseConfig⟩,
   ⟨"wake_hid", wakeHIDConfig⟩, ⟨"audio", audioConfig⟩,
   ⟨"mass_storage_base", massStorageBaseConfig⟩,
   ⟨"mass_storage_lun0", massStorageLun0Config⟩, ⟨"serial_console", serialConsoleConfig⟩]

/-! ### The configuration of the user -/

/-- The configuration of the user. -/
structure Config where
  isEmpty : Bool := false
  VendorId : String := ""
  ProductId : String := ""
  SerialNumber : String := ""
  Manufacturer : String := ""
  Product : String := ""
deriving DecidableEq, Repr

/-- The attributes that the configuration of the user sets. -/
def customAttributes (config : Config) : List (String × FileName × String) :=
  [("base", file "idVendor", config.VendorId), ("base", file "idProduct", config.ProductId),
    ("base_info", file "serialnumber", config.SerialNumber),
    ("base_info", file "manufacturer", config.Manufacturer),
    ("base_info", file "product", config.Product)]

/-! ### The shape of a configuration -/

namespace GadgetConfigItem

variable (item : GadgetConfigItem)

/-- The file of a report descriptor. -/
def reportDescName : FileName :=
  file "report_desc"

/-- The files that are written or removed in the directory of the item. -/
def fileNames : List FileName :=
  item.attrs.map Prod.fst ++ [reportDescName]

/-- The files that are written in the configuration. -/
def configFileNames : List FileName :=
  (item.configAttrs.getD []).map Prod.fst

/-- Where in the configuration the item is, if it is there at all. -/
def configPlace : Option Path :=
  if item.configPath.isSome || item.configAttrs.isSome then some (item.configPath.getD [])
  else none

end GadgetConfigItem

/-- The shape of `defaultGadgetConfig`: devices and paths are distinct, and no file has the
path of a directory. -/
structure Shaped (configMap : List GadgetConfigItemWithKey) : Prop where
  keys : (configMap.map (·.key)).Nodup
  devices : ((configMap.filter (·.item.isLinked)).map (·.item.device)).Nodup
  paths : (configMap.map (·.item.path)).Nodup
  places : (configMap.filterMap (·.item.configPlace)).Nodup
  roots : ∀ i ∈ configMap, i.item.path.head? ∈ [none, some strings, some functions]
  configPath : ∀ i ∈ configMap, i.item.configPath ≠ some []
  fileNames : ∀ i ∈ configMap, i.item.fileNames.Nodup
  configFileNames : ∀ i ∈ configMap, i.item.configFileNames.Nodup
  apart : ∀ i ∈ configMap, ∀ name ∈ i.item.fileNames, ∀ j ∈ configMap,
    i.item.path ++ [name] ≠ j.item.path
  configApart : ∀ i ∈ configMap, ∀ name ∈ i.item.configFileNames, ∀ j ∈ configMap,
    ∀ place ∈ j.item.configPlace, i.item.configPath.getD [] ++ [name] ≠ place

/-- The items have that shape. -/
theorem shaped_defaultGadgetConfig : Shaped defaultGadgetConfig
  := by
  constructor <;> decide +kernel

end JetKvm.UsbPlan

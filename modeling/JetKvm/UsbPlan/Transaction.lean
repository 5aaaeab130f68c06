import JetKvm.UsbPlan.ChangeSet
import JetKvm.UsbPlan.Config

/-!
# The plan of the gadget

The change set that a transaction builds: the configuration file system is mounted, the
directories of the gadget are made, each item is written or disabled, the functions are
linked in their order, and the gadget is bound to its controller anew.
-/

namespace JetKvm.UsbPlan

/-! ### Paths -/

/-- `/sys/kernel/config`. -/
def configFSPath : Path :=
  [file "sys", file "kernel", file "config"]

/-- `/sys/kernel/config/usb_gadget`. -/
def gadgetPath : Path :=
  [file "sys", file "kernel", file "config", file "usb_gadget"]

/-- `/sys/bus/platform/drivers/dwc3`. -/
def dwc3Path : Path :=
  [file "sys", file "bus", file "platform", file "drivers", file "dwc3"]

/-- The directory of the configuration below that of the gadget. -/
def configDir : Path :=
  [file "configs", file "c.1"]

/-- A path below another. -/
def joinPath (basePath paths : Path) : Path :=
  basePath ++ paths

/-- The gadget, and the changes that are requested so far. -/
structure UsbGadgetTransaction where
  changes : List RequestedFileChange := []
  udc : String
  dwc3Path : Path
  kvmGadgetPath : Path
  configC1Path : Path
  orderedConfigItems : List GadgetConfigItemWithKey
  isGadgetConfigItemEnabled : String → Bool
  reorderSymlinkChanges : Option RequestedFileChange := none

/-- The transaction of the gadget with the given name. -/
def newUsbGadgetTransaction (name : FileName) (udc : String)
    (items : List GadgetConfigItemWithKey) (enabled : String → Bool) : UsbGadgetTransaction where
  udc := udc
  dwc3Path := dwc3Path
  kvmGadgetPath := gadgetPath ++ [name]
  configC1Path := gadgetPath ++ [name, file "configs", file "c.1"]
  orderedConfigItems := items
  isGadgetConfigItemEnabled := enabled

namespace UsbGadgetTransaction

variable (tx : UsbGadgetTransaction)

/-! ### Adding changes -/

/-- A change is requested after the others, and has a key. -/
def addFileChange (component : String) (change : RequestedFileChange) :
    UsbGadgetTransaction × ChangeKey :=
  let change := { change with component := component }
  ({ tx with changes := tx.changes ++ [change] }, change.changeKey)

/-- A directory is requested. -/
def mkdirAll (component : String) (path : Path) (description : String) (deps : List ChangeKey) :
    UsbGadgetTransaction × ChangeKey :=
  tx.addFileChange component
    { path := path
      expectedState := .directory
      description := description
      dependsOn := deps }

/-- A file is to be removed. -/
def removeFile (component : String) (path : Path) (description : String) :
    UsbGadgetTransaction × ChangeKey :=
  tx.addFileChange component
    { path := path
      expectedState := .absent
      description := description }

/-- The file system of the configuration is mounted first. -/
def mountConfigFS : UsbGadgetTransaction :=
  (tx.addFileChange "gadget"
    { path := configFSPath
      expectedState := .mountedConfigFS
      description := "mount configfs" }).1

/-- The directory of the configuration comes next. -/
def createConfigPath : UsbGadgetTransaction :=
  (tx.mkdirAll "gadget" tx.configC1Path "create config path" [.path configFSPath]).1

/-! ### The items -/

/-- The key of the change that removes the link of a device. -/
def disableKey (device : String) : String :=
  "disable-" ++ device

/-- The key of the change that reorders the links. -/
def reorderKey : String :=
  "reorder-symlinks"

/-- The keys of the changes that take away the links of the items that are enabled. -/
def getDisableKeys : List ChangeKey :=
  (tx.orderedConfigItems.filter fun i =>
    tx.isGadgetConfigItemEnabled i.key && i.item.isLinked).map
      fun i => .named (disableKey i.item.device)

/-- The link of an item that is not enabled is removed. -/
def disableGadgetItemConfig (item : GadgetConfigItem) : UsbGadgetTransaction :=
  match item.configPath with
  | none => tx
  | some configPath =>
      (tx.removeFile "gadget" (joinPath tx.configC1Path configPath)
        "remove symlink: disable gadget config").1

/-- The change that writes one attribute. -/
def gadgetAttrChange (basePath : Path) (beforeChange : List ChangeKey)
    (attr : FileName × String) : RequestedFileChange where
  path := basePath ++ [attr.1]
  expectedState := .fileContentMatch
  expectedContent := bytes attr.2
  description := "write gadget attribute"
  dependsOn := [.path basePath]
  beforeChange := some beforeChange
  ignoreErrors := attr.1.text = "wakeup_on_write"

/-- An attribute is a file, and each of them depends on the same changes. -/
def writeGadgetAttrs (basePath : Path) (attrs : GadgetAttributes) (component : String)
    (beforeChange : List ChangeKey) : UsbGadgetTransaction × List ChangeKey :=
  attrs.foldl (fun written attr =>
    let added := written.1.addFileChange component (gadgetAttrChange basePath beforeChange attr)
    (added.1, written.2 ++ [added.2])) (tx, [])

/-- A link is requested as a part of the change that reorders all of them. -/
def addReorderSymlinkChange (path target : Path) (deps : List ChangeKey) :
    UsbGadgetTransaction :=
  let reorder := tx.reorderSymlinkChanges.getD
    { component := "gadget-finalize"
      key := reorderKey
      path := tx.configC1Path
      expectedState := .symlinkInOrderConfigFS
      description := "order symlinks" }
  { tx with
    reorderSymlinkChanges := some
      { reorder with
        dependsOn := reorder.dependsOn ++ deps
        paramSymlinks := reorder.paramSymlinks ++ [⟨path, target.chars⟩] } }

/-- Makes a directory of an item, unless it is the one that is there already. -/
def writeItemDirectory (component : String) (basePath path : Path) (description : String)
    (files : List ChangeKey) : UsbGadgetTransaction × List ChangeKey :=
  if path ≠ basePath then
    let made := tx.mkdirAll component path description files
    (made.1, files ++ [made.2])
  else (tx, files)

/-- Writes the report descriptor of an item, or removes the one that is there. -/
def writeReportDesc (component : String) (gadgetItemPath : Path)
    (reportDesc : Option (List UInt8)) (beforeChange files : List ChangeKey) :
    UsbGadgetTransaction × List ChangeKey :=
  let reportDescPath := gadgetItemPath ++ [GadgetConfigItem.reportDescName]
  let added := tx.addFileChange component <|
    match reportDesc with
    | some reportDesc =>
        { path := reportDescPath
          expectedState := .fileContentMatch
          expectedContent := reportDesc
          description := "write report descriptor"
          beforeChange := some beforeChange
          dependsOn := files }
    | none =>
        { path := reportDescPath
          expectedState := .absent
          description := "remove report descriptor"
          beforeChange := some beforeChange
          dependsOn := files }
  (added.1, files ++ [.path reportDescPath])

/-- Writes what an item has in the configuration. -/
def writeConfigAttrs (component : String) (configItemPath : Path) (configAttrs : GadgetAttributes)
    (beforeChange files : List ChangeKey) : UsbGadgetTransaction × List ChangeKey :=
  if 0 < configAttrs.length then
    let made := tx.writeItemDirectory component tx.configC1Path configItemPath
      "create config item directory" files
    let written := made.1.writeGadgetAttrs configItemPath configAttrs component beforeChange
    (written.1, made.2 ++ written.2)
  else (tx, files)

/-- Links an item into the configuration. Its link is removed before changes only. -/
def linkItem (item : GadgetConfigItem) (gadgetItemPath : Path) (files : List ChangeKey) :
    UsbGadgetTransaction :=
  if item.isLinked then
    let configPath := joinPath tx.configC1Path (item.configPath.getD [])
    let added := tx.addFileChange item.device
      { key := disableKey item.device
        path := configPath
        expectedState := .absent
        condition := "beforeChange"
        description := "remove symlink" }
    added.1.addReorderSymlinkChange configPath gadgetItemPath files
  else tx

/-- All that belongs to an item: directory, attributes, report descriptor, configuration, and
link. -/
def writeGadgetItemConfig (item : GadgetConfigItem) (deps : List ChangeKey) :
    UsbGadgetTransaction × List ChangeKey :=
  let component := item.device
  let gadgetItemPath := joinPath tx.kvmGadgetPath item.path
  let (tx, files) := tx.writeItemDirectory component tx.kvmGadgetPath gadgetItemPath
    "create gadget item directory" deps
  let beforeChange := if item.isLinked then tx.getDisableKeys else []
  let (tx, written) := tx.writeGadgetAttrs gadgetItemPath item.attrs component beforeChange
  let (tx, files) := tx.writeReportDesc component gadgetItemPath item.reportDesc beforeChange
    (files ++ written)
  let configItemPath := joinPath tx.configC1Path (item.configPath.getD [])
  let (tx, files) := tx.writeConfigAttrs component configItemPath (item.configAttrs.getD [])
    beforeChange files
  (tx.linkItem item gadgetItemPath files, files)

/-! ### The whole plan -/

/-- The name of the controller is written when the links have been reordered. -/
def writeUDC : UsbGadgetTransaction :=
  (tx.addFileChange "udc"
    { key := "udc"
      path := tx.kvmGadgetPath ++ [file "UDC"]
      expectedState := .fileContentMatch
      expectedContent := bytes tx.udc
      dependsOn := [.named reorderKey]
      description := "write UDC" }).1

/-- Writes or disables one item, after what has been written before. -/
def writeItem (written : UsbGadgetTransaction × List ChangeKey)
    (val : GadgetConfigItemWithKey) : UsbGadgetTransaction × List ChangeKey :=
  if written.1.isGadgetConfigItemEnabled val.key
  then written.1.writeGadgetItemConfig val.item written.2
  else (written.1.disableGadgetItemConfig val.item, written.2)

/-- The items are written in their order. -/
def writeGadgetConfig : UsbGadgetTransaction :=
  let made := tx.mkdirAll "gadget" tx.kvmGadgetPath "create kvm gadget path"
    [.path tx.configC1Path]
  (made.1.orderedConfigItems.foldl writeItem (made.1, [.path made.1.kvmGadgetPath])).1.writeUDC

/-- The change that removes the gadget from its controller. -/
def unbindChange (ignoreUnbindError : Bool) : RequestedFileChange where
  path := tx.dwc3Path ++ [file "unbind"]
  expectedState := .fileWrite
  expectedContent := bytes tx.udc
  description := "unbind UDC"
  dependsOn := [.named "udc"]
  ignoreErrors := ignoreUnbindError

/-- The change that binds the gadget to its controller. -/
def bindChange : RequestedFileChange where
  path := tx.dwc3Path ++ [file "bind"]
  expectedState := .fileWrite
  expectedContent := bytes tx.udc
  description := "bind UDC"
  dependsOn := [.path (tx.dwc3Path ++ [file "unbind"])]

/-- The key of the change that unbinds the controller. -/
def unbindKey : ChangeKey :=
  .path (tx.dwc3Path ++ [file "unbind"])

/-- The key of the change that binds it. -/
def bindKey : ChangeKey :=
  .path (tx.dwc3Path ++ [file "bind"])

/-- The controller is unbound and bound again. -/
def rebindUsb (ignoreUnbindError : Bool) : UsbGadgetTransaction :=
  ((tx.addFileChange "udc" (tx.unbindChange ignoreUnbindError)).1.addFileChange "udc"
    tx.bindChange).1

/-- The change set that is to be applied. Without a linked item there is no change that orders
the links, and `none` stands for the fault. -/
def commit : Option (List RequestedFileChange) :=
  tx.reorderSymlinkChanges.map fun reorder =>
    (tx.addFileChange "gadget-finalize" reorder).1.changes

/-- The change set that configures the gadget, and resets the bus if that is asked for. -/
def configureUsbGadget (resetUsb : Bool) : Option (List RequestedFileChange) :=
  let written := tx.mountConfigFS.createConfigPath.writeGadgetConfig
  (if resetUsb then written.rebindUsb true else written).commit

end UsbGadgetTransaction

end JetKvm.UsbPlan

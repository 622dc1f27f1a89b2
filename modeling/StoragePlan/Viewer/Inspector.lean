import StoragePlan.Viewer.Frame
import StoragePlan.Tree.Resize

/-!
# The inspector

The panel about the selected device: what it is, the actions that can be scheduled on it, and the
actions already registered for it.
-/

namespace StoragePlan.Viewer

/-- The word for a truth value. -/
def yesNo (b : Bool) : String := if b then "yes" else "no"

/-- What a device is, line by line. -/
def deviceLines (t : DeviceTree) (device : Device) : List String :=
  let target := if device.targetSize ≠ 0 then sizeText device.targetSize else "-"
  [ shown device.name ++ " (" ++ device.kind.label ++ ")",
    "In tree: " ++ yesNo (t.contains device.id) ++ "  Exists: " ++ yesNo device.onMedia
      ++ "  Leaf: " ++ yesNo (t.isLeaf device.id),
    "Size: " ++ sizeText device.currentSize ++ "  Target: " ++ target ]

/-- What a format is, line by line. -/
def formatLines (format : Format) : List String :=
  let typeName := if format.kind = .blank then "none" else shown format.typeName
  let mount := if format.mountPoint = "" then [] else ["Mount: " ++ shown format.mountPoint]
  ("Format: " ++ typeName ++ " [" ++ format.kind.label ++ "]"
    ++ if format.onMedia then " on media" else "") :: mount

/-- An action on one line: its name and what it does. -/
def actionLine (s : Session) (a : Action) : String :=
  shown a.displayId ++ " " ++ shown (s.describe a.id)

/-- The format types that can be created from the inspector. -/
def offeredFormats : List String := ["ext4", "ext3", "xfs", "vfat", "swap", "lvmpv", "luks"]

/-- The number of bytes that the resize field asks for. -/
def bytesOfMib (mib : Int32) : ByteSize := mebibytes (UInt64.ofNat mib.toInt.toNat)

namespace Frame

/-- The buttons that destroy the device or what it holds. -/
def destroySection (g : Gesture) (device : Device) (f : Frame) : Frame :=
  let f := f.button g "Destroy Format" fun f =>
    f.schedule ("destroy format on " ++ device.name) (.destroyFormat device.id)
  f.button g "Destroy Device" fun f =>
    f.schedule ("destroy " ++ device.name) (.destroyDevice device.id)

/-- Take over the choice of a format type, if it is one of those offered. -/
def chooseFormat (g : Gesture) (f : Frame) : Frame :=
  match g.formatIndex with
  | some n =>
    if 0 ≤ n ∧ n < offeredFormats.length then
      f.setPanels fun panels => { panels with formatIndex := n.toNat }
    else f
  | none => f

/-- The choice of a format type and the button that creates such a format. -/
def formatSection (g : Gesture) (device : Device) (f : Frame) : Frame :=
  let f := f.chooseFormat g
  let typeName := offeredFormats[f.panels.formatIndex]?.getD ""
  (f.draw (.combo "##FormatType" typeName)).button g "Create Format" fun f =>
    f.call "new format" (fun s => s.newFormat typeName) fun format f =>
    f.schedule "create format" (.createFormat device.id format)

/-- The size field and the buttons that resize the device or what it holds.  The size is at least
one mebibyte. -/
def resizeSection (g : Gesture) (device : Device) (f : Frame) : Frame :=
  let typed := g.mib.getD f.panels.mib
  let f := (f.draw (.input "MiB" typed)).setPanels fun panels => { panels with mib := max 1 typed }
  let size := bytesOfMib f.panels.mib
  let f := f.button g "Resize Device" fun f =>
    f.schedule "resize device" (.resizeDevice device.id size)
  f.button g "Resize Format" fun f =>
    f.schedule "resize format" (.resizeFormat device.id size)

/-- The registered actions that concern the selected device. -/
def actionsSection (f : Frame) : Frame :=
  (f.draw (.disabled "Actions")).drawAll
    ((f.session.planWhere (some f.panels.selected)).map fun a => .bullet (actionLine f.session a))

/-- The inspector. -/
def inspector (g : Gesture) (f : Frame) : Frame :=
  match f.session.tree.device? f.panels.selected with
  | none => f.draw (.disabled "Click a device in the graph")
  | some device =>
    let t := f.session.tree
    let format := ((t.formatOf? device.id).map formatLines).getD []
    let f := f.drawAll ((deviceLines t device ++ format).map .text)
    let f := (f.draw (.disabled "Schedule")).destroySection g device
    ((f.formatSection g device).resizeSection g device).actionsSection

end Frame

end StoragePlan.Viewer

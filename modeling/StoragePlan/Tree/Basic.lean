import StoragePlan.Device
import StoragePlan.Format

/-!
# Device trees

Every device and every format of a session lives in the arenas of its tree for good.  Which devices
are *present* is kept apart, so that a plan can still refer to a device that it destroys, and it is
kept twice: the list `order` is gone through where the order of the devices matters, and the set
`presence` is asked whether a device is there.  The structure does not tie the two together; every
change that lets a device in or out writes both.

This module holds the look-ups; `Tree.Edit` makes the changes, `Tree.Graph` follows the edges from a
device to its parents, and `Tree.Resize` says which sizes are possible.
-/

namespace StoragePlan

/-- The devices and formats of a session, and which of the devices are present. -/
structure DeviceTree where
  ids : IdSource := {}
  devices : Arena Device := .empty
  formats : Arena Format := .empty
  /-- The present devices, in the order in which they were added. -/
  order : List ObjectId := []
  /-- The present devices again, to look them up. -/
  presence : IdSet := .empty

namespace DeviceTree

instance : Inhabited DeviceTree := ⟨{}⟩

/-- The stored device with this id, present or not. -/
def device? (t : DeviceTree) (id : ObjectId) : Option Device := t.devices.find? id

/-- The stored format with this id. -/
def format? (t : DeviceTree) (id : ObjectId) : Option Format := t.formats.find? id

/-- Whether a device is present. -/
def contains (t : DeviceTree) (id : ObjectId) : Bool := t.presence.contains id

/-- The present devices, in tree order. -/
def present (t : DeviceTree) : List Device := t.order.filterMap t.device?

theorem mem_present {t : DeviceTree} {device : Device} :
    device ∈ t.present ↔ device.id ∈ t.order ∧ t.device? device.id = some device := by
  unfold present
  rw [List.mem_filterMap]
  constructor
  · rintro ⟨d, hIn, hd⟩
    obtain rfl : device.id = d := Arena.id_of_find? hd
    exact ⟨hIn, hd⟩
  · rintro ⟨hIn, hd⟩
    exact ⟨device.id, hIn, hd⟩

/-- The first present device with this name. -/
def named? (t : DeviceTree) (name : String) : Option Device :=
  t.present.find? fun device => device.name == name

/-- The present devices of one kind, in tree order. -/
def ofKind (t : DeviceTree) (kind : DeviceKind) : List Device :=
  t.present.filter fun device => device.kind == kind

/-- The device with this id, if it is present. -/
def presentDevice? (t : DeviceTree) (id : ObjectId) : Option Device :=
  if t.contains id then t.device? id else none

/-- The format that a device carries. -/
def formatOf? (t : DeviceTree) (id : ObjectId) : Option Format :=
  (t.device? id).bind fun device => t.format? device.formatId

/-- The format that a device carries, unless it is blank. -/
def content? (t : DeviceTree) (id : ObjectId) : Option Format :=
  (t.formatOf? id).filter fun format => format.kind ≠ .blank

/-- The parents of a device; an unknown device has none. -/
def parentsOf (t : DeviceTree) (id : ObjectId) : List ObjectId :=
  ((t.device? id).map Device.parents).getD []

/-- The present devices that have this one among their parents, in tree order. -/
def children (t : DeviceTree) (id : ObjectId) : List ObjectId :=
  t.order.filter fun other => (t.parentsOf other).contains id

/-- Whether no present device has this one among its parents. -/
def isLeaf (t : DeviceTree) (id : ObjectId) : Bool := (t.children id).isEmpty

/-- The name of a device in texts. -/
def nameOf (t : DeviceTree) (id : ObjectId) : String :=
  ((t.device? id).map Device.name).getD "<missing>"

/-! ## Changes to what is stored -/

/-- Change a stored device in a way that keeps its id. -/
def modifyDevice (t : DeviceTree) (id : ObjectId) (change : Device → Device)
    (keeps : ∀ d, (change d).id = d.id) : DeviceTree :=
  { t with devices := t.devices.modify id change keeps }

/-- Change a stored format in a way that keeps its id. -/
def modifyFormat (t : DeviceTree) (id : ObjectId) (change : Format → Format)
    (keeps : ∀ f, (change f).id = f.id) : DeviceTree :=
  { t with formats := t.formats.modify id change keeps }

/-- Put another format on a device. -/
def setFormat (t : DeviceTree) (id format : ObjectId) : DeviceTree :=
  t.modifyDevice id (fun d => { d with formatId := format }) fun _ => rfl

/-- Set the size that a pending resize of a device asks for. -/
def setTarget (t : DeviceTree) (id : ObjectId) (size : ByteSize) : DeviceTree :=
  t.modifyDevice id (fun d => { d with targetSize := size }) fun _ => rfl

/-- Set the size that a pending resize of a format asks for. -/
def setFormatTarget (t : DeviceTree) (id : ObjectId) (size : ByteSize) : DeviceTree :=
  t.modifyFormat id (fun f => { f with targetSize := size }) fun _ => rfl

/-- Change what a device is built on. -/
def changeParents (t : DeviceTree) (id : ObjectId) (change : List ObjectId → List ObjectId) :
    DeviceTree :=
  t.modifyDevice id (fun d => { d with parents := change d.parents }) fun _ => rfl

theorem device?_modifyDevice (t : DeviceTree) (id : ObjectId) (change : Device → Device)
    (keeps : ∀ d, (change d).id = d.id) (other : ObjectId) :
    (t.modifyDevice id change keeps).device? other
      = (t.device? other).map fun d => if other = id then change d else d :=
  Arena.find?_modify t.devices id change keeps other

theorem format?_modifyFormat (t : DeviceTree) (id : ObjectId) (change : Format → Format)
    (keeps : ∀ f, (change f).id = f.id) (other : ObjectId) :
    (t.modifyFormat id change keeps).format? other
      = (t.format? other).map fun f => if other = id then change f else f :=
  Arena.find?_modify t.formats id change keeps other

end DeviceTree

end StoragePlan

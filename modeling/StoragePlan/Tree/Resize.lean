import StoragePlan.Tree.Basic

/-!
# Possible sizes

Which devices can be resized, and between which bounds.  A device is bounded by what it is built on
and by its content.
-/

namespace StoragePlan.DeviceTree

/-- Whether a device can be resized: it is there already, its kind resizes, and its content, if it
has any, is on the media and resizes too. -/
def canResize (t : DeviceTree) (id : ObjectId) : Bool :=
  match t.device? id with
  | none => false
  | some device =>
    device.onMedia && device.kind.resizes &&
      match t.content? id with
      | none => true
      | some format => format.onMedia && format.resizable

/-- The smallest size that a device can take. -/
def minSize (t : DeviceTree) (id : ObjectId) : ByteSize :=
  match t.content? id with
  | none => 1
  | some format => max 1 format.minSize

/-- What a device offers to the devices built on it: its size, or for a volume group of no size of
its own the sum over its members. -/
def capacity (t : DeviceTree) (id : ObjectId) : ByteSize :=
  match t.device? id with
  | none => 0
  | some device =>
    if device.kind ≠ .volumeGroup ∨ device.currentSize ≠ 0 then device.size
    else ((device.parents.filterMap t.device?).map Device.size).foldl (· + ·) 0

/-- The largest size that a device can take. -/
def maxSize (t : DeviceTree) (id : ObjectId) : ByteSize :=
  match t.device? id with
  | none => 0
  | some device =>
    let room :=
      match device.kind.resizes, device.parents.head? with
      | true, some parent => t.capacity parent
      | _, _ => 0xFFFFFFFFFFFFFFFF
    match t.content? id with
    | none => room
    | some format => if format.maxSize = 0 then room else min room format.maxSize

/-- The size of the format on a device: its own if it has one, else the device's. -/
def contentSize (t : DeviceTree) (id : ObjectId) : ByteSize :=
  let deviceSize := ((t.device? id).map Device.currentSize).getD 0
  match t.formatOf? id with
  | none => deviceSize
  | some format => if format.currentSize ≠ 0 then format.currentSize else deviceSize

end StoragePlan.DeviceTree

import StoragePlan.Tree.Basic
import StoragePlan.Refusal

/-!
# Changes to a device tree

New devices and formats, putting a device into the tree and taking it out, and values written
straight into what is stored.  A refused change leaves the tree as it was.
-/

namespace StoragePlan.DeviceTree

/-! ## New formats and devices -/

/-- Store a new format; a format whose id is taken is dropped. -/
def storeFormat (t : DeviceTree) (type : FormatType) (mountPoint : String) (onMedia : Bool) :
    ObjectId × DeviceTree :=
  let (id, ids) := t.ids.take
  (id, { t with ids, formats := t.formats.insert (.ofType type id mountPoint onMedia) })

/-- Make a format of a named type. -/
def newFormat (t : DeviceTree) (typeName : String) (mountPoint : String) (onMedia : Bool) :
    Except Refusal (ObjectId × DeviceTree) :=
  match FormatType.named? typeName with
  | none => .error (.formatTypeUnknown typeName)
  | some type => .ok (t.storeFormat type mountPoint onMedia)

/-- Whether every parent is stored and listed once; the first one that is not decides. -/
def checkParents (t : DeviceTree) (seen : List ObjectId) : List ObjectId → Except Refusal Unit
  | [] => .ok ()
  | id :: rest =>
    if (t.device? id).isNone then .error .parentMissing
    else if id ∈ seen then .error .parentRepeated
    else t.checkParents (id :: seen) rest

/-- The name and the partition number of a device to be made, once its parents suit its kind. -/
def checkKind (t : DeviceTree) (draft : DeviceDraft) : Except Refusal (String × Int) :=
  match draft.kind with
  | .disk | .file =>
    if draft.parents = [] then .ok (draft.name, 0) else .error .parentsNotTaken
  | .partition =>
    if draft.parents.length ≠ 1 then .error .partitionParent
    else match partitionNumber? draft.name with
      | none => .error .partitionNumber
      | some number => .ok (draft.name, number)
  | .logicalVolume =>
    match draft.parents.map t.device? with
    | [some group] =>
      if group.kind = .volumeGroup then .ok (group.name ++ "-" ++ draft.name, 0)
      else .error .volumeGroupParent
    | _ => .error .volumeGroupParent
  | .mapper => if draft.parents.length = 1 then .ok (draft.name, 0) else .error .backingDevice
  | .raidArray | .volumeGroup => .ok (draft.name, 0)

/-- Store a new device that carries a blank format.  A device whose id is taken is dropped; the id
answered is that of the device stored last. -/
def storeDevice (t : DeviceTree) (draft : DeviceDraft) (name : String) (partitionNumber : Int) :
    ObjectId × DeviceTree :=
  let (formatId, t) := t.storeFormat .blank "" false
  let (id, ids) := t.ids.take
  let devices := t.devices.insert {
    id, name, partitionNumber, formatId
    kind := draft.kind
    currentSize := draft.size
    onMedia := draft.onMedia
    parents := draft.parents }
  ((devices.last?.map Device.id).getD 0, { t with ids, devices })

/-- Make a device from its description, without putting it into the tree. -/
def newDevice (t : DeviceTree) (draft : DeviceDraft) : Except Refusal (ObjectId × DeviceTree) := do
  if draft.name = "" then throw .emptyName
  t.checkParents [] draft.parents
  let (name, number) ← t.checkKind draft
  return t.storeDevice draft name number

/-! ## Presence -/

/-- Put a stored device into the tree.  Its parents must be present and its name free. -/
def add (t : DeviceTree) (id : ObjectId) : Except Refusal DeviceTree :=
  match t.device? id with
  | none => .error .deviceMissing
  | some device =>
    if t.contains id then .error (.nameInTree device.name)
    else if device.parents.all t.contains = false then .error (.parentOutsideTree device.name)
    else if (t.named? device.name).isSome then .error (.nameInUse device.name)
    else .ok { t with order := t.order ++ [id], presence := t.presence.insert id }

/-- Take a device out of the tree.  Unless forced, no present device may be built on it. -/
def remove (t : DeviceTree) (id : ObjectId) (force : Bool := false) : Except Refusal DeviceTree :=
  if t.contains id = false then .error .notInTree
  else if force = false ∧ t.isLeaf id = false then .error (.hasDependents (t.nameOf id))
  else .ok { t with order := t.order.filter (· ≠ id), presence := t.presence.erase id }

/-! ## Values written straight into what is stored -/

/-- Write values into a stored device; `false` when there is no such device. -/
def patchDevice (t : DeviceTree) (id : ObjectId) (patch : DevicePatch) : Bool × DeviceTree :=
  ((t.device? id).isSome, t.modifyDevice id patch.apply patch.id_apply)

/-- Write values into a stored format; `false` when there is no such format. -/
def patchFormat (t : DeviceTree) (id : ObjectId) (patch : FormatPatch) : Bool × DeviceTree :=
  ((t.format? id).isSome, t.modifyFormat id patch.apply patch.id_apply)

end StoragePlan.DeviceTree

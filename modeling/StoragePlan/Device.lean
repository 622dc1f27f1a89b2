import StoragePlan.Arena
import StoragePlan.Size

/-!
# Devices

A device is a storage object: a disk, a partition, an array, a mapping, a volume group, a logical
volume or a file.  Its parents are what it is built on: the disk of a partition, the volume group of
a logical volume, the members of an array or a volume group, the device behind a mapping.
-/

namespace StoragePlan

/-- What a device is. -/
inductive DeviceKind where
  | disk
  | partition
  | raidArray
  /-- A device-mapper device, such as an opened encrypted one. -/
  | mapper
  | volumeGroup
  | logicalVolume
  | file
deriving DecidableEq, Repr, Inhabited

namespace DeviceKind

/-- Every kind, in order. -/
def all : List DeviceKind :=
  [disk, partition, raidArray, mapper, volumeGroup, logicalVolume, file]

/-- The word that names a kind. -/
def label : DeviceKind → String
  | disk => "disk"
  | partition => "partition"
  | raidArray => "mdarray"
  | mapper => "dm"
  | volumeGroup => "lvmvg"
  | logicalVolume => "lvmlv"
  | file => "file"

/-- The word for the kind with this number. -/
def labelOfNumber (n : Nat) : String := (all[n]?.map label).getD "unknown"

/-- The kind that a word names. -/
def ofLabel? (word : String) : Option DeviceKind := all.find? fun kind => kind.label == word

/-- Whether devices of this kind can be grown and shrunk; they are also the kinds bounded by what
they are built on. -/
def resizes : DeviceKind → Bool
  | partition | mapper | logicalVolume => true
  | disk | raidArray | volumeGroup | file => false

/-- The words tell the kinds apart. -/
theorem ofLabel?_label (kind : DeviceKind) : ofLabel? kind.label = some kind := by
  cases kind <;> decide

end DeviceKind

/-- A storage object. -/
structure Device where
  id : ObjectId
  name : String
  kind : DeviceKind
  /-- The size on the media, or the size asked for while the device is only proposed. -/
  currentSize : ByteSize
  /-- The size that a pending resize asks for; `0` when there is none. -/
  targetSize : ByteSize := 0
  /-- Whether the device is already there, rather than only proposed. -/
  onMedia : Bool
  parents : List ObjectId
  formatId : ObjectId
  /-- The place of a partition in its table; `0` for any other kind of device. -/
  partitionNumber : Int := 0
deriving DecidableEq, Repr, Inhabited

namespace Device

instance : Identified Device := ⟨Device.id⟩

/-- The size of a device once a pending resize is done. -/
def size (device : Device) : ByteSize :=
  if device.onMedia ∧ device.targetSize ≠ 0 then device.targetSize else device.currentSize

end Device

/-- A description of a device to be made. -/
structure DeviceDraft where
  name : String
  kind : DeviceKind
  size : ByteSize := 0
  parents : List ObjectId := []
  onMedia : Bool := false
deriving DecidableEq, Repr, Inhabited

/-- Values written straight into a stored device; a field left out stays as it is. -/
structure DevicePatch where
  name : Option String := none
  kind : Option DeviceKind := none
  currentSize : Option ByteSize := none
  targetSize : Option ByteSize := none
  onMedia : Option Bool := none
  parents : Option (List ObjectId) := none
  formatId : Option ObjectId := none
  partitionNumber : Option Int := none
deriving DecidableEq, Repr, Inhabited

/-- A device with the given values written into it. -/
def DevicePatch.apply (patch : DevicePatch) (device : Device) : Device :=
  { device with
    name := patch.name.getD device.name
    kind := patch.kind.getD device.kind
    currentSize := patch.currentSize.getD device.currentSize
    targetSize := patch.targetSize.getD device.targetSize
    onMedia := patch.onMedia.getD device.onMedia
    parents := patch.parents.getD device.parents
    formatId := patch.formatId.getD device.formatId
    partitionNumber := patch.partitionNumber.getD device.partitionNumber }

/-- Values written into a device do not change its id. -/
theorem DevicePatch.id_apply (patch : DevicePatch) (device : Device) :
    (patch.apply device).id = device.id := rfl

/-! ## Partition numbers -/

/-- The digits at the end of a name. -/
def trailingDigits (name : String) : List Char :=
  (name.toList.reverse.takeWhile Char.isDigit).reverse

/-- The largest partition number. -/
def maxPartitionNumber : Nat := 2147483647

/-- The number at the end of a partition's name: the value of all its trailing digits, which must
lie between one and the largest partition number. -/
def partitionNumber? (name : String) : Option Nat :=
  let number := Nat.ofDigitChars 10 (trailingDigits name) 0
  if 1 ≤ number ∧ number ≤ maxPartitionNumber then some number else none

example : partitionNumber? "sda012" = some 12 := by decide +kernel
example : partitionNumber? "sda0" = none := by decide +kernel
example : partitionNumber? "p2147483648" = none := by decide +kernel

end StoragePlan

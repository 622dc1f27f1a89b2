import StoragePlan.Viewer.Frame

/-!
# Laying out an empty disk

On the first disk that nothing stands on: a partition over the disk, a volume group over it, and a
logical volume with a filesystem.  Each step is a call of its own; the first one that is refused
ends the chain, and what was done before it stays.
-/

namespace StoragePlan.Viewer

/-- The first present disk that nothing stands on. -/
def emptyDisk? (t : DeviceTree) : Option Device :=
  (t.ofKind .disk).find? fun disk => t.isLeaf disk.id

/-- The partition laid out on a disk: all of it but one mebibyte. -/
def autopartPartition (disk : Device) : DeviceDraft where
  name := disk.name ++ "1"
  kind := .partition
  size := disk.currentSize - mebibytes 1
  parents := [disk.id]

/-- The volume group laid out over a partition. -/
def autopartGroup (serial : Nat) (partition : ObjectId) : DeviceDraft where
  name := "Group" ++ serial.repr
  kind := .volumeGroup
  parents := [partition]

/-- The logical volume laid out in a volume group: half of the disk. -/
def autopartVolume (disk : Device) (group : ObjectId) : DeviceDraft where
  name := "lv_data"
  kind := .logicalVolume
  size := disk.currentSize / 2
  parents := [group]

namespace Frame

/-- Lay out a volume with a filesystem in a volume group. -/
def autopartFilesystem (serial : Nat) (volume : ObjectId) (f : Frame) : Frame :=
  f.call "new ext4 format" (fun s => s.newFormat "ext4" ("/data" ++ serial.repr)) fun format f =>
  f.schedule "create filesystem" (.createFormat volume format)

/-- Lay out a volume group over a partition, and go on with its volume. -/
def autopartVolumes (disk : Device) (serial : Nat) (partition : ObjectId) (f : Frame) : Frame :=
  f.call "new volume group" (fun s => s.newDevice (autopartGroup serial partition)) fun group f =>
  f.call "create volume group" (fun s => s.schedule (.createDevice group)) fun _ f =>
  f.call "new logical volume" (fun s => s.newDevice (autopartVolume disk group)) fun volume f =>
  f.call "create logical volume" (fun s => s.schedule (.createDevice volume)) fun _ f =>
  f.autopartFilesystem serial volume

/-- Lay out a disk. -/
def autopartOn (disk : Device) (serial : Nat) (f : Frame) : Frame :=
  let draft := autopartPartition disk
  f.call ("new partition " ++ draft.name) (fun s => s.newDevice draft) fun partition f =>
  f.call "create partition" (fun s => s.schedule (.createDevice partition)) fun _ f =>
  f.call "new lvmpv format" (fun s => s.newFormat "lvmpv") fun format f =>
  f.call "create pv" (fun s => s.schedule (.createFormat partition format)) fun _ f =>
  f.autopartVolumes disk serial partition

/-- Lay out the first empty disk. -/
def autopart (f : Frame) : Frame :=
  match emptyDisk? f.session.tree with
  | none =>
    f.setPanels fun panels =>
      { panels with lastError := "autopart: no empty disk left" }.note "[error] autopart failed"
  | some disk =>
    let serial := f.panels.autopartSerial + 1
    (f.setPanels fun panels => { panels with autopartSerial := serial }).autopartOn disk serial

end Frame

end StoragePlan.Viewer

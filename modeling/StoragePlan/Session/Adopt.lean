import StoragePlan.Session.Basic

/-!
# The starting state

What is on the machine before anything is planned: devices that are there already, with the formats
they carry, put straight into the tree.
-/

namespace StoragePlan

/-- Put a format of a named type that is there already on a stored device.  The empty name leaves
the device with the blank format that it has. -/
def DeviceTree.adoptFormat (t : DeviceTree) (id : ObjectId) (typeName mountPoint : String) :
    Except Refusal DeviceTree :=
  if typeName = "" then .ok t
  else (t.newFormat typeName mountPoint true).map fun (format, t) =>
    t.setFormat id format

namespace Session

/-- Take in a device that is there already, carrying a format of a named type.  The device is stored
before its format and its place in the tree are checked, and its id is answered even when one of
these is refused. -/
def adoptDevice (s : Session) (draft : DeviceDraft) (typeName mountPoint : String) :
    Answer ObjectId :=
  match s.tree.newDevice { draft with onMedia := true } with
  | .error cause => (.refused cause, s)
  | .ok (id, bare) =>
    match bare.adoptFormat id typeName mountPoint with
    | .error cause => ({ value := id, refusal := some cause }, { s with tree := bare })
    | .ok formatted =>
      match formatted.add id with
      | .error cause => ({ value := id, refusal := some cause }, { s with tree := formatted })
      | .ok tree => ({ value := id, changes := { created := [id] } }, { s with tree })

/-! ## A layout for demonstrations -/

/-- Take in a disk of 100 GiB with a partition table. -/
def demoDisk (s : Session) (name : String) : Answer ObjectId :=
  s.adoptDevice { name, kind := .disk, size := gibibytes 100 } "disklabel" ""

/-- Take in a partition. -/
def demoPartition (s : Session) (name : String) (disk : ObjectId) (size : ByteSize)
    (typeName mountPoint : String) : Answer ObjectId :=
  s.adoptDevice { name, kind := .partition, size, parents := [disk] } typeName mountPoint

/-- Take in a logical volume. -/
def demoVolume (s : Session) (name : String) (group : ObjectId) (size : ByteSize)
    (typeName mountPoint : String) : Answer ObjectId :=
  s.adoptDevice { name, kind := .logicalVolume, size, parents := [group] } typeName mountPoint

/-- Take in the volume group of the layout over two partitions, and its volumes.  The id answered is
that of the volume group. -/
def demoGroup (s : Session) (members : List ObjectId) : Answer ObjectId :=
  Answer.andThen (s.adoptDevice { name := "VolGroup", kind := .volumeGroup, parents := members }
    "" "") fun group s =>
  Answer.andThen (s.demoVolume "lv_root" group (gibibytes 160) "ext4" "/") fun _ s =>
  Answer.andThen (s.demoVolume "lv_swap" group (mebibytes 4000) "swap" "") fun swap s =>
    ({ value := group, changes := { created := [swap] } },
      s.record .info .populate 0 ("demo layout: " ++ s.tree.order.length.repr ++ " devices"))

/-- Take in the whole layout: four disks, a boot partition, and a volume group over a partition of
the first disk and one of the second.  Both partitions are taken in before either is checked. -/
def adoptDemo (s : Session) : Answer ObjectId :=
  Answer.andThen (s.demoDisk "sda") fun sda s =>
  Answer.andThen (s.demoDisk "sdb") fun sdb s =>
  Answer.andThen (s.demoDisk "sdc") fun _ s =>
  Answer.andThen (s.demoDisk "sdd") fun _ s =>
  Answer.andThen (s.demoPartition "sda1" sda (mebibytes 500) "ext4" "/boot") fun _ s =>
    let (sda2, s) := s.demoPartition "sda2" sda (mebibytes 101888) "lvmpv" ""
    let (sdb1, s) := s.demoPartition "sdb1" sdb (mebibytes 102399) "lvmpv" ""
    if sda2.ok = false then (sda2, s)
    else if sdb1.ok = false then (sdb1, s)
    else s.demoGroup [sda2.value, sdb1.value]

end Session

end StoragePlan

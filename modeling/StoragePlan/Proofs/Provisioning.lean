import StoragePlan.Proofs.Creation

/-!
# Laying out an empty disk

The viewer lays out a disk by ten calls, each of which is made only when those before it succeeded.
They come in pairs: a device is made and its creation is scheduled (`Frame.create`), or a format is
made and put on a device (`Frame.furnish`).

* `create_cases`, `furnish_eq`: what becomes of a pair of calls.
* `autopartOn_cases`: **the chain lays out the whole disk or ends with an error**, and it ends with
  one only when a name for what is to be made is not free.
* `autopart_of_emptyDisk`: the same of the button, on the first empty disk.
-/

namespace StoragePlan.Viewer

open Session

variable {n : Nat}

/-! ## Chains of calls -/

namespace PanelState

theorem lastError_report_ok (panels : PanelState) (what : String) {refusal : Option Refusal}
    (h : refusal.isNone = true) : (panels.report what refusal).lastError = "" := by
  rw [Option.isNone_iff_eq_none.mp h]
  rfl

theorem lastError_report_refused (panels : PanelState) (what : String) {refusal : Option Refusal}
    (h : refusal.isNone = false) : (panels.report what refusal).lastError ≠ "" := by
  obtain ⟨cause, rfl⟩ := Option.isSome_iff_exists.mp (by simpa using h)
  intro hEmpty
  have hLength := congrArg String.length hEmpty
  simp [report, note] at hLength

end PanelState

namespace Frame

variable {f : Frame}

/-- A call that succeeds is reported, and the chain goes on. -/
theorem call_of_ok {α : Type} (what : String) (make : Session → Answer α)
    (next : α → Frame → Frame) (h : (make f.session).1.ok = true) :
    ∃ f', f.call what make next = next (make f.session).1.value f' ∧
      f'.session = (make f.session).2 ∧ f'.panels.lastError = "" := by
  refine ⟨{ f with
    session := (make f.session).2
    panels := f.panels.report what (make f.session).1.refusal }, ?_, rfl,
    PanelState.lastError_report_ok _ _ h⟩
  unfold call
  dsimp only
  rw [if_pos h]

/-- A call that is refused ends the chain with an error. -/
theorem call_of_refused {α : Type} (what : String) (make : Session → Answer α)
    (next : α → Frame → Frame) (h : (make f.session).1.ok = false) :
    (f.call what make next).panels.lastError ≠ "" := by
  unfold call
  dsimp only
  rw [if_neg (by rw [h]; decide)]
  exact PanelState.lastError_report_refused _ _ h

/-- Make a device and schedule its creation. -/
def create (what what' : String) (draft : DeviceDraft) (next : ObjectId → Frame → Frame)
    (f : Frame) : Frame :=
  f.call what (fun s => s.newDevice draft) fun id f =>
  f.call what' (fun s => s.schedule (.createDevice id)) fun _ f => next id f

/-- Make a format and schedule that it is put on a device. -/
def furnish (what what' : String) (typeName mountPoint : String) (device : ObjectId)
    (next : Frame → Frame) (f : Frame) : Frame :=
  f.call what (fun s => s.newFormat typeName mountPoint) fun format f =>
  f.call what' (fun s => s.schedule (.createFormat device format)) fun _ f => next f

/-- **A device is created, or the chain ends with an error** because the draft does not fit. -/
theorem create_cases (draft : DeviceDraft) (hMedia : draft.onMedia = false)
    (hRoom : f.session.Room (n + 3)) (what what' : String) (next : ObjectId → Frame → Frame) :
    (∃ id f', f.create what what' draft next = next id f' ∧ f'.panels.lastError = "" ∧
      f.session.Creates draft n id f'.session) ∨
    ((f.create what what' draft next).panels.lastError ≠ "" ∧
      (f.session.tree.Filed → ∀ name, ¬ f.session.tree.Fits draft name)) := by
  cases hNew : f.session.tree.newDevice draft with
  | error cause =>
    have hMade : f.session.newDevice draft = (.refused cause, f.session) := by
      rw [Session.newDevice, hNew]
      rfl
    refine Or.inr ⟨call_of_refused _ _ _ (by rw [hMade]; rfl), fun _ name hFits => ?_⟩
    obtain ⟨number, hOk⟩ := hFits.newDevice
    cases hNew.symm.trans hOk
  | ok made =>
    have hMade : f.session.newDevice draft
        = ({ value := made.1 }, { f.session with tree := made.2 }) := by
      rw [Session.newDevice, hNew]
      rfl
    obtain ⟨f₁, hFirst, hSession, _⟩ := call_of_ok (f := f) what (fun s => s.newDevice draft)
      (fun id f => f.call what' (fun s => s.schedule (.createDevice id)) fun _ f => next id f)
      (by rw [hMade]; rfl)
    rw [hMade] at hFirst hSession
    unfold create
    rw [hFirst]
    rcases creates_of_newDevice hMedia hRoom hNew with ⟨hOk, hCreates⟩ | ⟨hRefused, hFits⟩
    · obtain ⟨f₂, hSecond, hAfter, hError⟩ := call_of_ok (f := f₁) what'
        (fun s => s.schedule (.createDevice made.1)) (fun _ f => next made.1 f)
        (by rw [hSession]; exact hOk)
      refine Or.inl ⟨made.1, f₂, hSecond, hError, ?_⟩
      rw [hAfter, hSession]
      exact hCreates
    · exact Or.inr ⟨call_of_refused _ _ _ (by rw [hSession]; exact hRefused), hFits⟩

/-- **A format of a known type is put on a present device.** -/
theorem furnish_eq {type : FormatType} {typeName : String} {device : ObjectId}
    (hType : FormatType.named? typeName = some type)
    (hStored : (f.session.tree.device? device).isSome)
    (hPresent : f.session.tree.contains device = true) (hRoom : f.session.Room (n + 2))
    (what what' mountPoint : String) (next : Frame → Frame) :
    ∃ format f', f.furnish what what' typeName mountPoint device next = next f' ∧
      f'.panels.lastError = "" ∧
      f.session.Gains [.createFormat device format] [] n f'.session ∧
      f'.session.tree.format? format = some (.ofType type format mountPoint false) := by
  obtain ⟨hGains, hFormat⟩ := gains_newFormat type mountPoint false hRoom
  have hMade : f.session.newFormat typeName mountPoint
      = ({ value := f.session.tree.ids.next }, { f.session with
          tree := (f.session.tree.storeFormat type mountPoint false).2 }) := by
    simp only [Session.newFormat, DeviceTree.newFormat, hType]
    rfl
  obtain ⟨f₁, hFirst, hSession, _⟩ := call_of_ok (f := f) what
    (fun s => s.newFormat typeName mountPoint)
    (fun format f => f.call what' (fun s => s.schedule (.createFormat device format))
      fun _ f => next f) (by rw [hMade]; rfl)
  rw [hMade] at hFirst hSession
  obtain ⟨stored, hd⟩ := Option.isSome_iff_exists.mp hStored
  obtain rfl : stored.id = device := Arena.id_of_find? hd
  obtain ⟨hOk, hScheduled⟩ := gains_createFormat (s := f₁.session) (n := n)
    (by rw [hSession]; exact hd) (by rw [hSession]; exact hPresent)
    (by rw [hSession]; exact Option.isSome_of_eq_some hFormat) (by rw [hSession]; exact hGains.room)
  obtain ⟨f₂, hSecond, hAfter, hError⟩ := call_of_ok (f := f₁) what'
    (fun s => s.schedule (.createFormat stored.id f.session.tree.ids.next)) (fun _ f => next f) hOk
  unfold furnish
  rw [hFirst, hSecond]
  rw [hSession] at hScheduled hAfter
  refine ⟨f.session.tree.ids.next, f₂, rfl, hError, ?_, ?_⟩
  · rw [hAfter]
    exact hGains.trans hScheduled
  · rw [hAfter]
    exact hScheduled.format? _ _ hFormat

/-! ## The whole chain -/

/-- The name of the volume group with a serial number. -/
def groupName (serial : Nat) : String := "Group" ++ serial.repr

/-- The name of the logical volume in the group with a serial number. -/
def volumeName (serial : Nat) : String := groupName serial ++ "-" ++ "lv_data"

theorem groupName_ne_volumeName (serial : Nat) : groupName serial ≠ volumeName serial := by
  intro h
  have hLength := congrArg String.length h
  have hSuffix : ("-" ++ "lv_data").length = 8 := rfl
  rw [volumeName, String.append_assoc, String.length_append, hSuffix] at hLength
  omega

/-- The names for what is laid out on a disk are free, and the partition gets a number. -/
structure Vacant (t : DeviceTree) (disk : Device) (serial : Nat) : Prop where
  number : (partitionNumber? (disk.name ++ "1")).isSome
  partition : t.named? (disk.name ++ "1") = none
  group : t.named? (groupName serial) = none
  volume : t.named? (volumeName serial) = none
  apart : disk.name ++ "1" ≠ groupName serial ∧ disk.name ++ "1" ≠ volumeName serial

/-- What a disk is laid out with. -/
structure DiskLayout where
  partition : ObjectId
  physicalVolume : ObjectId
  group : ObjectId
  volume : ObjectId
  filesystem : ObjectId

/-- The proposals by which a disk is laid out, in order. -/
def DiskLayout.proposals (l : DiskLayout) : List Proposal :=
  [.createDevice l.partition, .createFormat l.partition l.physicalVolume, .createDevice l.group,
    .createDevice l.volume, .createFormat l.volume l.filesystem]

/-- The devices that a disk is laid out with, in order. -/
def DiskLayout.devices (l : DiskLayout) : List ObjectId := [l.partition, l.group, l.volume]

/-- A disk was laid out: the five proposals were planned, and the devices and formats that they are
about are new and as they should be. -/
structure LaysOut (s : Session) (disk : Device) (serial : Nat) (l : DiskLayout) (n : Nat)
    (s' : Session) : Prop where
  gains : s.Gains l.proposals l.devices n s'
  new : ∀ d ∈ l.devices, s.tree.device? d = none
  partition : s'.tree.Made l.partition (autopartPartition disk) (disk.name ++ "1")
  group : s'.tree.Made l.group (autopartGroup serial l.partition) (groupName serial)
  volume : s'.tree.Made l.volume (autopartVolume disk l.group) (volumeName serial)
  physicalVolume : s'.tree.format? l.physicalVolume
    = some (.ofType { name := "lvmpv", kind := .physicalVolume } l.physicalVolume "" false)
  filesystem : s'.tree.format? l.filesystem
    = some (.ofType (.extended "ext4") l.filesystem ("/data" ++ serial.repr) false)

/-- The volume group and what is in it were laid out over a partition. -/
structure LaysOutVolumes (s : Session) (disk : Device) (serial : Nat)
    (partition group volume filesystem : ObjectId) (n : Nat) (s' : Session) : Prop where
  gains : s.Gains [.createDevice group, .createDevice volume, .createFormat volume filesystem]
    [group, volume] n s'
  new : s.tree.device? group = none ∧ s.tree.device? volume = none
  madeGroup : s'.tree.Made group (autopartGroup serial partition) (groupName serial)
  madeVolume : s'.tree.Made volume (autopartVolume disk group) (volumeName serial)
  format : s'.tree.format? filesystem
    = some (.ofType (.extended "ext4") filesystem ("/data" ++ serial.repr) false)

section

variable {t : DeviceTree} {disk : Device} {serial : Nat} {partition group : ObjectId}

theorem fits_partition (hStored : (t.device? disk.id).isSome) (hPresent : disk.id ∈ t.order)
    (hVacant : Vacant t disk serial) : t.Fits (autopartPartition disk) (disk.name ++ "1") where
  named := fun h => by
    have hLength := congrArg String.length h
    simp [autopartPartition] at hLength
  distinct := DeviceTree.checkParents_singleton hStored
  kind := by
    obtain ⟨number, hNumber⟩ := Option.isSome_iff_exists.mp hVacant.number
    refine ⟨number, ?_⟩
    simp [DeviceTree.checkKind, autopartPartition, hNumber]
  parents := List.forall_mem_singleton.mpr hPresent
  free := hVacant.partition

theorem fits_group (hStored : (t.device? partition).isSome) (hPresent : partition ∈ t.order)
    (hFree : t.named? (groupName serial) = none) :
    t.Fits (autopartGroup serial partition) (groupName serial) where
  named := fun h => by
    have hLength := congrArg String.length h
    simp [autopartGroup] at hLength
  distinct := DeviceTree.checkParents_singleton hStored
  kind := ⟨0, rfl⟩
  parents := List.forall_mem_singleton.mpr hPresent
  free := hFree

theorem fits_volume (hMade : t.Made group (autopartGroup serial partition) (groupName serial))
    (hPresent : group ∈ t.order) (hFree : t.named? (volumeName serial) = none) :
    t.Fits (autopartVolume disk group) (volumeName serial) where
  named := (by decide : "lv_data" ≠ "")
  distinct := DeviceTree.checkParents_singleton hMade.stored
  kind := by
    obtain ⟨device, hd, hDevice⟩ := hMade
    refine ⟨0, ?_⟩
    have hKind : device.kind = .volumeGroup := hDevice.kind
    simp [DeviceTree.checkKind, autopartVolume, hd, hKind, hDevice.name, volumeName]
  parents := List.forall_mem_singleton.mpr hPresent
  free := hFree

end

/-- The volume group and what is in it are laid out over a present partition, or the chain ends with
an error because a name is not free. -/
theorem autopartVolumes_cases (disk : Device) (serial : Nat) {partition : ObjectId}
    (hStored : (f.session.tree.device? partition).isSome)
    (hPresent : partition ∈ f.session.tree.order) (hRoom : f.session.Room (n + 8)) :
    let f' := f.autopartVolumes disk serial partition
    (f'.panels.lastError = "" ∧ ∃ group volume filesystem,
      LaysOutVolumes f.session disk serial partition group volume filesystem n f'.session) ∨
    (f'.panels.lastError ≠ "" ∧
      (f.session.tree.Filed →
        ¬ (f.session.tree.named? (groupName serial) = none ∧
          f.session.tree.named? (volumeName serial) = none))) := by
  intro f'
  have hChain : f' = f.create "new volume group" "create volume group"
      (autopartGroup serial partition) fun group f =>
      f.create "new logical volume" "create logical volume" (autopartVolume disk group)
        fun volume f => f.furnish "new ext4 format" "create filesystem" "ext4"
          ("/data" ++ serial.repr) volume fun f => f := rfl
  rw [hChain]
  rcases create_cases (f := f) (n := n + 5) (autopartGroup serial partition) rfl hRoom
      "new volume group" "create volume group" _ with
    ⟨group, f₁, hNext, _, hGroup⟩ | ⟨hError, hFits⟩
  case inr =>
    exact Or.inr ⟨hError, fun hFiled hFree =>
      hFits hFiled _ (fits_group hStored hPresent hFree.1)⟩
  obtain ⟨name, number, hKind, hMade⟩ := hGroup.made
  obtain rfl : name = groupName serial := DeviceTree.name_of_volumeGroup hKind rfl
  rw [hNext]
  have hGroupIn : group ∈ f₁.session.tree.order :=
    hGroup.gains.mem_order (Or.inr List.mem_cons_self)
  rcases create_cases (f := f₁) (n := n + 2) (autopartVolume disk group) rfl
      hGroup.gains.room "new logical volume" "create logical volume" _ with
    ⟨volume, f₂, hNext, _, hVolume⟩ | ⟨hError, hFits⟩
  case inr =>
    refine Or.inr ⟨hError, fun hFiled hFree => ?_⟩
    have hEntered : ∀ d ∈ [group], f₁.session.tree.nameOf d ≠ volumeName serial := by
      rw [List.forall_mem_singleton, hMade.nameOf]
      exact groupName_ne_volumeName serial
    have hStill := hGroup.gains.filed hFiled (List.forall_mem_singleton.mpr hMade.stored)
    have hVolumeFree := DeviceTree.named?_of_extends hGroup.gains.tree hFiled.stored
      hGroup.gains.order hFree.2 hEntered
    exact hFits hStill _ (fits_volume hMade hGroupIn hVolumeFree)
  obtain ⟨name, number, hKind, hMadeVolume⟩ := hVolume.made
  obtain rfl : name = volumeName serial := by
    obtain ⟨p, stored, hParents, hd, _, hName⟩ := DeviceTree.group_of_logicalVolume hKind rfl
    obtain ⟨device, hDevice, hFrom⟩ := hMade
    obtain rfl : group = p := List.cons.inj hParents |>.1
    obtain rfl := Option.some.inj (hDevice.symm.trans hd)
    rw [hName, hFrom.name]
    rfl
  rw [hNext]
  have hType : FormatType.named? "ext4" = some (.extended "ext4") := rfl
  obtain ⟨filesystem, f₃, hNext, hError, hFurnished, hFormat⟩ := furnish_eq (f := f₂) (n := n) hType
    hMadeVolume.stored
    ((hVolume.gains.contains _).mpr (Or.inr List.mem_cons_self)) hVolume.gains.room
    "new ext4 format" "create filesystem" ("/data" ++ serial.repr) fun f => f
  rw [hNext]
  have hGains := (hGroup.gains.trans hVolume.gains).trans hFurnished
  exact Or.inl ⟨hError, group, volume, filesystem, {
    gains := hGains
    new := ⟨hGroup.new, hGroup.gains.new hVolume.new⟩
    madeGroup := (hMade.extends hVolume.gains.tree).extends hFurnished.tree
    madeVolume := hMadeVolume.extends hFurnished.tree
    format := hFormat }⟩

/-- **The chain lays out the whole disk, or it ends with an error** because a name is not free or
the partition gets no number. -/
theorem autopartOn_cases {disk : Device} (serial : Nat)
    (hStored : (f.session.tree.device? disk.id).isSome)
    (hPresent : disk.id ∈ f.session.tree.order) (hRoom : f.session.Room (n + 13)) :
    let f' := f.autopartOn disk serial
    (f'.panels.lastError = "" ∧ ∃ l, LaysOut f.session disk serial l n f'.session) ∨
    (f'.panels.lastError ≠ "" ∧
      (f.session.tree.Filed → ¬ Vacant f.session.tree disk serial)) := by
  intro f'
  have hChain : f' = f.create ("new partition " ++ (autopartPartition disk).name)
      "create partition" (autopartPartition disk) fun partition f =>
      f.furnish "new lvmpv format" "create pv" "lvmpv" "" partition fun f =>
        f.autopartVolumes disk serial partition := rfl
  rw [hChain]
  rcases create_cases (f := f) (n := n + 10) (autopartPartition disk) rfl hRoom
      ("new partition " ++ (autopartPartition disk).name) "create partition" _ with
    ⟨partition, f₁, hNext, _, hCreated⟩ | ⟨hError, hFits⟩
  case inr =>
    exact Or.inr ⟨hError, fun hFiled hVacant =>
      hFits hFiled _ (fits_partition hStored hPresent hVacant)⟩
  obtain ⟨name, number, hKind, hMade⟩ := hCreated.made
  obtain rfl : name = disk.name ++ "1" := DeviceTree.name_of_partition hKind rfl
  rw [hNext]
  have hType : FormatType.named? "lvmpv" = some { name := "lvmpv", kind := .physicalVolume } := rfl
  obtain ⟨physicalVolume, f₂, hNext, _, hFurnished, hFormat⟩ := furnish_eq (f := f₁) (n := n + 8)
    hType hMade.stored
    ((hCreated.gains.contains _).mpr (Or.inr List.mem_cons_self)) hCreated.gains.room
    "new lvmpv format" "create pv" "" fun f => f.autopartVolumes disk serial partition
  rw [hNext]
  have hGains := hCreated.gains.trans hFurnished
  have hMade₂ := hMade.extends hFurnished.tree
  rcases autopartVolumes_cases (f := f₂) disk serial hMade₂.stored
      (hGains.mem_order (Or.inr List.mem_cons_self)) hGains.room with
    ⟨hError, group, volume, filesystem, hVolumes⟩ | ⟨hError, hFree⟩
  · refine Or.inl ⟨hError, ⟨partition, physicalVolume, group, volume, filesystem⟩, {
      gains := hGains.trans hVolumes.gains
      new := ?_
      partition := hMade₂.extends hVolumes.gains.tree
      group := hVolumes.madeGroup
      volume := hVolumes.madeVolume
      physicalVolume := hVolumes.gains.format? _ _ hFormat
      filesystem := hVolumes.format }⟩
    have hNew := And.intro (hGains.new hVolumes.new.1) (hGains.new hVolumes.new.2)
    simpa [DiskLayout.devices] using And.intro hCreated.new hNew
  · refine Or.inr ⟨hError, fun hFiled hVacant => ?_⟩
    have hStill := hGains.filed hFiled (List.forall_mem_singleton.mpr hMade₂.stored)
    have hFreeStill : ∀ name, f.session.tree.named? name = none → disk.name ++ "1" ≠ name →
        f₂.session.tree.named? name = none := by
      intro name hName hApart
      refine DeviceTree.named?_of_extends hGains.tree hFiled.stored hGains.order hName ?_
      rw [List.append_nil, List.forall_mem_singleton, hMade₂.nameOf]
      exact hApart
    exact hFree hStill ⟨hFreeStill _ hVacant.group hVacant.apart.1,
      hFreeStill _ hVacant.volume hVacant.apart.2⟩

/-- The empty disk is a stored disk that is present, and nothing stands on it. -/
theorem of_emptyDisk {t : DeviceTree} {disk : Device} (h : emptyDisk? t = some disk) :
    t.device? disk.id = some disk ∧ disk.id ∈ t.order ∧ disk.kind = .disk ∧
      t.isLeaf disk.id = true := by
  obtain ⟨hPresent, hKind⟩ := List.mem_filter.mp (List.mem_of_find?_eq_some h)
  obtain ⟨hIn, hd⟩ := DeviceTree.mem_present.mp hPresent
  unfold emptyDisk? at h
  exact ⟨hd, hIn, eq_of_beq hKind, by simpa using List.find?_some h⟩

theorem autopart_of_emptyDisk {disk : Device} (h : emptyDisk? f.session.tree = some disk)
    (hRoom : f.session.Room (n + 13)) :
    let serial := f.panels.autopartSerial + 1
    (f.autopart.panels.lastError = "" ∧
      ∃ l, LaysOut f.session disk serial l n f.autopart.session) ∨
    (f.autopart.panels.lastError ≠ "" ∧
      (f.session.tree.Filed → ¬ Vacant f.session.tree disk serial)) := by
  intro serial
  obtain ⟨hd, hPresent, _⟩ := of_emptyDisk h
  unfold autopart
  rw [h]
  exact autopartOn_cases (f := f.setPanels fun panels => { panels with autopartSerial := serial })
    serial (Option.isSome_of_eq_some hd) hPresent hRoom

end Frame

end StoragePlan.Viewer

import StoragePlan.Proofs.Provisioning

/-!
# Whether what is laid out fits the disk

The partition is the disk without one mebibyte and the logical volume is half of the disk.  Both are
computed in machine words, so that the partition of a disk below one mebibyte wraps and gets far
larger than the disk, and the half of a disk that is hardly larger than one mebibyte is more than
the partition leaves for the volume group.

* `reserved_le_iff`, `half_le_reserved_iff`: when the two differences wrap.
* `capacity_group`: a volume group that was laid out offers the size of its partition.
* `autopart_fits_iff`: **the partition fits exactly the disks of one mebibyte or more**, and the
  volume fits its group exactly when the disk is smaller than that or has at least two mebibytes but
  one byte.
-/

namespace StoragePlan.Viewer

/-! ## Sizes in machine words -/

theorem toNat_reserved (size : ByteSize) :
    (size - mebibytes 1).toNat
      = if 1048576 ≤ size.toNat then size.toNat - 1048576 else 2 ^ 64 + size.toNat - 1048576 := by
  have hUnit : (mebibytes 1).toNat = 1048576 := rfl
  have hWord := size.toNat_lt
  rw [UInt64.toNat_sub, hUnit]
  split <;> omega

/-- Taking off one mebibyte wraps exactly below one mebibyte. -/
theorem reserved_le_iff (size : ByteSize) :
    size - mebibytes 1 ≤ size ↔ mebibytes 1 ≤ size := by
  have hUnit : (mebibytes 1).toNat = 1048576 := rfl
  have hWord := size.toNat_lt
  rw [UInt64.le_iff_toNat_le, UInt64.le_iff_toNat_le, toNat_reserved, hUnit]
  split <;> omega

/-- Half of a size is at most what one mebibyte leaves of it when that wraps, or when one mebibyte
is at most the other half. -/
theorem half_le_reserved_iff (size : ByteSize) :
    size / 2 ≤ size - mebibytes 1 ↔ size < mebibytes 1 ∨ mebibytes 2 - 1 ≤ size := by
  have hUnit : (mebibytes 1).toNat = 1048576 := rfl
  have hTwo : (mebibytes 2 - 1).toNat = 2097151 := rfl
  have hHalf : (size / 2).toNat = size.toNat / 2 := UInt64.toNat_div size 2
  have hWord := size.toNat_lt
  rw [UInt64.le_iff_toNat_le, UInt64.le_iff_toNat_le, UInt64.lt_iff_toNat_lt, toNat_reserved, hHalf,
    hUnit, hTwo]
  split <;> omega

namespace Frame

/-! ## What was laid out -/

/-- A device that was only proposed has the size of its draft. -/
theorem size_of_made {device : Device} {draft : DeviceDraft} {name : String}
    (h : device.MadeFrom draft name) (hMedia : draft.onMedia = false) :
    device.size = draft.size := by
  have hProposed : device.onMedia = false := h.onMedia.trans hMedia
  rw [Device.size, if_neg (by simp [hProposed]), h.size]

/-- A volume group that was laid out over a partition offers the size of the partition. -/
theorem capacity_group {t : DeviceTree} {serial : Nat} {partition group : ObjectId}
    {draft : DeviceDraft} {name name' : String} (hMedia : draft.onMedia = false)
    (hPartition : t.Made partition draft name)
    (hGroup : t.Made group (autopartGroup serial partition) name') :
    t.capacity group = draft.size := by
  obtain ⟨base, hBase, hFrom⟩ := hPartition
  obtain ⟨device, hd, hMade⟩ := hGroup
  have hKind : device.kind = .volumeGroup := hMade.kind
  have hNone : device.currentSize = 0 := hMade.size
  have hParents : device.parents = [partition] := hMade.parents
  have hSum : ((device.parents.filterMap t.device?).map Device.size).foldl (· + ·) 0
      = 0 + draft.size := by
    rw [hParents, List.filterMap_cons, hBase, ← size_of_made hFrom hMedia]
    rfl
  rw [DeviceTree.capacity, hd]
  simp only [hKind, hNone, ne_eq, not_true_eq_false, or_self, if_false, hSum, UInt64.zero_add]

/-- **What is laid out fits the disk unless the disk is tiny.**  When the chain ends without an
error, the partition is no larger than the disk exactly when the disk has one mebibyte, and the
logical volume is no larger than what its group offers exactly when the disk has less than that, so
that the group wraps too, or at least two mebibytes but one byte. -/
theorem autopart_fits_iff (f : Frame) (hFresh : f.session.Fresh)
    (hRoom : f.session.tree.ids.next.toNat + 13 ≤ 2 ^ 64)
    (hOk : f.autopart.panels.lastError = "") :
    let t := f.autopart.session.tree
    ∃ (disk : Device) (l : DiskLayout) (partition volume : Device),
      emptyDisk? f.session.tree = some disk ∧
      LaysOut f.session disk (f.panels.autopartSerial + 1) l 0 f.autopart.session ∧
      t.device? l.partition = some partition ∧ t.device? l.volume = some volume ∧
      (partition.size ≤ disk.currentSize ↔ mebibytes 1 ≤ disk.currentSize) ∧
      (volume.size ≤ t.capacity l.group ↔
        disk.currentSize < mebibytes 1 ∨ mebibytes 2 - 1 ≤ disk.currentSize) := by
  intro t
  have hIds : f.session.Room (0 + 13) := fun _ => ⟨hFresh.next_ne_zero, hFresh.lt_next, hRoom⟩
  cases hDisk : emptyDisk? f.session.tree with
  | none =>
    unfold autopart at hOk
    rw [hDisk] at hOk
    exact absurd hOk (by decide : "autopart: no empty disk left" ≠ "")
  | some disk =>
    rcases autopart_of_emptyDisk hDisk hIds with ⟨_, l, hLaid⟩ | ⟨hError, _⟩
    · obtain ⟨partition, hPartition, hFromPartition⟩ := hLaid.partition
      obtain ⟨volume, hVolume, hFromVolume⟩ := hLaid.volume
      have hPartitionSize : partition.size = disk.currentSize - mebibytes 1 :=
        size_of_made hFromPartition rfl
      have hVolumeSize : volume.size = disk.currentSize / 2 := size_of_made hFromVolume rfl
      have hCapacity : t.capacity l.group = disk.currentSize - mebibytes 1 :=
        capacity_group rfl hLaid.partition hLaid.group
      refine ⟨disk, l, partition, volume, rfl, hLaid, hPartition, hVolume, ?_, ?_⟩
      · rw [hPartitionSize]
        exact reserved_le_iff disk.currentSize
      · rw [hVolumeSize, hCapacity]
        exact half_le_reserved_iff disk.currentSize
    · exact absurd hOk hError

/-- Disks of 100 GiB are laid out as they should be. -/
theorem autopart_fits_gibibytes :
    let s := ({} : Session).performAll [
      .adoptDevice { name := "sda", kind := .disk, size := gibibytes 100 } "" ""]
    let f : Frame := { session := s }
    let t := f.autopart.session.tree
    (s.Fresh ∧ s.tree.ids.next.toNat + 13 ≤ 2 ^ 64 ∧ f.autopart.panels.lastError = "") ∧
    ∃ (disk : Device) (l : DiskLayout) (partition volume : Device), emptyDisk? s.tree = some disk ∧
      disk.currentSize = gibibytes 100 ∧ t.device? l.partition = some partition ∧
      t.device? l.volume = some volume ∧ partition.size ≤ disk.currentSize ∧
      volume.size ≤ t.capacity l.group := by
  intro s f t
  have hFresh : s.Fresh := by decide +kernel
  have hRoom : s.tree.ids.next.toNat + 13 ≤ 2 ^ 64 := by decide +kernel
  have hOk : f.autopart.panels.lastError = "" := by decide +kernel
  obtain ⟨disk, l, partition, volume, hDisk, _, hPartition, hVolume, hFits, hHalf⟩ :=
    autopart_fits_iff f hFresh hRoom hOk
  have hSize : disk.currentSize = gibibytes 100 := by
    have hMap : (emptyDisk? s.tree).map Device.currentSize = some (gibibytes 100) := by
      decide +kernel
    have hMade : emptyDisk? s.tree = some disk := hDisk
    rw [hMade] at hMap
    exact Option.some.inj hMap
  refine ⟨⟨hFresh, hRoom, hOk⟩, disk, l, partition, volume, hDisk, hSize, hPartition, hVolume,
    hFits.mpr ?_, hHalf.mpr (Or.inr ?_)⟩
  · rw [hSize]
    decide
  · rw [hSize]
    decide

/-- On a disk of no size the partition is laid out with almost 2 ^ 64 bytes, and on one that is a
byte larger than a mebibyte the volume is far larger than its group. -/
theorem autopart_wraps_on_tiny_disk :
    let s : ByteSize → Session := fun size => ({} : Session).performAll [
      .adoptDevice { name := "sda", kind := .disk, size } "" ""]
    let f : ByteSize → Frame := fun size => Frame.autopart { session := s size }
    let t : ByteSize → DeviceTree := fun size => (f size).session.tree
    (emptyDisk? (s 0).tree).map Device.currentSize = some 0 ∧ (f 0).panels.lastError = "" ∧
    ((t 0).named? "sda1").map Device.size = some (0 - mebibytes 1) ∧
    (f (mebibytes 1 + 1)).panels.lastError = "" ∧
    ((t (mebibytes 1 + 1)).named? "Group1-lv_data").map Device.size = some 524288 ∧
    ((t (mebibytes 1 + 1)).named? "Group1").map (fun group =>
      (t (mebibytes 1 + 1)).capacity group.id) = some 1 := by
  intro s f t
  exact ⟨by decide +kernel, by decide +kernel, by decide +kernel, by decide +kernel,
    by decide +kernel, by decide +kernel⟩

end Frame

end StoragePlan.Viewer

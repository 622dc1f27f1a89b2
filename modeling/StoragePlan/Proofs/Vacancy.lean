import StoragePlan.Proofs.Picking
import StoragePlan.Proofs.Provisioning

/-!
# The viewer always finds room for a layout

The chain that lays out an empty disk takes nothing back when a call is refused, so it matters that
no call is.  Nothing is refused because every name that the chain uses is free: the disks are those
of the demonstration layout, a partition that has the name of a disk's first one stands on that
disk, and volume groups are numbered by a count that never goes back (`Lodged`).  What the panels
change of the stored devices touches none of this (`DeviceTree.lasting`).

* `lasting_offered`: every call of the panels keeps what lasts of the stored devices.
* `Lodged.vacant`: the names for a layout of an empty disk are free.
* `autopart_all_or_nothing`: **the button lays out a whole disk, or finds no empty one and changes
  nothing**.
-/

namespace StoragePlan

/-- What the panels never change of a device: all but its format, its target size and, for a volume
group, its members. -/
def Device.lasting (device : Device) : Device :=
  { device with
    formatId := 0
    targetSize := 0
    parents := if device.kind = .volumeGroup then [] else device.parents }

theorem Device.mem_parents_of_lasting {device : Device} {p : ObjectId}
    (h : p ∈ device.lasting.parents) : p ∈ device.parents := by
  unfold lasting at h
  dsimp only at h
  split at h
  · cases h
  · exact h

/-- What is outside of a slot lasts, and so does the slot unless it holds members. -/
theorem Device.lasting_outside {device : Device} {slot : Slot}
    (hGroup : ∀ c, slot = .members c → device.id = c → device.kind = .volumeGroup) :
    (device.outside slot).lasting = device.lasting := by
  cases slot with
  | presence | contentSize => rfl
  | content | size =>
    dsimp only [outside]
    split <;> rfl
  | members c =>
    dsimp only [outside]
    split
    · rename_i hid
      simp [lasting, hGroup c rfl hid]
    · rfl

/-- An action writes into the members of its container. -/
theorem Action.container_of_slot {a : Action} {c : ObjectId} (h : a.slot = .members c) :
    a.container? = some c := by
  unfold slot at h
  unfold container?
  cases hOp : a.operation <;> rw [hOp] at h <;> cases h <;> rfl

namespace DeviceTree

variable {t t' : DeviceTree}

/-- What lasts of the stored devices, oldest first. -/
def lasting (t : DeviceTree) : List Device := t.devices.items.map Device.lasting

theorem mem_lasting {d : ObjectId} {device : Device} (hd : t.device? d = some device) :
    device.lasting ∈ t.lasting :=
  List.mem_map_of_mem (Arena.mem_of_find? hd)

/-- What is written into one slot changes nothing that lasts, when only volume groups get other
members. -/
theorem WritesOnly.lasting {slot : Slot} {made : List Format} (h : t.WritesOnly slot made t')
    (hGroup : ∀ c, slot = .members c → t.kindOf? c = some .volumeGroup) :
    t'.lasting = t.lasting := by
  have hOutside : ∀ u : DeviceTree,
      (∀ c, slot = .members c → u.kindOf? c = some .volumeGroup) →
      u.lasting = (u.devices.items.map (Device.outside slot)).map Device.lasting := by
    intro u hu
    rw [DeviceTree.lasting, List.map_map]
    refine List.map_congr_left fun device hMem => (Device.lasting_outside ?_).symm
    rintro c hSlot rfl
    have hd : u.device? device.id = some device := (Arena.mem_iff_find? u.devices device).mp hMem
    have hKind := hu device.id hSlot
    rw [kindOf?, hd, Option.map_some] at hKind
    exact Option.some.inj hKind
  rw [hOutside t' fun c hSlot => h.keepsFacts.kindOf? (hGroup c hSlot), h.devices,
    ← hOutside t hGroup]

/-- A device that is made comes last, unless its id is taken. -/
theorem lasting_newDevice {draft : DeviceDraft} {id : ObjectId}
    (h : t.newDevice draft = .ok (id, t')) :
    t'.lasting = t.lasting ∨ ∃ (device : Device) (name : String) (number : Int),
      t.checkKind draft = .ok (name, number) ∧ device.MadeFrom draft name ∧
      t'.lasting = t.lasting ++ [device.lasting] := by
  obtain ⟨name, number, hKind, hStore⟩ := storeDevice_of_newDevice h
  obtain ⟨device, hMade, hDevices⟩ : ∃ device : Device, device.MadeFrom draft name ∧
      t'.devices = t.devices.insert device :=
    ⟨_, ⟨⟨rfl, rfl, rfl⟩, rfl, rfl⟩, congrArg devices (congrArg Prod.snd hStore)⟩
  unfold lasting
  rw [hDevices]
  rcases t.devices.items_insert device with hNew | ⟨hOld, _⟩
  · refine Or.inr ⟨device, name, number, hKind, hMade, ?_⟩
    rw [hNew, List.map_append]
    rfl
  · exact Or.inl (by rw [hOld])

end DeviceTree

namespace Session

variable {s : Session} {n : Nat}

/-- Ids that were drawn in turn leave room for as many as the counter has before it wraps. -/
theorem Numbered.room {k : Nat} (h : s.Numbered k) (hFew : s.storedIds.length + n < 2 ^ 64) :
    s.Room n := by
  intro hSome
  obtain ⟨hNext, hBelow, _⟩ := h.2 (by
    show s.storedIds.length < 2 ^ 64 - 1
    omega)
  refine ⟨h.next_ne_zero (by unfold IdsLeft; omega), hBelow, ?_⟩
  rw [hNext]
  show s.storedIds.length + 1 + n ≤ 2 ^ 64
  omega

/-! ## Calls of the panels -/

theorem Strata.lasting_propose (h : s.Strata) {p : Proposal} (hOffers : s.Offers (.schedule p)) :
    (s.propose p).2.tree.lasting = s.tree.lasting := by
  rcases propose_cases s p with
    hSame | ⟨preparation, hPrepare, hAfter⟩
  · rw [hSame]
  · obtain ⟨made, _, hWrites⟩ := (DeviceTree.prepares_of_prepare hPrepare).writesOnly
      (a := s.actionOf preparation) rfl rfl
    have hLasts : preparation.tree.lasting = s.tree.lasting := by
      refine hWrites.lasting fun c hSlot => ?_
      have hContainer := Action.container_of_slot hSlot
      exact (h.pairs_of_offers hOffers c _ (DeviceTree.proposal_of_container hPrepare hContainer)
        c rfl).1
    rcases hAfter with ⟨_, hSame⟩ | ⟨_, _, _, hNew⟩
    · rw [hSame]
      exact hLasts
    · rw [hNew]
      exact hLasts

theorem Strata.lasting_cancel (h : s.Strata) (id : ObjectId) :
    (s.cancel id).2.tree.lasting = s.tree.lasting := by
  have hUndone : ∀ (a : Action) (order : List ObjectId) (presence : IdSet), s.action? id = some a →
      (({ s.tree with order, presence } : DeviceTree).undoConstruction a).1.lasting
        = s.tree.lasting := by
    intro a order presence ha
    have hWrites := DeviceTree.undoConstruction_writesOnly { s.tree with order, presence } a
    refine hWrites.lasting fun c hSlot => ?_
    exact (h.pairs id a ha c (Action.container_of_slot hSlot)).1
  rcases cancel_cases s id with
    hSame | ⟨_, hSame⟩ | ⟨a, _, ha, _, hNew⟩ | ⟨a, t, _, _, ha, _, hUndo, hNew⟩
  · rw [hSame]
  · rw [hSame]
    rfl
  · rw [hNew]
    exact hUndone a s.tree.order s.tree.presence ha
  · rw [hNew]
    obtain ⟨order, presence, rfl⟩ := DeviceTree.eq_of_moves (DeviceTree.undoRegistration_ok hUndo)
    exact hUndone a order presence ha

/-- **Every call that the panels make one at a time keeps what lasts**, and stores no device. -/
theorem Strata.lasting_offered (h : s.Strata) {command : Command} (hOffers : s.Offers command) :
    (s.perform command).2.tree.lasting = s.tree.lasting := by
  refine (offered_preserves (P := fun s' => s'.Strata ∧ s'.tree.lasting = s.tree.lasting)
    ?_ ?_ ?_ ?_ ?_ ?_ ⟨h, rfl⟩ hOffers).2
  · exact fun _ _ _ h => ⟨⟨h.1.tree, h.1.pairs⟩, h.2⟩
  · intro s' typeName mountPoint onMedia h
    refine ⟨h.1.newFormat typeName mountPoint onMedia, Eq.trans ?_ h.2⟩
    unfold Session.newFormat answerTree
    split
    · rfl
    · rename_i hNew
      unfold DeviceTree.newFormat at hNew
      split at hNew
      · cases hNew
      · cases hNew
        rfl
  · exact fun s' p h hOffers =>
      ⟨h.1.propose (h.1.pairs_of_offers hOffers), (h.1.lasting_propose hOffers).trans h.2⟩
  · intro s' id h
    refine ⟨h.1.register id, Eq.trans ?_ h.2⟩
    exact congrArg (fun devices => devices.items.map Device.lasting) (s'.register_stored id).1
  · exact fun s' id h => ⟨h.1.cancel id, (h.1.lasting_cancel id).trans h.2⟩
  · exact fun s' _ id h =>
      ⟨h.1.of_sameActions (sameActions_drop s' id .pruned) (.refl _) h.1.tree, h.2⟩

end Session

namespace Viewer

open Session

namespace Frame

variable {devices : List Device} {serial serial' k m : Nat}

/-! ## Names -/

theorem groupName_injective : Function.Injective groupName := by
  intro j k h
  have hDigits := congrArg String.toList ((String.append_right_inj "Group").mp h)
  rw [Nat.toList_repr, Nat.toList_repr] at hDigits
  -- a number is read back from its digits
  calc
    j = Nat.ofDigitChars 10 (Nat.toDigits 10 j) 0 := Nat.ofDigitChars_ten_toDigits.symm
    _ = Nat.ofDigitChars 10 (Nat.toDigits 10 k) 0 := by rw [hDigits]
    _ = k := Nat.ofDigitChars_ten_toDigits

/-- The name of a volume group ends in a digit, so it is not that of a logical volume. -/
theorem groupName_ne_append (k : Nat) (stem : String) :
    groupName k ≠ stem ++ "-" ++ "lv_data" := by
  intro h
  have hLast := congrArg (fun name => name.toList.getLast?) h
  simp only [groupName, String.toList_append, Nat.toList_repr, List.getLast?_append] at hLast
  cases hDigit : (Nat.toDigits 10 k).getLast? with
  | none => simp [hDigit] at hLast
  | some c =>
    have hIs := Nat.isDigit_of_mem_toDigits (by decide) (by decide) (List.mem_of_getLast? hDigit)
    have hSame : c = 'a' := by simpa [hDigit] using hLast
    rw [hSame] at hIs
    exact absurd hIs (by decide)

/-- The first letter of a name that is made for a layout. -/
theorem head_groupName (k : Nat) : (groupName k).toList.head? = some 'G' := by
  simp [groupName]

theorem head_volumeName (k : Nat) : (volumeName k).toList.head? = some 'G' := by
  simp [volumeName, groupName]

/-- A name that begins with another letter is none of a volume group or of the volume in it. -/
theorem ne_of_head {name : String} (h : name.toList.head? ≠ some 'G') (k : Nat) :
    name ≠ groupName k ∧ name ≠ volumeName k :=
  ⟨fun hSame => h (hSame ▸ head_groupName k), fun hSame => h (hSame ▸ head_volumeName k)⟩

/-- The names of the disks in the demonstration layout. -/
def diskNames : List String := ["sda", "sdb", "sdc", "sdd"]

/-- The first partition of such a disk gets a number, and its name is none of a volume group. -/
theorem of_diskName {name : String} (h : name ∈ diskNames) :
    (partitionNumber? (name ++ "1")).isSome ∧ (name ++ "1").toList.head? ≠ some 'G' := by
  have hAll : ∀ name ∈ diskNames, (partitionNumber? (name ++ "1")).isSome ∧
      (name ++ "1").toList.head? ≠ some 'G' := by decide +kernel
  exact hAll name h

/-! ## What is stored -/

/-- The disks have the names that they had in the demonstration layout, each its own; a device that
has the name of a disk's first partition stands on that disk; and the volume groups and volumes that
go by a serial number were counted. -/
structure Lodged (devices : List Device) (serial : Nat) : Prop where
  disks : ∀ disk ∈ devices, disk.kind = .disk → disk.name ∈ diskNames
  apart : ∀ disk ∈ devices, ∀ other ∈ devices, disk.kind = .disk → other.kind = .disk →
    disk.name = other.name → disk.id = other.id
  partitions : ∀ disk ∈ devices, disk.kind = .disk → ∀ device ∈ devices,
    device.name = disk.name ++ "1" → disk.id ∈ device.parents
  counted : ∀ device ∈ devices, ∀ k, device.name = groupName k ∨ device.name = volumeName k →
    k ≤ serial

theorem Lodged.mono (h : Lodged devices serial) (hLe : serial ≤ serial') :
    Lodged devices serial' :=
  ⟨h.disks, h.apart, h.partitions, fun device hd k hk => (h.counted device hd k hk).trans hLe⟩

theorem lodged_empty : Lodged [] 0 :=
  ⟨fun _ h => absurd h List.not_mem_nil, fun _ h => absurd h List.not_mem_nil,
    fun _ h => absurd h List.not_mem_nil, fun _ h => absurd h List.not_mem_nil⟩

theorem lodged_demo (serial : Nat) : Lodged ({} : Session).adoptDemo.2.tree.lasting serial where
  disks := by decide +kernel
  apart := by decide +kernel
  partitions := by decide +kernel
  counted := by
    have hHeads : ∀ device ∈ ({} : Session).adoptDemo.2.tree.lasting,
        device.name.toList.head? ≠ some 'G' := by decide +kernel
    intro device hd k hk
    obtain ⟨hGroup, hVolume⟩ := ne_of_head (hHeads device hd) k
    exact absurd hk (by simp [hGroup, hVolume])

/-- A device that is no disk may be stored when it has the name of no first partition, or stands on
its disk, and goes by no serial number that was not counted. -/
theorem Lodged.append (h : Lodged devices serial) {device : Device} (hKind : device.kind ≠ .disk)
    (hPartition : ∀ disk ∈ devices, disk.kind = .disk → device.name = disk.name ++ "1" →
      disk.id ∈ device.parents)
    (hCounted : ∀ k, device.name = groupName k ∨ device.name = volumeName k → k ≤ serial) :
    Lodged (devices ++ [device]) serial := by
  have hDisk : ∀ disk ∈ devices ++ [device], disk.kind = .disk → disk ∈ devices := by
    intro disk hd hDisk
    rcases List.mem_append.mp hd with hd | hd
    · exact hd
    · rw [List.mem_singleton.mp hd] at hDisk
      exact absurd hDisk hKind
  refine ⟨fun disk hd hk => h.disks disk (hDisk disk hd hk) hk, fun disk hd other ho hk hk' => ?_,
    fun disk hd hk other ho hName => ?_, fun other ho k hName => ?_⟩
  · exact h.apart disk (hDisk disk hd hk) other (hDisk other ho hk') hk hk'
  · rcases List.mem_append.mp ho with ho | ho
    · exact h.partitions disk (hDisk disk hd hk) hk other ho hName
    · rw [List.mem_singleton.mp ho] at hName ⊢
      exact hPartition disk (hDisk disk hd hk) hk hName
  · rcases List.mem_append.mp ho with ho | ho
    · exact h.counted other ho k hName
    · rw [List.mem_singleton.mp ho] at hName
      exact hCounted k hName

/-- **The names for a layout of the empty disk are free.** -/
theorem Lodged.vacant {t : DeviceTree} {disk : Device} (h : Lodged t.lasting serial)
    (hDisk : emptyDisk? t = some disk) : Vacant t disk (serial + 1) := by
  obtain ⟨hd, _, hKind, hLeaf⟩ := of_emptyDisk hDisk
  have hStored := DeviceTree.mem_lasting hd
  obtain ⟨hNumber, hHead⟩ := of_diskName (h.disks _ hStored hKind)
  have hCounted : ∀ d ∈ t.order, ∀ device, t.device? d = some device →
      ¬ (device.name = groupName (serial + 1) ∨ device.name = volumeName (serial + 1)) := by
    intro d _ device hDevice hName
    have hLe := h.counted _ (DeviceTree.mem_lasting hDevice) _ hName
    omega
  refine ⟨hNumber, ?_, ?_, ?_, ne_of_head hHead (serial + 1)⟩
  · refine DeviceTree.named?_eq_none_iff.mpr fun d hIn device hDevice hName => ?_
    have hParent := h.partitions _ hStored hKind _ (DeviceTree.mem_lasting hDevice) hName
    have hBuilt : t.BuiltOn d disk.id :=
      DeviceTree.builtOn_iff.mpr ⟨device, hDevice, Device.mem_parents_of_lasting hParent⟩
    exact DeviceTree.isLeaf_iff.mp hLeaf d hIn hBuilt
  · exact DeviceTree.named?_eq_none_iff.mpr fun d hIn device hDevice hName =>
      hCounted d hIn device hDevice (Or.inl hName)
  · exact DeviceTree.named?_eq_none_iff.mpr fun d hIn device hDevice hName =>
      hCounted d hIn device hDevice (Or.inr hName)

/-! ## Making devices -/

section

variable {s : Session} {draft : DeviceDraft} {disk : Device}

theorem lodged_newDevice (h : Lodged s.tree.lasting serial) (hKind : draft.kind ≠ .disk)
    (hFits : ∀ name number, s.tree.checkKind draft = .ok (name, number) →
      (∀ disk ∈ s.tree.lasting, disk.kind = .disk → name = disk.name ++ "1" →
        draft.kind ≠ .volumeGroup ∧ disk.id ∈ draft.parents) ∧
      ∀ k, name = groupName k ∨ name = volumeName k → k ≤ serial) :
    Lodged (s.newDevice draft).2.tree.lasting serial := by
  unfold Session.newDevice answerTree
  split
  · exact h
  · rename_i id t hNew
    rcases DeviceTree.lasting_newDevice hNew with hSame | ⟨device, name, number, hOk, hMade, hLast⟩
    · exact hSame ▸ h
    · obtain ⟨hPartition, hCounted⟩ := hFits name number hOk
      show Lodged t.lasting serial
      rw [hLast]
      refine h.append (fun hDisk => hKind (hMade.kind.symm.trans hDisk))
        (fun disk hd hDisk hName => ?_) fun k hName => ?_
      · obtain ⟨hOther, hParent⟩ := hPartition disk hd hDisk (hMade.name.symm.trans hName)
        show disk.id ∈ if device.kind = .volumeGroup then [] else device.parents
        rw [if_neg (hMade.kind ▸ hOther), hMade.parents]
        exact hParent
      · rw [← hMade.name] at hCounted
        exact hCounted k hName

theorem lodged_partition (h : Lodged s.tree.lasting serial)
    (hDisk : disk ∈ s.tree.ofKind .disk) :
    Lodged (s.newDevice (autopartPartition disk)).2.tree.lasting serial := by
  obtain ⟨hPresent, hKind⟩ := List.mem_filter.mp hDisk
  have hKind : disk.kind = .disk := eq_of_beq hKind
  have hStored := DeviceTree.mem_lasting (DeviceTree.mem_present.mp hPresent).2
  refine lodged_newDevice h (by decide : DeviceKind.partition ≠ .disk) fun name number hOk => ?_
  obtain rfl : name = disk.name ++ "1" := DeviceTree.name_of_partition hOk rfl
  have hGroup : DeviceKind.partition ≠ .volumeGroup := by decide
  refine ⟨fun other ho hOther hName => ⟨hGroup, ?_⟩, fun k hName => ?_⟩
  · have hSame := h.apart _ ho _ hStored hOther hKind ((String.append_left_inj "1").mp hName).symm
    exact List.mem_singleton.mpr hSame
  · obtain ⟨hGroup, hVolume⟩ := ne_of_head (of_diskName (h.disks _ hStored hKind)).2 k
    exact absurd hName (not_or.mpr ⟨hGroup, hVolume⟩)

theorem lodged_group (h : Lodged s.tree.lasting serial) (hLe : k ≤ serial) (partition : ObjectId) :
    Lodged (s.newDevice (autopartGroup k partition)).2.tree.lasting serial := by
  refine lodged_newDevice h (by decide : DeviceKind.volumeGroup ≠ .disk) fun name number hOk => ?_
  obtain rfl : name = groupName k := DeviceTree.name_of_volumeGroup hOk rfl
  refine ⟨fun disk hd hDisk hName => ?_, fun j hName => ?_⟩
  · have hHead := (of_diskName (h.disks disk hd hDisk)).2
    exact absurd hName.symm (ne_of_head hHead k).1
  · rcases hName with hName | hName
    · exact groupName_injective hName ▸ hLe
    · exact absurd hName (groupName_ne_append k (groupName j))

/-- A logical volume is named after its group, which was counted if it goes by a serial number. -/
theorem lodged_volume (h : Lodged s.tree.lasting serial) (disk : Device) (group : ObjectId) :
    Lodged (s.newDevice (autopartVolume disk group)).2.tree.lasting serial := by
  refine lodged_newDevice h (by decide : DeviceKind.logicalVolume ≠ .disk) fun name number hOk => ?_
  obtain ⟨p, stored, _, hd, _, rfl⟩ := DeviceTree.group_of_logicalVolume hOk rfl
  refine ⟨fun disk hd hDisk hName => ?_, fun k hName => ?_⟩
  · have hLast := congrArg (fun name => name.toList.getLast?) hName
    simp [autopartVolume] at hLast
  · rcases hName with hName | hName
    · exact absurd hName.symm (groupName_ne_append k stored.name)
    · have hGroup : stored.name = groupName k :=
        (String.append_left_inj "-").mp ((String.append_left_inj "lv_data").mp hName)
      exact h.counted _ (DeviceTree.mem_lasting hd) k (Or.inl hGroup)

end

/-! ## Runs of the viewer -/

/-- The devices stand in strata, and what lasts of them leaves room for a layout. -/
def Roomy (s : Session) (panels : PanelState) : Prop :=
  s.WhileLeft fun s => s.Strata ∧ Lodged s.tree.lasting panels.autopartSerial

theorem Roomy.strata {s : Session} {panels : PanelState} (h : Roomy s panels) :
    s.WhileLeft Strata :=
  ⟨h.numbered, fun hLeft => (h.holds hLeft).1⟩

theorem Roomy.counts {s : Session} {panels panels' : PanelState} (h : Roomy s panels)
    (hCounts : panels.Counts panels') : Roomy s panels' :=
  ⟨h.numbered, fun hLeft => ⟨(h.holds hLeft).1, (h.holds hLeft).2.mono hCounts⟩⟩

theorem kept_roomy : Kept Roomy
    (fun id s => s.WhileLeft fun s => s.tree.kindOf? id = some .partition) where
  panels _ _ _ h hSame := h.counts hSame.2.2
  call _ _ _ _ h hOffers hCounts _ :=
    (h.counts hCounts).step (fun _ h => h.perform (overwrites_of_offers hOffers)) fun _ _ hs _ =>
      ⟨hs.1.offered hOffers, (hs.1.lasting_offered hOffers).symm ▸ hs.2⟩
  reset p _ :=
    have hDemo : (({} : Session).perform .adoptDemo).2.Numbered 0 := numbered_empty.perform rfl
    ⟨hDemo, fun _ => ⟨strata_demo, lodged_demo p.autopartSerial⟩⟩
  partition s _ _ _ h hDisk hHides :=
    (h.counts hHides.2).step (fun n => (numbered_kept n).newDevice s _) fun _ _ hs _ =>
      ⟨strata_partition hs.1 hDisk, lodged_partition hs.2 hDisk⟩
  known s p disk h hDisk hOk := kept_strata.known s p disk h.strata hDisk hOk
  still := kept_strata.still
  group s _ _ serial id h hKnown hHides hSerial :=
    (h.counts hHides.2).step (fun n => (numbered_kept n).newDevice s _) fun _ hLeft hs _ =>
      ⟨strata_volumeGroup hs.1 (hKnown.holds hLeft) serial, lodged_group hs.2 hSerial id⟩
  volume s _ _ disk group h hHides :=
    (h.counts hHides.2).step (fun n => (numbered_kept n).newDevice s _) fun _ _ hs _ =>
      ⟨strata_logicalVolume hs.1 disk group, lodged_volume hs.2 disk group⟩

/-- The frame in which the button for a layout acts, when the toolbox is drawn. -/
def beforeAutopart (g : Gesture) (f : Frame) : Frame :=
  (((f.button g "Reset Demo" resetDemo).teardownSection g).draw (.disabled "Create")).draw
    (.button "Autopart Chain On Empty Disk")

theorem toolbox_of_presses {g : Gesture} (h : g.presses "Autopart Chain On Empty Disk" = true)
    (f : Frame) :
    f.toolbox g = ((f.beforeAutopart g).autopart.membershipSection g).planSection g := by
  have hCreate : ∀ f : Frame, f.createSection g
      = ((f.draw (.disabled "Create")).draw (.button "Autopart Chain On Empty Disk")).autopart := by
    intro f
    unfold createSection button
    rw [if_pos h]
  unfold toolbox
  rw [hCreate]
  rfl

/-- The button finds no empty disk, and then the session stays as it is and the viewer gets an error
and a line in its history; or it lays out the first empty disk, without an error. -/
def AllOrNothing (before : Frame) : Prop :=
  (emptyDisk? before.session.tree = none ∧
    before.autopart = before.setPanels fun panels =>
      { panels with lastError := "autopart: no empty disk left" }.note
        "[error] autopart failed") ∨
  (before.autopart.panels.lastError = "" ∧
    ∃ disk l, emptyDisk? before.session.tree = some disk ∧
      LaysOut before.session disk (before.panels.autopartSerial + 1) l 0 before.autopart.session)

/-- **The button lays out a whole disk, or it changes nothing.**  In every run of the viewer, the
toolbox in which the button is pressed acts on some frame, `before`.  While that has ids left for a
layout, either something stands on every disk, and then nothing happens but that the viewer tells
so, or there is no error and five new actions stand at the end of the plan. -/
theorem autopart_all_or_nothing (events : List Event) (g : Gesture)
    (hPress : g.presses "Autopart Chain On Empty Disk" = true) :
    let f := ({} : Frame).handleAll events
    let before := { f with drawn := [] }.beforeAutopart g
    before.session.storedIds.length + 13 < 2 ^ 64 →
    f.handle (.toolbox g) = (before.autopart.membershipSection g).planSection g ∧
    before.AllOrNothing := by
  intro f before hFew
  have hStart : ({ f with drawn := [] } : Frame).Holds Roomy :=
    kept_roomy.handleAll_holds (f := {}) ⟨numbered_empty, fun _ => ⟨strata_empty, lodged_empty⟩⟩
      events
  have hBefore : before.Holds Roomy :=
    kept_roomy.teardownSection_holds (hStart.button fun f' _ _ => kept_roomy.resetDemo_holds f') g
  have hStarted : ({ f with drawn := [] } : Frame).Holds fun s _ => s.Reached :=
    reached_handleAll events
  have hReached : before.Holds fun s _ => s.Reached :=
    kept_reached.teardownSection_holds
      (hStarted.button fun f' _ _ => kept_reached.resetDemo_holds f') g
  have hRoom : before.session.Room (0 + 13) := hBefore.numbered.room hFew
  refine ⟨toolbox_of_presses hPress _, ?_⟩
  cases hDisk : emptyDisk? before.session.tree with
  | none =>
    refine Or.inl ⟨hDisk, ?_⟩
    unfold autopart
    rw [hDisk]
  | some disk =>
    have hLodged := (hBefore.holds (by unfold IdsLeft; omega)).2
    rcases autopart_of_emptyDisk hDisk hRoom with ⟨hOk, l, hLaid⟩ | ⟨_, hTaken⟩
    · exact Or.inr ⟨hOk, disk, l, hDisk, hLaid⟩
    · exact absurd (hLodged.vacant hDisk) (hTaken hReached.filed)

/-- A disk that was laid out is taken down in the plan, and laid out once more: its partition gets
the name of the one that goes, which is free again, and the volume group the next number. -/
theorem autopart_all_or_nothing_after_teardown :
    let events : List Event := [
      .toolbox { pressed := ["Reset Demo"] },
      .toolbox { pressed := ["Autopart Chain On Empty Disk"] },
      .toolbox { opened := true, chosen := "sdc" },
      .toolbox { pressed := ["Remove Everything On Disk"] }]
    let g : Gesture := { pressed := ["Autopart Chain On Empty Disk"] }
    let f := ({} : Frame).handleAll events
    let before := { f with drawn := [] }.beforeAutopart g
    (g.presses "Autopart Chain On Empty Disk" = true ∧
      before.session.storedIds.length + 13 < 2 ^ 64 ∧
      (emptyDisk? before.session.tree).map Device.name = some "sdc") ∧
    f.handle (.toolbox g) = (before.autopart.membershipSection g).planSection g ∧
    before.autopart.panels.lastError = "" ∧
    ∃ disk l, disk.name = "sdc" ∧
      LaysOut before.session disk (before.panels.autopartSerial + 1) l 0
        before.autopart.session := by
  intro events g f before
  have hPress : g.presses "Autopart Chain On Empty Disk" = true := by decide
  have hFew : before.session.storedIds.length + 13 < 2 ^ 64 := by decide +kernel
  have hName : (emptyDisk? before.session.tree).map Device.name = some "sdc" := by decide +kernel
  obtain ⟨hHandle, hDone⟩ := autopart_all_or_nothing events g hPress hFew
  have hDone : before.AllOrNothing := hDone
  rcases hDone with ⟨hNone, _⟩ | ⟨hOk, disk, l, hDisk, hLaid⟩
  · rw [hNone] at hName
    cases hName
  · have hSame := hName
    rw [hDisk] at hSame
    exact ⟨⟨hPress, hFew, hName⟩, hHandle, hOk, disk, l, Option.some.inj hSame, hLaid⟩

-- both empty disks of the demonstration layout are laid out, and there is no third one
example :
    (({} : Frame).handleAll [
      .toolbox { pressed := ["Reset Demo", "Autopart Chain On Empty Disk"] },
      .toolbox { pressed := ["Autopart Chain On Empty Disk"] },
      .toolbox { pressed := ["Autopart Chain On Empty Disk"] }]).panels.lastError
      = "autopart: no empty disk left" := by
  decide +kernel

end Frame

end Viewer

end StoragePlan

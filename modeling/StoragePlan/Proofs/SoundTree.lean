import StoragePlan.Proofs.Ancestry
import StoragePlan.Proofs.Arrangement
import StoragePlan.Proofs.Records
import StoragePlan.Session.Adopt

/-!
# Sound trees

A plan without membership actions never moves a stored device: formats and target sizes change, but
its kind, its parents and whether it is there do not (`SameLayout`, `Extends`).  This file says what
holds of every tree that is built by storing devices, adding and removing them (`Sound`).

* `Sound.acyclic`: parents are stored before the devices built on them, so **a sound tree is
  acyclic**.
* `Sound.add`, `Sound.remove`: present devices are stored, together with their parents.
* `prepare_layout`, `undoConstruction_layout`: constructing and withdrawing an action that
  is no membership action keeps the layout.
-/

namespace StoragePlan

/-- A device without what actions on its content and its size change. -/
def Device.frame (device : Device) : Device := { device with formatId := 0, targetSize := 0 }

/-- A device of the kind, with the parents and as much there as a draft says. -/
structure Device.Suits (device : Device) (draft : DeviceDraft) : Prop where
  kind : device.kind = draft.kind
  onMedia : device.onMedia = draft.onMedia
  parents : device.parents = draft.parents

/-- Whether a proposal changes the members of a container. -/
def Proposal.isMembership : Proposal → Bool
  | addMember .. | removeMember .. => true
  | createDevice _ | destroyDevice _ | createFormat .. | destroyFormat _ | resizeDevice ..
  | resizeFormat .. => false

namespace DeviceTree

variable {t t' t'' : DeviceTree} {d p : ObjectId} {device : Device}

/-- The stored devices, oldest first, up to formats and target sizes. -/
def frames (t : DeviceTree) : List Device := t.devices.items.map Device.frame

/-- The same devices are stored, up to formats and target sizes, and the same ones are present. -/
structure SameLayout (t t' : DeviceTree) : Prop where
  frames : t'.frames = t.frames
  records : t.SameRecords t'

/-- What is stored in `t` is stored in `t'`, up to formats and target sizes. -/
def Extends (t t' : DeviceTree) : Prop :=
  ∀ d device, t.device? d = some device →
    ∃ device', t'.device? d = some device' ∧ device'.frame = device.frame

/-- Parents are stored before the devices built on them, partitions lie on one disk each, the two
records of presence are in step, and the present devices are stored together with their parents. -/
structure Sound (t : DeviceTree) : Prop where
  grounded : ∀ l₁ device l₂, t.frames = l₁ ++ device :: l₂ →
    ∀ p ∈ device.parents, p ∈ l₁.map Device.id
  partitions : ∀ device ∈ t.frames, device.kind = .partition → device.parents.length = 1
  inStep : t.InStep
  stored : ∀ d ∈ t.order, (t.device? d).isSome
  closed : ∀ d ∈ t.order, ∀ p ∈ t.parentsOf d, p ∈ t.order

theorem sound_empty : ({} : DeviceTree).Sound where
  grounded := fun l₁ device l₂ h => absurd h.symm (by simp [frames, Arena.empty])
  partitions := fun device h => absurd h List.not_mem_nil
  inStep := inStep_empty
  stored := fun d h => absurd h List.not_mem_nil
  closed := fun d h => absurd h List.not_mem_nil

/-! ## The same layout -/

theorem SameLayout.refl (t : DeviceTree) : t.SameLayout t := ⟨rfl, .refl t⟩

theorem SameLayout.trans (h : t.SameLayout t') (h' : t'.SameLayout t'') : t.SameLayout t'' :=
  ⟨h'.frames.trans h.frames, h.records.trans h'.records⟩

theorem SameLayout.order (h : t.SameLayout t') : t'.order = t.order := h.records.order

theorem map_frame_device? (t : DeviceTree) (d : ObjectId) :
    (t.device? d).map Device.frame
      = t.frames.find? fun device => device.id == d := by
  rw [frames, List.find?_map]
  rfl

theorem SameLayout.map_frame (h : t.SameLayout t') (d : ObjectId) :
    (t'.device? d).map Device.frame = (t.device? d).map Device.frame := by
  rw [map_frame_device?, map_frame_device?, h.frames]

theorem extends_of_frames (after : List Device) (h : t'.frames = t.frames ++ after) :
    t.Extends t' := by
  intro d device hd
  have hFrame : (t'.device? d).map Device.frame = some device.frame := by
    rw [map_frame_device?, h, List.find?_append, ← map_frame_device?, hd]
    rfl
  exact Option.map_eq_some_iff.mp hFrame

theorem SameLayout.extends (h : t.SameLayout t') : t.Extends t' :=
  extends_of_frames [] (by rw [h.frames, List.append_nil])

theorem parentsOf_eq_frame (t : DeviceTree) (d : ObjectId) :
    t.parentsOf d = (((t.device? d).map Device.frame).map Device.parents).getD [] := by
  unfold parentsOf
  rw [Option.map_map]
  rfl

theorem SameLayout.parentsOf (h : t.SameLayout t') (d : ObjectId) :
    t'.parentsOf d = t.parentsOf d := by
  rw [parentsOf_eq_frame, parentsOf_eq_frame, h.map_frame]

theorem SameLayout.isSome (h : t.SameLayout t') (d : ObjectId) :
    (t'.device? d).isSome = (t.device? d).isSome := by
  rw [← Option.isSome_map (f := Device.frame), h.map_frame, Option.isSome_map]

theorem Extends.trans (h : t.Extends t') (h' : t'.Extends t'') : t.Extends t'' := by
  intro d device hd
  obtain ⟨device', hd', hFrame⟩ := h d device hd
  obtain ⟨device'', hd'', hFrame'⟩ := h' d device' hd'
  exact ⟨device'', hd'', hFrame'.trans hFrame⟩

theorem Extends.parentsOf (h : t.Extends t') (hd : (t.device? d).isSome) :
    t'.parentsOf d = t.parentsOf d := by
  obtain ⟨device, hd⟩ := Option.isSome_iff_exists.mp hd
  obtain ⟨device', hd', hFrame⟩ := h d device hd
  simp only [parentsOf_eq_frame, hd, hd', Option.map_some, hFrame]

theorem sameLayout_modifyDevice (t : DeviceTree) (id : ObjectId) (change : Device → Device)
    (keeps : ∀ d, (change d).id = d.id) (hFrame : ∀ d, (change d).frame = d.frame) :
    t.SameLayout (t.modifyDevice id change keeps) := by
  refine ⟨?_, rfl, rfl⟩
  rw [frames, modifyDevice, Arena.items_modify, List.map_map]
  refine List.map_congr_left fun device _ => ?_
  simp only [Function.comp]
  split
  · exact hFrame device
  · rfl

/-! ## Acyclic -/

theorem map_id_frames (t : DeviceTree) :
    t.frames.map Device.id = t.devices.items.map Device.id := by
  rw [frames, List.map_map]
  rfl

theorem frame_mem_frames (hd : t.device? d = some device) : device.frame ∈ t.frames :=
  List.mem_map_of_mem (Arena.mem_of_find? hd)

theorem Sound.idxOf_lt (ht : t.Sound) (h : t.BuiltOn d p) :
    (t.frames.map Device.id).idxOf p < (t.frames.map Device.id).idxOf d := by
  obtain ⟨device, hd, hp⟩ := builtOn_iff.mp h
  obtain ⟨l₁, l₂, hFrames⟩ := List.mem_iff_append.mp (frame_mem_frames hd)
  obtain rfl : device.id = d := Arena.id_of_find? hd
  have hBefore := ht.grounded l₁ device.frame l₂ hFrames p hp
  have hNodup : (t.frames.map Device.id).Nodup := t.map_id_frames ▸ t.devices.ids_nodup
  rw [hFrames, List.map_append, List.map_cons] at hNodup ⊢
  have hNot : device.id ∉ l₁.map Device.id := fun hMem =>
    (List.nodup_append.mp hNodup).2.2 _ hMem _ List.mem_cons_self rfl
  rw [List.idxOf_append_of_mem hBefore, List.idxOf_append_of_notMem hNot]
  exact Nat.lt_add_right _ (List.idxOf_lt_length_of_mem hBefore)

/-- **A sound tree is acyclic.** -/
theorem Sound.acyclic (ht : t.Sound) : t.Acyclic :=
  Precedence.not_transGen_self (fun d => (t.frames.map Device.id).idxOf d)
    fun _ _ h => ht.idxOf_lt h

theorem Sound.oneDisk (ht : t.Sound) : t.OneDisk :=
  fun device hd hKind => ht.partitions device.frame (List.mem_map_of_mem hd) hKind

/-! ## Changes that keep the layout -/

theorem Sound.of_sameLayout (ht : t.Sound) (h : t.SameLayout t') : t'.Sound where
  grounded := h.frames ▸ ht.grounded
  partitions := h.frames ▸ ht.partitions
  inStep := ht.inStep.of_same h.records
  stored := by
    intro d hd
    rw [h.isSome]
    exact ht.stored d (h.order ▸ hd)
  closed := by
    intro d hd p hp
    rw [h.order] at hd ⊢
    rw [h.parentsOf] at hp
    exact ht.closed d hd p hp

theorem setFormat_layout (t : DeviceTree) (id format : ObjectId) :
    t.SameLayout (t.setFormat id format) :=
  sameLayout_modifyDevice t id (fun d => { d with formatId := format }) (fun _ => rfl) fun _ => rfl

theorem storeFormat_layout (t : DeviceTree) (type : FormatType) (mountPoint : String)
    (onMedia : Bool) : t.SameLayout (t.storeFormat type mountPoint onMedia).2 :=
  ⟨rfl, rfl, rfl⟩

theorem newFormat_layout {typeName mountPoint : String} {onMedia : Bool} {id : ObjectId}
    (h : t.newFormat typeName mountPoint onMedia = .ok (id, t')) : t.SameLayout t' := by
  unfold newFormat at h
  split at h
  · cases h
  · cases h
    exact storeFormat_layout t _ _ _

theorem adoptFormat_layout {typeName mountPoint : String} {id : ObjectId}
    (h : t.adoptFormat id typeName mountPoint = .ok t') : t.SameLayout t' := by
  unfold adoptFormat at h
  split at h
  · cases h
    exact SameLayout.refl t
  · obtain ⟨result, hNew, rfl⟩ := map_ok h
    exact (newFormat_layout hNew).trans (setFormat_layout _ _ _)

theorem SameLayout.of_adopted {typeName mountPoint : String} {id : ObjectId}
    (h : t' = t ∨ t.adoptFormat id typeName mountPoint = .ok t') : t.SameLayout t' := by
  rcases h with rfl | h
  · exact .refl t'
  · exact adoptFormat_layout h

/-- What constructing an action that is no membership action may do. -/
theorem prepare_layout {proposal : Proposal} {preparation : Preparation}
    (hKind : proposal.isMembership = false) (h : t.prepare proposal = .ok preparation) :
    t.SameLayout preparation.tree ∧ preparation.operation.container? = none ∧
    (preparation.operation.kind = .createDevice →
      ∃ device, t.device? preparation.device = some device ∧ device.onMedia = false) := by
  cases proposal with
  | addMember container member => cases hKind
  | removeMember container member => cases hKind
  | createDevice id =>
    obtain ⟨device, hTarget, hRest⟩ := bind_ok h
    have hd := target_ok hTarget
    obtain rfl : device.id = id := Arena.id_of_find? hd
    cases hMedia : device.onMedia with
    | true =>
      rw [hMedia] at hRest
      cases hRest
    | false =>
      rw [hMedia] at hRest
      cases hRest
      exact ⟨SameLayout.refl t, rfl, fun _ => ⟨device, hd, hMedia⟩⟩
  | destroyDevice id =>
    obtain ⟨device, _, h⟩ := bind_ok h
    cases h
    exact ⟨SameLayout.refl t, rfl, fun hOp => by cases hOp⟩
  | createFormat id format =>
    obtain ⟨device, _, h⟩ := bind_ok h
    cases hFormat : (t.format? format).isNone with
    | true =>
      rw [hFormat] at h
      cases h
    | false =>
      rw [hFormat] at h
      cases h
      exact ⟨setFormat_layout t _ _, rfl, fun hOp => by cases hOp⟩
  | destroyFormat id =>
    obtain ⟨device, _, h⟩ := bind_ok h
    cases h
    exact ⟨(storeFormat_layout t _ _ _).trans (setFormat_layout _ _ _), rfl,
      fun hOp => by cases hOp⟩
  | resizeDevice id size =>
    obtain ⟨device, _, h⟩ := bind_ok h
    unfold prepareResizeDevice at h
    split at h
    · cases h
    · cases h
      exact ⟨sameLayout_modifyDevice _ _ _ _ fun _ => rfl, rfl, fun hOp => by cases hOp⟩
  | resizeFormat id size =>
    obtain ⟨device, _, h⟩ := bind_ok h
    unfold prepareResizeFormat at h
    split at h
    · cases h
    · dsimp only at h
      split at h
      · cases h
      · cases h
        exact ⟨⟨rfl, rfl, rfl⟩, rfl, fun hOp => by cases hOp⟩

theorem undoConstruction_layout (t : DeviceTree) {a : Action} (h : a.container? = none) :
    t.SameLayout (t.undoConstruction a).1 := by
  unfold Action.container? at h
  unfold undoConstruction
  split
  · exact SameLayout.refl t
  · cases hOp : a.operation with
    | addMember container => rw [hOp] at h; cases h
    | removeMember container position => rw [hOp] at h; cases h
    | createDevice | destroyDevice => exact SameLayout.refl t
    | createFormat format previous => exact setFormat_layout t _ _
    | destroyFormat removed blank => exact setFormat_layout t _ _
    | resizeDevice size previous direction => exact sameLayout_modifyDevice _ _ _ _ fun _ => rfl
    | resizeFormat format size previous direction =>
      dsimp only
      split
      · exact SameLayout.refl t
      · exact ⟨rfl, rfl, rfl⟩

/-! ## Storing a device -/

theorem checkParents_ok {seen ids : List ObjectId} (h : t.checkParents seen ids = .ok ()) :
    ∀ p ∈ ids, (t.device? p).isSome := by
  induction ids generalizing seen with
  | nil => simp
  | cons id rest ih =>
    unfold checkParents at h
    split at h
    · cases h
    · rename_i hStored
      split at h
      · cases h
      · intro p hp
        rcases List.mem_cons.mp hp with rfl | hp
        · simpa [Option.isSome_iff_ne_none] using hStored
        · exact ih h p hp

theorem checkKind_partition {draft : DeviceDraft} {result : String × Int}
    (h : t.checkKind draft = .ok result) (hKind : draft.kind = .partition) :
    draft.parents.length = 1 := by
  by_contra hLength
  simp [checkKind, hKind, hLength] at h

theorem storeDevice_devices (t : DeviceTree) (draft : DeviceDraft) (name : String) (number : Int) :
    ∃ device : Device, device.Suits draft ∧
      (t.storeDevice draft name number).2.devices = t.devices.insert device :=
  ⟨_, ⟨rfl, rfl, rfl⟩, rfl⟩

/-- What a draft that passes its checks leads to. -/
theorem newDevice_ok {draft : DeviceDraft} {id : ObjectId} (h : t.newDevice draft = .ok (id, t')) :
    (∀ p ∈ draft.parents, (t.device? p).isSome) ∧
    (draft.kind = .partition → draft.parents.length = 1) ∧
    ∃ name number, (id, t') = t.storeDevice draft name number := by
  unfold newDevice at h
  split at h
  · cases h
  · obtain ⟨_, hParents, h⟩ := bind_ok h
    obtain ⟨result, hKind, h⟩ := bind_ok h
    exact ⟨checkParents_ok hParents, checkKind_partition hKind, result.1, result.2,
      (Except.ok.inj h).symm⟩

theorem frames_storeDevice (t : DeviceTree) (draft : DeviceDraft) (name : String) (number : Int) :
    (t.storeDevice draft name number).2.frames = t.frames ∨
    ∃ device : Device, device.Suits draft ∧
      (t.storeDevice draft name number).2.frames = t.frames ++ [device.frame] := by
  obtain ⟨device, hSuits, hDevices⟩ := storeDevice_devices t draft name number
  unfold frames
  rw [hDevices]
  unfold Arena.insert
  cases h : t.devices.insert? device with
  | none => exact Or.inl rfl
  | some after =>
    refine Or.inr ⟨device, hSuits, ?_⟩
    rw [Option.getD_some, (Arena.insert?_eq_some h).1, List.map_append]
    rfl

theorem sameRecords_storeDevice (t : DeviceTree) (draft : DeviceDraft) (name : String)
    (number : Int) : t.SameRecords (t.storeDevice draft name number).2 :=
  ⟨rfl, rfl⟩

theorem storeDevice_extends (t : DeviceTree) (draft : DeviceDraft) (name : String) (number : Int) :
    t.Extends (t.storeDevice draft name number).2 := by
  rcases frames_storeDevice t draft name number with h | ⟨device, _, h⟩
  · exact extends_of_frames [] (by rw [h, List.append_nil])
  · exact extends_of_frames _ h

theorem onMedia_storeDevice (h : ∀ device ∈ t.frames, device.onMedia = true) {draft : DeviceDraft}
    (hDraft : draft.onMedia = true) (name : String) (number : Int) :
    ∀ device ∈ (t.storeDevice draft name number).2.frames, device.onMedia = true := by
  intro x hx
  rcases frames_storeDevice t draft name number with hFrames | ⟨device, hSuits, hFrames⟩
  · exact h x (hFrames ▸ hx)
  · rw [hFrames] at hx
    rcases List.mem_append.mp hx with hx | hx
    · exact h x hx
    · rw [List.mem_singleton.mp hx]
      exact hSuits.onMedia.trans hDraft

/-- A device whose parents are stored may come last. -/
theorem Sound.storeDevice (ht : t.Sound) {draft : DeviceDraft}
    (hParents : ∀ p ∈ draft.parents, (t.device? p).isSome)
    (hPartition : draft.kind = .partition → draft.parents.length = 1) (name : String)
    (number : Int) : (t.storeDevice draft name number).2.Sound := by
  have hExtends := storeDevice_extends t draft name number
  rcases frames_storeDevice t draft name number with hFrames | ⟨device, hSuits, hFrames⟩
  · exact ht.of_sameLayout ⟨hFrames, rfl, rfl⟩
  · refine ⟨?_, ?_, ht.inStep.of_same ⟨rfl, rfl⟩, ?_, ?_⟩
    · intro l₁ x l₂ hSplit p hp
      rw [hFrames] at hSplit
      rcases List.eq_nil_or_concat l₂ with rfl | ⟨m, y, rfl⟩
      · obtain ⟨rfl, hx⟩ := List.append_inj' hSplit rfl
        obtain rfl : device.frame = x := (List.cons.inj hx).1
        have hStored := hParents p (hSuits.parents ▸ hp)
        obtain ⟨parent, hParent⟩ := Option.isSome_iff_exists.mp hStored
        exact List.mem_map.mpr ⟨parent.frame, frame_mem_frames hParent, Arena.id_of_find? hParent⟩
      · rw [List.concat_eq_append, ← List.cons_append, ← List.append_assoc] at hSplit
        exact ht.grounded l₁ x m (List.append_inj' hSplit rfl).1 p hp
    · intro x hx hKind
      rw [hFrames] at hx
      rcases List.mem_append.mp hx with hx | hx
      · exact ht.partitions x hx hKind
      · obtain rfl := List.mem_singleton.mp hx
        rw [show device.frame.parents = draft.parents from hSuits.parents]
        exact hPartition (hSuits.kind ▸ hKind)
    · intro d hd
      obtain ⟨stored, hd⟩ := Option.isSome_iff_exists.mp (ht.stored d hd)
      obtain ⟨after, hAfter, _⟩ := hExtends d stored hd
      exact Option.isSome_iff_exists.mpr ⟨after, hAfter⟩
    · intro d hd p hp
      rw [hExtends.parentsOf (ht.stored d hd)] at hp
      exact ht.closed d hd p hp

/-! ## Adding and removing -/

theorem Sound.add (ht : t.Sound) {id : ObjectId} (h : t.add id = .ok t') : t'.Sound := by
  have hInStep := ht.inStep.add h
  obtain ⟨⟨device, hd⟩, _, hPresent, rfl⟩ := add_ok h
  refine ⟨ht.grounded, ht.partitions, hInStep, ?_, ?_⟩
  · intro x hx
    rcases List.mem_append.mp hx with hx | hx
    · exact ht.stored x hx
    · rw [List.mem_singleton.mp hx]
      exact Option.isSome_iff_exists.mpr ⟨device, hd⟩
  · intro x hx p hp
    rcases List.mem_append.mp hx with hx | hx
    · exact List.mem_append_left _ (ht.closed x hx p hp)
    · rw [List.mem_singleton.mp hx] at hp
      exact List.mem_append_left _ ((ht.inStep.contains_iff p).mp (hPresent p hp))

theorem Sound.remove (ht : t.Sound) {id : ObjectId} (h : t.remove id = .ok t') : t'.Sound := by
  have hInStep := ht.inStep.remove h
  obtain ⟨_, hLeaf, rfl⟩ := remove_ok h
  refine ⟨ht.grounded, ht.partitions, hInStep, ?_, ?_⟩
  · intro x hx
    exact ht.stored x (List.mem_filter.mp hx).1
  · intro x hx p hp
    have hIn := (List.mem_filter.mp hx).1
    refine List.mem_filter.mpr ⟨ht.closed x hIn p hp, ?_⟩
    rw [decide_eq_true_eq]
    rintro rfl
    exact hLeaf x hIn hp

section

variable {a : Action} {enters leaves : ActionKind}

theorem Sound.of_moves (ht : t.Sound) (h : t.Moves t' a enters leaves) : t'.Sound := by
  rcases h with ⟨_, hAdd⟩ | ⟨_, hRemove⟩ | ⟨_, _, rfl⟩
  · exact ht.add hAdd
  · exact ht.remove hRemove
  · exact ht

theorem extends_of_moves (h : t.Moves t' a enters leaves) : t.Extends t' := by
  obtain ⟨order, presence, rfl⟩ := eq_of_moves h
  exact extends_of_frames [] (List.append_nil _).symm

end

end DeviceTree

end StoragePlan

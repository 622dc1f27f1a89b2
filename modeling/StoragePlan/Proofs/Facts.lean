import StoragePlan.Proofs.Pruning
import StoragePlan.Proofs.Replay

/-!
# What is on the media

A plan is about devices and formats that are stored already.  What it changes of them is which
format a device carries, the sizes that devices and formats shall get, and what a device is built
on; everything else is a fact that planning starts from (`Device.facts`, `Format.facts`).

* `KeepsFacts.performAll`: **no run alters a fact or drops what is stored**, direct writes apart.
* `Prepares.writesOnly`, `undoConstruction_writesOnly`: constructing an action and taking it back
  **write into the slot of that action only**.
-/

namespace StoragePlan

/-- What planning never changes of a device. -/
def Device.facts (device : Device) : Device :=
  { device with formatId := 0, targetSize := 0, parents := [] }

/-- What planning never changes of a format. -/
def Format.facts (format : Format) : Format := { format with targetSize := 0 }

/-- What a device holds outside a slot. -/
def Device.outside (slot : Slot) (device : Device) : Device :=
  match slot with
  | .content id => if device.id = id then { device with formatId := 0 } else device
  | .size id => if device.id = id then { device with targetSize := 0 } else device
  | .members id => if device.id = id then { device with parents := [] } else device
  | .presence _ | .contentSize _ => device

/-- What a format holds outside a slot. -/
def Format.outside (slot : Slot) (format : Format) : Format :=
  match slot with
  | .contentSize id => if format.id = id then { format with targetSize := 0 } else format
  | .presence _ | .content _ | .size _ | .members _ => format

theorem Device.facts_outside (slot : Slot) (device : Device) :
    (device.outside slot).facts = device.facts := by
  cases slot with
  | presence | contentSize => rfl
  | content | size | members =>
    dsimp only [outside]
    split <;> rfl

theorem Format.facts_outside (slot : Slot) (format : Format) :
    (format.outside slot).facts = format.facts := by
  cases slot with
  | contentSize =>
    dsimp only [outside]
    split <;> rfl
  | presence | content | size | members => rfl

namespace DeviceTree

variable {t t' t'' : DeviceTree} {slot : Slot} {made : List Format} {a : Action}

/-- Whatever is stored stays stored, in its place and with its facts. -/
structure KeepsFacts (t t' : DeviceTree) : Prop where
  devices : t.devices.items.map Device.facts <+: t'.devices.items.map Device.facts
  formats : t.formats.items.map Format.facts <+: t'.formats.items.map Format.facts

/-- Nothing is changed outside one slot, and the given formats are stored besides. -/
structure WritesOnly (slot : Slot) (made : List Format) (t t' : DeviceTree) : Prop where
  devices : t'.devices.items.map (Device.outside slot) = t.devices.items.map (Device.outside slot)
  formats : t'.formats.items.map (Format.outside slot)
    = (t.formats.items ++ made).map (Format.outside slot)

/-! ## Facts -/

theorem KeepsFacts.refl (t : DeviceTree) : t.KeepsFacts t :=
  ⟨List.prefix_refl _, List.prefix_refl _⟩

theorem KeepsFacts.trans (h : t.KeepsFacts t') (h' : t'.KeepsFacts t'') : t.KeepsFacts t'' :=
  ⟨h.devices.trans h'.devices, h.formats.trans h'.formats⟩

theorem KeepsFacts.of_same (hDevices : t'.devices = t.devices) (hFormats : t'.formats = t.formats) :
    t.KeepsFacts t' := by
  refine ⟨?_, ?_⟩
  · rw [hDevices]
  · rw [hFormats]

theorem map_facts_outside_devices (slot : Slot) (devices : List Device) :
    (devices.map (Device.outside slot)).map Device.facts = devices.map Device.facts := by
  rw [List.map_map]
  exact List.map_congr_left fun device _ => device.facts_outside slot

theorem map_facts_outside_formats (slot : Slot) (formats : List Format) :
    (formats.map (Format.outside slot)).map Format.facts = formats.map Format.facts := by
  rw [List.map_map]
  exact List.map_congr_left fun format _ => format.facts_outside slot

/-- No slot holds a fact. -/
theorem WritesOnly.keepsFacts (h : t.WritesOnly slot made t') : t.KeepsFacts t' := by
  refine ⟨?_, ?_⟩
  · rw [← map_facts_outside_devices slot t'.devices.items, h.devices, map_facts_outside_devices]
  · rw [← map_facts_outside_formats slot t'.formats.items, h.formats, map_facts_outside_formats,
      List.map_append]
    exact List.prefix_append _ _

theorem keepsFacts_storeFormat (t : DeviceTree) (type : FormatType) (mountPoint : String)
    (onMedia : Bool) : t.KeepsFacts (t.storeFormat type mountPoint onMedia).2 := by
  refine ⟨List.prefix_refl _, ?_⟩
  show _ <+: (t.formats.insert (.ofType type t.ids.next mountPoint onMedia)).items.map _
  rcases t.formats.items_insert (.ofType type t.ids.next mountPoint onMedia) with
    hNew | ⟨hOld, _⟩
  · rw [hNew, List.map_append]
    exact List.prefix_append _ _
  · rw [hOld]

theorem keepsFacts_storeDevice (t : DeviceTree) (draft : DeviceDraft) (name : String)
    (number : Int) : t.KeepsFacts (t.storeDevice draft name number).2 := by
  refine ⟨?_, (t.keepsFacts_storeFormat .blank "" false).formats⟩
  obtain ⟨device, _, hDevices⟩ := t.storeDevice_devices draft name number
  rw [hDevices]
  rcases t.devices.items_insert device with hNew | ⟨hOld, _⟩
  · rw [hNew, List.map_append]
    exact List.prefix_append _ _
  · rw [hOld]

/-! ## One slot -/

theorem WritesOnly.refl (slot : Slot) (t : DeviceTree) : t.WritesOnly slot [] t :=
  ⟨rfl, by rw [List.append_nil]⟩

theorem WritesOnly.trans (h : t.WritesOnly slot made t') (h' : t'.WritesOnly slot [] t'') :
    t.WritesOnly slot made t'' := by
  refine ⟨h'.devices.trans h.devices, ?_⟩
  rw [h'.formats, List.append_nil, h.formats]

theorem WritesOnly.of_same (h : t.WritesOnly slot made t') (hDevices : t''.devices = t'.devices)
    (hFormats : t''.formats = t'.formats) : t.WritesOnly slot made t'' := by
  refine ⟨?_, ?_⟩
  · rw [hDevices, h.devices]
  · rw [hFormats, h.formats]

theorem writesOnly_modifyDevice (t : DeviceTree) (id : ObjectId) (change : Device → Device)
    (keeps : ∀ d, (change d).id = d.id)
    (hOutside : ∀ d : Device, d.id = id → (change d).outside slot = d.outside slot) :
    t.WritesOnly slot [] (t.modifyDevice id change keeps) :=
  ⟨t.devices.map_modify id change keeps hOutside, by rw [List.append_nil]; rfl⟩

theorem writesOnly_setFormat (t : DeviceTree) (id format : ObjectId) :
    t.WritesOnly (.content id) [] (t.setFormat id format) :=
  t.writesOnly_modifyDevice id (fun d => { d with formatId := format }) (fun _ => rfl)
    fun d hd => by simp [Device.outside, hd]

theorem writesOnly_setTarget (t : DeviceTree) (id : ObjectId) (size : ByteSize) :
    t.WritesOnly (.size id) [] (t.setTarget id size) :=
  t.writesOnly_modifyDevice id (fun d => { d with targetSize := size }) (fun _ => rfl)
    fun d hd => by simp [Device.outside, hd]

theorem writesOnly_changeParents (t : DeviceTree) (id : ObjectId)
    (change : List ObjectId → List ObjectId) :
    t.WritesOnly (.members id) [] (t.changeParents id change) :=
  t.writesOnly_modifyDevice id (fun d => { d with parents := change d.parents }) (fun _ => rfl)
    fun d hd => by simp [Device.outside, hd]

theorem writesOnly_setFormatTarget (t : DeviceTree) (id : ObjectId) (size : ByteSize) :
    t.WritesOnly (.contentSize id) [] (t.setFormatTarget id size) := by
  refine ⟨rfl, ?_⟩
  rw [List.append_nil]
  exact t.formats.map_modify id (fun f => { f with targetSize := size }) (fun _ => rfl)
    fun f (hf : f.id = id) => by simp [Format.outside, hf]

theorem writesOnly_storeFormat (t : DeviceTree) (slot : Slot) :
    ∃ made, (made = [] ∨ made = [.ofType .blank t.ids.next "" false]) ∧
      t.WritesOnly slot made (t.storeFormat .blank "" false).2 := by
  rcases t.formats.items_insert (.ofType .blank t.ids.next "" false) with hNew | ⟨hOld, _⟩
  · exact ⟨_, Or.inr rfl, rfl, congrArg _ hNew⟩
  · exact ⟨[], Or.inl rfl, rfl, by rw [List.append_nil]; exact congrArg _ hOld⟩

/-- **Constructing an action writes into its slot only**; the destruction of a format may store a
blank one besides. -/
theorem Prepares.writesOnly {p : Preparation} (h : t.Prepares p) (hDevice : a.device = p.device)
    (hOperation : a.operation = p.operation) :
    ∃ made, (made = [] ∨ made = [.ofType .blank t.ids.next "" false]) ∧
      t.WritesOnly a.slot made p.tree := by
  unfold Action.slot
  rw [hOperation, hDevice]
  cases h with
  | createDevice | destroyDevice => exact ⟨[], Or.inl rfl, .refl _ t⟩
  | createFormat => exact ⟨[], Or.inl rfl, t.writesOnly_setFormat _ _⟩
  | resizeDevice => exact ⟨[], Or.inl rfl, t.writesOnly_setTarget _ _⟩
  | resizeFormat => exact ⟨[], Or.inl rfl, t.writesOnly_setFormatTarget _ _⟩
  | @addMember container | @removeMember container =>
    refine ⟨[], Or.inl rfl, ?_⟩
    dsimp only
    exact t.writesOnly_changeParents container.id _
  | @destroyFormat device =>
    obtain ⟨made, hMade, hStored⟩ := t.writesOnly_storeFormat (.content device.id)
    exact ⟨made, hMade, hStored.trans (writesOnly_setFormat _ _ _)⟩

/-- **Taking back a construction writes into the slot of the action only.** -/
theorem undoConstruction_writesOnly (t : DeviceTree) (a : Action) :
    t.WritesOnly a.slot [] (t.undoConstruction a).1 := by
  cases hStored : (t.device? a.device).isSome with
  | false =>
    rw [undoConstruction_of_missing hStored]
    exact .refl _ t
  | true =>
    rw [undoConstruction_fst hStored]
    unfold Action.slot
    cases a.operation with
    | createDevice | destroyDevice => exact .refl _ t
    | createFormat | destroyFormat => exact t.writesOnly_setFormat _ _
    | resizeDevice => exact t.writesOnly_setTarget _ _
    | resizeFormat =>
      dsimp only
      split
      · exact .refl _ t
      · exact t.writesOnly_setFormatTarget _ _
    | addMember =>
      dsimp only
      split
      · exact t.writesOnly_changeParents _ _
      · exact .refl _ t
    | removeMember =>
      dsimp only
      split
      · exact .refl _ t
      · exact t.writesOnly_changeParents _ _

/-! ## Devices and formats taken in -/

theorem keepsFacts_newDevice {draft : DeviceDraft} {id : ObjectId}
    (h : t.newDevice draft = .ok (id, t')) : t.KeepsFacts t' := by
  obtain ⟨name, number, rfl⟩ := eq_storeDevice_of_newDevice h
  exact t.keepsFacts_storeDevice draft name number

theorem keepsFacts_newFormat {typeName mountPoint : String} {onMedia : Bool} {id : ObjectId}
    (h : t.newFormat typeName mountPoint onMedia = .ok (id, t')) : t.KeepsFacts t' := by
  unfold newFormat at h
  split at h
  · cases h
  · cases h
    exact t.keepsFacts_storeFormat _ _ _

theorem keepsFacts_adoptFormat {id : ObjectId} {typeName mountPoint : String}
    (h : t.adoptFormat id typeName mountPoint = .ok t') : t.KeepsFacts t' := by
  unfold adoptFormat at h
  split at h
  · cases h
    exact .refl t
  · obtain ⟨⟨format, _⟩, hNew, rfl⟩ := map_ok h
    exact (keepsFacts_newFormat hNew).trans (writesOnly_setFormat _ _ _).keepsFacts

end DeviceTree

namespace Session

variable {s : Session} {t : DeviceTree}

/-! ## Calls -/

/-- **A constructor writes into one slot only**, and may store one blank format besides. -/
theorem propose_writesOnly (s : Session) (p : Proposal) :
    ∃ slot made, (made = [] ∨ made = [.ofType .blank s.tree.ids.next "" false]) ∧
      s.tree.WritesOnly slot made (s.propose p).2.tree := by
  rcases propose_cases s p with
    hSame | ⟨preparation, hPrepare, ⟨_, hSame⟩ | ⟨actions, _, _, hNew⟩⟩
  · rw [hSame]
    exact ⟨.presence 0, [], Or.inl rfl, .refl _ _⟩
  all_goals
    have hPrepares := DeviceTree.prepares_of_prepare hPrepare
    obtain ⟨made, hMade, hWrites⟩ := hPrepares.writesOnly (a := s.actionOf preparation) rfl rfl
  · rw [hSame]
    exact ⟨_, made, hMade, hWrites.of_same rfl rfl⟩
  · rw [hNew]
    exact ⟨_, made, hMade, hWrites.of_same rfl rfl⟩

/-- **Withdrawing an action writes into one slot only.** -/
theorem cancel_writesOnly (s : Session) (id : ObjectId) :
    ∃ slot, s.tree.WritesOnly slot [] (s.cancel id).2.tree := by
  rcases cancel_cases s id with
    hSame | ⟨_, hSame⟩ | ⟨a, _, _, _, hNew⟩ | ⟨a, t, _, _, _, _, hUndo, hNew⟩
  · rw [hSame]
    exact ⟨.presence 0, .refl _ _⟩
  · rw [hSame]
    exact ⟨.presence 0, .refl _ _⟩
  · rw [hNew]
    exact ⟨a.slot, s.tree.undoConstruction_writesOnly a⟩
  · rw [hNew]
    obtain ⟨order, presence, rfl⟩ := DeviceTree.eq_of_moves (DeviceTree.undoRegistration_ok hUndo)
    have hWrites := DeviceTree.undoConstruction_writesOnly { s.tree with order, presence } a
    exact ⟨a.slot, hWrites.devices, hWrites.formats⟩

theorem register_stored (s : Session) (id : ObjectId) :
    (s.register id).2.tree.devices = s.tree.devices ∧
      (s.register id).2.tree.formats = s.tree.formats := by
  rcases register_cases s id with hSame | ⟨_, hSame⟩ | ⟨a, t, _, _, _, _, hApply, hNew⟩
  · rw [hSame]
    exact ⟨rfl, rfl⟩
  · rw [hSame]
    exact ⟨rfl, rfl⟩
  · rw [hNew]
    obtain ⟨order, presence, rfl⟩ := DeviceTree.eq_of_moves (DeviceTree.applyRegistration_ok hApply)
    exact ⟨rfl, rfl⟩

theorem sort_tree (s : Session) : s.sort.2.tree = s.tree := by
  obtain ⟨level, message, hSame⟩ := sort_cases s
  rw [hSame]
  rfl

theorem keepsFacts_answerTree (h : t.KeepsFacts s.tree)
    {result : Except Refusal (ObjectId × DeviceTree)} {changes : ObjectId → Changes}
    (hResult : ∀ id t', result = .ok (id, t') → s.tree.KeepsFacts t') :
    t.KeepsFacts (s.answerTree result changes).2.tree := by
  cases hAnswer : result with
  | error cause => exact h
  | ok answer => exact h.trans (hResult answer.1 answer.2 hAnswer)

theorem keepsFacts_adoptDevice (s : Session) (draft : DeviceDraft) (typeName mountPoint : String) :
    s.tree.KeepsFacts (s.adoptDevice draft typeName mountPoint).2.tree := by
  have hAdopted : ∀ {id bare t}, s.tree.newDevice { draft with onMedia := true } = .ok (id, bare) →
      (t = bare ∨ bare.adoptFormat id typeName mountPoint = .ok t) → s.tree.KeepsFacts t := by
    intro id bare t hNew hFormat
    rcases hFormat with rfl | hFormat
    · exact DeviceTree.keepsFacts_newDevice hNew
    · exact (DeviceTree.keepsFacts_newDevice hNew).trans (DeviceTree.keepsFacts_adoptFormat hFormat)
  rcases adoptDevice_cases s draft typeName mountPoint with
    ⟨_, hSame⟩ | ⟨id, bare, t, hNew, hFormat, ⟨_, hAfter⟩ | ⟨_, _, t', hAdd, hAfter⟩⟩
  · rw [hSame]
    exact .refl _
  · rw [hAfter]
    exact hAdopted hNew hFormat
  · rw [hAfter]
    obtain ⟨_, _, _, rfl⟩ := DeviceTree.add_ok hAdd
    exact (hAdopted hNew hFormat).trans (.of_same rfl rfl)

/-! ## Runs -/

theorem keepsFacts_propose (h : t.KeepsFacts s.tree) (p : Proposal) :
    t.KeepsFacts (s.propose p).2.tree := by
  obtain ⟨_, _, _, hWrites⟩ := s.propose_writesOnly p
  exact h.trans hWrites.keepsFacts

theorem keepsFacts_register (h : t.KeepsFacts s.tree) (id : ObjectId) :
    t.KeepsFacts (s.register id).2.tree :=
  h.trans (.of_same (s.register_stored id).1 (s.register_stored id).2)

theorem keepsFacts_cancel (h : t.KeepsFacts s.tree) (id : ObjectId) :
    t.KeepsFacts (s.cancel id).2.tree := by
  obtain ⟨_, hWrites⟩ := s.cancel_writesOnly id
  exact h.trans hWrites.keepsFacts

theorem keepsFacts_kept (t : DeviceTree) : Kept fun s => t.KeepsFacts s.tree where
  log := fun _ _ _ h => h
  newDevice := fun _ _ h => keepsFacts_answerTree h fun _ _ hNew =>
    DeviceTree.keepsFacts_newDevice hNew
  newFormat := fun _ _ _ _ h => keepsFacts_answerTree h fun _ _ hNew =>
    DeviceTree.keepsFacts_newFormat hNew
  addDevice := fun _ _ h => keepsFacts_answerTree h fun _ _ hAdd => by
    obtain ⟨t, hAdd, hPair⟩ := map_ok hAdd
    cases hPair
    obtain ⟨_, _, _, rfl⟩ := DeviceTree.add_ok hAdd
    exact .of_same rfl rfl
  removeDevice := fun _ _ _ h => keepsFacts_answerTree h fun _ _ hRemove => by
    obtain ⟨t, hRemove, hPair⟩ := map_ok hRemove
    cases hPair
    rw [(DeviceTree.remove_eq hRemove).2]
    exact .of_same rfl rfl
  adoptDevice := fun s draft typeName mountPoint h =>
    h.trans (s.keepsFacts_adoptDevice draft typeName mountPoint)
  propose := fun _ p h => keepsFacts_propose h p
  register := fun _ id h => keepsFacts_register h id
  schedule := fun _ _ h => schedule_preserves (P := fun s => t.KeepsFacts s.tree)
    (fun _ h => keepsFacts_propose h _) (fun _ id h => keepsFacts_register h id)
    (fun _ id h => keepsFacts_cancel h id) h
  pruneAction := fun _ _ _ h => h

theorem keepsFacts_perform (h : t.KeepsFacts s.tree) {command : Command}
    (hEdits : command.edits = false) : t.KeepsFacts (s.perform command).2.tree := by
  cases command with
  | editDevice | editFormat => cases hEdits
  | setNextId => exact h.trans (.of_same rfl rfl)
  | _ => exact (keepsFacts_kept t).perform_of_cancel (fun _ id h => keepsFacts_cancel h id) h rfl

theorem keepsFacts_performAll (s : Session) {commands : List Command}
    (hEdits : ∀ command ∈ commands, command.edits = false) :
    s.tree.KeepsFacts (s.performAll commands).tree :=
  (along_of_forall hEdits s).performAll (I := fun s' => s.tree.KeepsFacts s'.tree)
    (fun _ _ hCommand h => keepsFacts_perform h hCommand) (.refl _)

/-- **Planning never alters what is on the media.**  From any session and over every run without
direct writes, the stored devices and formats stay stored, in their places, and nothing of them
changes but the format that a device carries, the target sizes, and what a device is built on.  In
the session so reached registering, pruning and sorting change no device and no format at all, nor
does validating, which answers no session; and a constructor, or a withdrawal, writes into one slot
at most, the constructor storing at most one blank format besides. -/
theorem planning_keeps_facts (s : Session) (commands : List Command)
    (hEdits : ∀ command ∈ commands, command.edits = false) :
    let s' := s.performAll commands
    s.tree.KeepsFacts s'.tree ∧
    (∀ id, (s'.register id).2.tree.devices = s'.tree.devices ∧
      (s'.register id).2.tree.formats = s'.tree.formats) ∧
    s'.prune.2.tree = s'.tree ∧ s'.sort.2.tree = s'.tree ∧
    (∀ p, ∃ slot made, (made = [] ∨ made = [.ofType .blank s'.tree.ids.next "" false]) ∧
      s'.tree.WritesOnly slot made (s'.propose p).2.tree) ∧
    ∀ id, ∃ slot, s'.tree.WritesOnly slot [] (s'.cancel id).2.tree := by
  intro s'
  exact ⟨s.keepsFacts_performAll hEdits, s'.register_stored, s'.prune_tree, s'.sort_tree,
    s'.propose_writesOnly, s'.cancel_writesOnly⟩

/-- A volume group loses one of its two partitions, which gets a filesystem; a change of its size is
withdrawn. -/
theorem planning_keeps_facts_of_split_group :
    let s := ({} : Session).performAll [
      .adoptDevice { name := "sda", kind := .disk, size := gibibytes 100 } "disklabel" "",
      .adoptDevice { name := "sda1", kind := .partition, size := gibibytes 10, parents := [2] }
        "lvmpv" "",
      .adoptDevice { name := "sda2", kind := .partition, size := gibibytes 10, parents := [2] }
        "lvmpv" "",
      .adoptDevice { name := "vg", kind := .volumeGroup, parents := [5, 8] } "" ""]
    let commands : List Command := [
      .schedule (.removeMember 11 8), .schedule (.destroyFormat 8),
      .schedule (.resizeDevice 8 (gibibytes 5)), .newFormat "ext4" "/" false,
      .schedule (.createFormat 8 16), .prune, .removeDevice 2 true, .cancel 15, .sort]
    let s' := s.performAll commands
    ((∀ command ∈ commands, command.edits = false) ∧
      s.tree.devices.items.map Device.formatId = [3, 6, 9, 10] ∧
      s'.tree.devices.items.map Device.formatId = [3, 6, 16, 10]) ∧
    s.tree.KeepsFacts s'.tree ∧
    (∀ id, (s'.register id).2.tree.devices = s'.tree.devices ∧
      (s'.register id).2.tree.formats = s'.tree.formats) ∧
    s'.prune.2.tree = s'.tree ∧ s'.sort.2.tree = s'.tree ∧
    (∀ p, ∃ slot made, (made = [] ∨ made = [.ofType .blank s'.tree.ids.next "" false]) ∧
      s'.tree.WritesOnly slot made (s'.propose p).2.tree) ∧
    ∀ id, ∃ slot, s'.tree.WritesOnly slot [] (s'.cancel id).2.tree := by
  intro s commands s'
  have hEdits : ∀ command ∈ commands, command.edits = false := by decide
  exact ⟨⟨hEdits, by decide +kernel, by decide +kernel⟩, planning_keeps_facts s commands hEdits⟩

end Session

end StoragePlan

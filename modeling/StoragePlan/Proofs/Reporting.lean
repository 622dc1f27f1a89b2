import StoragePlan.Proofs.Dismantling

/-!
# Reported changes

A call reports the ids that it created, updated and deleted.  `Changes.Exact` compares the report
with the trees before and after the call.

* The basic calls report exactly what they did: `exact_add`, `exact_remove` and `Exact.written` for
  what is written on the way.
* A call made of others may answer with the report of its last step alone, or with the actions that
  it scheduled: `exact_iff_hides` says **which calls leave something out**.
-/

namespace StoragePlan

/-- The changes that a command reported. -/
def Reply.changes : Reply → Changes
  | .object o => o.changes
  | .actions o => o.changes
  | .done _ | .nextId _ => {}

/-- Whether a command takes in a device, or constructs, registers or withdraws actions. -/
def Command.reports : Command → Bool
  | adoptDevice .. | propose _ | register _ | cancel _ | registerOrCancel _ | schedule _
  | removeStack .. => true
  | _ => false

/-- Whether the construction of an operation changes the format or the parents of a device. -/
def Operation.rewrites : Operation → Bool
  | createFormat format previous => format != previous
  | destroyFormat removed blank => blank != removed
  | addMember _ | removeMember .. => true
  | createDevice | destroyDevice | resizeDevice .. | resizeFormat .. => false

/-- Whether a command has an effect on devices that its report leaves out: to schedule is to
construct and register, and reports the registration only; to take down a stack reports the actions
scheduled for it. -/
def Session.hides (s : Session) : Command → Bool
  | .schedule p =>
    match s.tree.prepare p with
    | .ok preparation => preparation.operation.rewrites
    | .error _ => false
  | .removeStack device includeSelf => !(s.tree.stack device includeSelf).isEmpty
  | _ => false

namespace DeviceTree

variable {t t' t'' : DeviceTree} {d : ObjectId} {ids : List ObjectId} {p : Preparation} {a : Action}

/-- A stored device has another format or other parents than before. -/
def Altered (t t' : DeviceTree) (d : ObjectId) : Prop :=
  ∃ device device', t.device? d = some device ∧ t'.device? d = some device' ∧
    (device'.formatId ≠ device.formatId ∨ device'.parents ≠ device.parents)

/-- Devices among `ids` are written at most, and none enters or leaves. -/
structure WritesAmong (t : DeviceTree) (ids : List ObjectId) (t' : DeviceTree) : Prop where
  records : t.SameRecords t'
  stored : ∀ d, (t'.device? d).isSome = (t.device? d).isSome
  device? : ∀ d ∉ ids, t'.device? d = t.device? d

theorem not_altered_of_device?_eq (h : t'.device? d = t.device? d) : ¬ t.Altered t' d := by
  rintro ⟨device, device', hd, hd', hDiffer⟩
  obtain rfl : device = device' := Option.some.inj (hd.symm.trans (h.symm.trans hd'))
  exact hDiffer.elim (absurd rfl) (absurd rfl)

theorem Grows.not_altered (h : t.Grows t') : ¬ t.Altered t' d := by
  rintro ⟨device, device', hd, hd', hDiffer⟩
  obtain rfl : device = device' := Option.some.inj ((h.device? d device hd).symm.trans hd')
  exact hDiffer.elim (absurd rfl) (absurd rfl)

theorem writesAmong_modifyDevice (t : DeviceTree) (id : ObjectId) (change : Device → Device)
    (keeps : ∀ d, (change d).id = d.id) : t.WritesAmong [id] (t.modifyDevice id change keeps) := by
  refine ⟨⟨rfl, rfl⟩, isSome_modifyDevice t id change keeps, fun d hd => ?_⟩
  rw [device?_modifyDevice]
  simp [List.mem_singleton.not.mp hd]

theorem WritesAmong.of_same (ids : List ObjectId) (hDevices : t'.devices = t.devices)
    (hRecords : t.SameRecords t') : t.WritesAmong ids t' :=
  ⟨hRecords, fun d => congrArg (fun devices => (Arena.find? devices d).isSome) hDevices,
    fun d _ => congrArg (Arena.find? · d) hDevices⟩

/-- **A preparation names all that it writes.** -/
theorem Prepares.writesAmong (h : t.Prepares p) : t.WritesAmong p.updated p.tree := by
  cases h with
  | createDevice | destroyDevice | resizeFormat => exact .of_same _ rfl ⟨rfl, rfl⟩
  | createFormat | resizeDevice | addMember | removeMember => exact writesAmong_modifyDevice _ _ _ _
  | destroyFormat =>
    have hWrites := writesAmong_modifyDevice (t.storeFormat .blank "" false).2
    exact ⟨⟨rfl, rfl⟩, (hWrites _ _ _).stored, (hWrites _ _ _).device?⟩

/-- **A withdrawal names all that it writes.** -/
theorem undoConstruction_writesAmong (t : DeviceTree) (a : Action) :
    t.WritesAmong (t.undoConstruction a).2 (t.undoConstruction a).1 := by
  unfold undoConstruction
  split
  · exact .of_same _ rfl ⟨rfl, rfl⟩
  · cases a.operation with
    | createDevice | destroyDevice => exact .of_same _ rfl ⟨rfl, rfl⟩
    | createFormat | destroyFormat | resizeDevice => exact writesAmong_modifyDevice _ _ _ _
    | resizeFormat =>
      dsimp only
      split <;> exact .of_same _ rfl ⟨rfl, rfl⟩
    | addMember | removeMember =>
      dsimp only
      split
      · first | exact .of_same _ rfl ⟨rfl, rfl⟩ | exact writesAmong_modifyDevice _ _ _ _
      · first | exact .of_same _ rfl ⟨rfl, rfl⟩ | exact writesAmong_modifyDevice _ _ _ _

theorem altered_modifyDevice {id : ObjectId} {change : Device → Device}
    {keeps : ∀ d, (change d).id = d.id} {device : Device} (hd : t.device? id = some device) :
    (∃ d, t.Altered (t.modifyDevice id change keeps) d) ↔
      (change device).formatId ≠ device.formatId ∨ (change device).parents ≠ device.parents := by
  have hChanged : (t.modifyDevice id change keeps).device? id = some (change device) := by
    rw [device?_modifyDevice, hd, Option.map_some, if_pos rfl]
  constructor
  · rintro ⟨d, hAltered⟩
    have hSelf : d = id := by
      by_contra hOther
      exact not_altered_of_device?_eq ((writesAmong_modifyDevice t id change keeps).device? d
        (List.mem_singleton.not.mpr hOther)) hAltered
    obtain ⟨old, new, hOld, hNew, hDiffer⟩ := hSelf ▸ hAltered
    obtain rfl := Option.some.inj (hd.symm.trans hOld)
    obtain rfl := Option.some.inj (hChanged.symm.trans hNew)
    exact hDiffer
  · exact fun hDiffer => ⟨id, device, change device, hd, hChanged, hDiffer⟩

/-- An operation rewrites exactly if its construction alters a device. -/
theorem Prepares.rewrites_iff (h : t.Prepares p) :
    p.operation.rewrites = true ↔ ∃ d, t.Altered p.tree d := by
  cases h with
  | createDevice | destroyDevice | resizeFormat =>
    exact iff_of_false Bool.false_ne_true fun ⟨d, hAltered⟩ =>
      not_altered_of_device?_eq rfl hAltered
  | createFormat hd =>
    refine Iff.trans ?_ (altered_modifyDevice hd).symm
    simp [Operation.rewrites]
  | destroyFormat hd =>
    refine Iff.trans ?_ (altered_modifyDevice (t := (t.storeFormat .blank "" false).2) hd).symm
    simp [Operation.rewrites]
  | resizeDevice hd =>
    refine Iff.trans ?_ (altered_modifyDevice hd).symm
    simp [Operation.rewrites]
  | addMember hc =>
    refine Iff.trans ?_ (altered_modifyDevice hc).symm
    simp [Operation.rewrites]
  | removeMember hc _ hMember =>
    refine Iff.trans ?_ (altered_modifyDevice hc).symm
    simp [Operation.rewrites, hMember]

end DeviceTree

/-! ## Exact reports -/

/-- What is reported is what happened to the devices between two trees. -/
structure Changes.Exact (changes : Changes) (t t' : DeviceTree) : Prop where
  /-- The deleted ids are those of the devices that left the tree. -/
  deleted : ∀ d, d ∈ changes.deleted ↔ t.contains d = true ∧ t'.contains d = false
  /-- The device ids among the created ones are those of the devices that entered the tree. -/
  created : ∀ d, (t'.device? d).isSome →
    (d ∈ changes.created ↔ t.contains d = false ∧ t'.contains d = true)
  /-- Every device with another format or other parents is updated. -/
  updated : ∀ d, t.Altered t' d → d ∈ changes.updated

section

open DeviceTree

variable {changes : Changes} {t t' t'' : DeviceTree} {d : ObjectId} {ids : List ObjectId}
  {a : Action}

theorem exact_nothing (t : DeviceTree) : ({} : Changes).Exact t t where
  deleted := fun d => by simp
  created := fun d _ => by simp
  updated := fun d h => absurd h (not_altered_of_device?_eq rfl)

theorem exact_add (h : t.add d = .ok t') : ({ created := [d] } : Changes).Exact t t' := by
  have hContains := contains_of_add h
  obtain ⟨_, hNew, _, rfl⟩ := add_ok h
  refine ⟨fun x => ?_, fun x _ => ?_, fun x hx => absurd hx (not_altered_of_device?_eq rfl)⟩
  · rw [hContains]
    refine iff_of_false List.not_mem_nil fun ⟨hBefore, hAfter⟩ => ?_
    rw [hBefore, Bool.or_true] at hAfter
    cases hAfter
  · rw [hContains, List.mem_singleton, Bool.or_eq_true, beq_iff_eq]
    constructor
    · rintro rfl
      exact ⟨hNew, Or.inl rfl⟩
    · rintro ⟨hAbsent, hEntered⟩
      exact hEntered.resolve_right (Bool.not_eq_true _ ▸ hAbsent)

theorem exact_remove (h : t.remove d = .ok t') :
    ({ deleted := [d] } : Changes).Exact t t' := by
  have hContains := contains_of_remove h
  obtain ⟨hPresent, _, rfl⟩ := remove_ok h
  refine ⟨fun x => ?_, fun x _ => ?_, fun x hx => absurd hx (not_altered_of_device?_eq rfl)⟩
  · rw [hContains, List.mem_singleton]
    constructor
    · rintro rfl
      exact ⟨hPresent, by simp⟩
    · rintro ⟨hBefore, hLeft⟩
      simpa [hBefore] using hLeft
  · rw [hContains]
    refine iff_of_false List.not_mem_nil fun ⟨hBefore, hAfter⟩ => ?_
    rw [hBefore, Bool.and_false] at hAfter
    cases hAfter

theorem exact_applyRegistration (h : t.applyRegistration a = .ok (t', changes)) :
    changes.Exact t t' := by
  unfold applyRegistration at h
  split at h
  · split at h
    · cases h
    · obtain ⟨after, hAdd, hAfter⟩ := map_ok h
      cases hAfter
      exact exact_add hAdd
  · obtain ⟨after, hRemove, hAfter⟩ := map_ok h
    cases hAfter
    exact exact_remove hRemove
  · split_ifs at h
    cases h
    exact exact_nothing t

/-- A registration writes nothing into devices, and reports nothing written. -/
theorem updated_of_applyRegistration (h : t.applyRegistration a = .ok (t', changes)) :
    changes.updated = [] := by
  unfold applyRegistration at h
  split at h
  · split at h
    · cases h
    · obtain ⟨_, _, hAfter⟩ := map_ok h
      cases hAfter
      rfl
  · obtain ⟨_, _, hAfter⟩ := map_ok h
    cases hAfter
    rfl
  · split_ifs at h
    cases h
    rfl

theorem exact_undoRegistration (h : t.undoRegistration a = .ok (t', changes)) :
    changes.Exact t t' := by
  unfold undoRegistration at h
  split at h
  · obtain ⟨after, hRemove, hAfter⟩ := map_ok h
    cases hAfter
    exact exact_remove hRemove
  · obtain ⟨after, hAdd, hAfter⟩ := map_ok h
    cases hAfter
    exact exact_add hAdd
  · cases h
    exact exact_nothing t

/-- A report stays exact when it names what is written afterwards. -/
theorem Changes.Exact.written (h : changes.Exact t t') (hWrites : t'.WritesAmong ids t'')
    {updated : List ObjectId} (hUpdated : ∀ d, d ∈ changes.updated ∨ d ∈ ids → d ∈ updated) :
    ({ changes with updated } : Changes).Exact t t'' where
  deleted := fun d => by
    rw [hWrites.records.contains]
    exact h.deleted d
  created := fun d hd => by
    rw [hWrites.records.contains]
    exact h.created d (hWrites.stored d ▸ hd)
  updated := fun d hAltered => by
    refine hUpdated d ?_
    by_cases hMem : d ∈ ids
    · exact Or.inr hMem
    · obtain ⟨device, device', hd, hd', hDiffer⟩ := hAltered
      exact Or.inl (h.updated d ⟨device, device', hd, (hWrites.device? d hMem).symm.trans hd',
        hDiffer⟩)

theorem Changes.Exact.update (h : changes.Exact t t') (id : ObjectId) :
    (changes.update id).Exact t t' :=
  h.written (.of_same [] rfl (.refl _)) fun _ hd =>
    List.mem_append_left _ (hd.resolve_right List.not_mem_nil)

end

namespace Session

variable {s : Session} {id : ObjectId}

/-! ## The basic calls -/

theorem exact_register (hOk : (s.register id).1.ok = true) :
    (s.register id).1.changes.Exact s.tree (s.register id).2.tree := by
  cases ha : s.action? id with
  | none =>
    simp only [register, ha] at hOk
    cases hOk
  | some a =>
    by_cases hState : a.state = .constructed
    · cases hApply : s.tree.applyRegistration a with
      | error cause =>
        simp only [register, ha, hState, ne_eq, not_true_eq_false, if_false, hApply] at hOk
        cases hOk
      | ok result =>
        obtain ⟨hOutcome, hSame⟩ := register_of_applied ha hState hApply
        rw [hOutcome, hSame.tree]
        exact (exact_applyRegistration hApply).update id
    · simp only [register, ha, ne_eq, hState, not_false_eq_true, if_true] at hOk
      cases hOk

theorem exact_withdraw {changes : Changes} {t : DeviceTree} (h : changes.Exact t s.tree)
    (a : Action) : (s.withdraw a changes).1.changes.Exact t (s.withdraw a changes).2.tree :=
  h.written (s.tree.undoConstruction_writesAmong a) fun _ hd =>
    List.mem_append_left _ (List.mem_append.mpr hd)

theorem exact_cancel (hOk : (s.cancel id).1.ok = true) :
    (s.cancel id).1.changes.Exact s.tree (s.cancel id).2.tree := by
  unfold cancel at hOk ⊢
  cases ha : s.action? id with
  | none =>
    simp only [ha] at hOk
    cases hOk
  | some a =>
    cases hState : a.state with
    | constructed =>
      simp only [hState]
      exact exact_withdraw (exact_nothing s.tree) a
    | registered =>
      cases hUndo : s.tree.undoRegistration a with
      | error cause =>
        simp only [ha, hState, hUndo] at hOk
        cases hOk
      | ok result =>
        simp only [hState, hUndo]
        exact exact_withdraw (exact_undoRegistration hUndo) a
    | cancelled | pruned =>
      simp only [ha, hState] at hOk
      cases hOk

theorem Onward.of_next {s' s'' : Session} (h : s.Onward s')
    (hNext : s'.tree.ids.next = s''.tree.ids.next) : s.Onward s'' := by
  unfold Onward at h ⊢
  rwa [hNext] at h

/-- The id of a prepared action is that of no device. -/
theorem Fresh.not_stored_of_prepares (h : s.Fresh) {p : Preparation}
    (hPrepares : s.tree.Prepares p) (hOnward : s.Onward (s.carryOut p)) :
    s.tree.device? p.tree.ids.next = none := by
  rw [← Option.not_isSome_iff_eq_none, DeviceTree.device?, Arena.isSome_find?_iff]
  exact fun hTaken => (h.next_new hPrepares hOnward).2
    (List.mem_append_left _ (List.mem_append_left _ hTaken))

/-- A device that is taken in under a new id is all that enters the tree. -/
theorem exact_adoptDevice (hFresh : s.Fresh) {draft : DeviceDraft} {typeName mountPoint : String}
    (hOnward : s.Onward (s.adoptDevice draft typeName mountPoint).2)
    (hOk : (s.adoptDevice draft typeName mountPoint).1.ok = true) :
    (s.adoptDevice draft typeName mountPoint).1.changes.Exact s.tree
      (s.adoptDevice draft typeName mountPoint).2.tree := by
  have hGrows : s.tree.Grows (s.adoptDevice draft typeName mountPoint).2.tree :=
    adoptDevice_grows fun _ _ hNew => hFresh.newDevice hNew hOnward
  unfold Session.adoptDevice at hOk hGrows ⊢
  cases hNew : s.tree.newDevice { draft with onMedia := true } with
  | error cause =>
    simp only [hNew] at hOk
    cases hOk
  | ok result =>
    obtain ⟨id, bare⟩ := result
    cases hFormat : bare.adoptFormat id typeName mountPoint with
    | error cause =>
      simp only [hNew, hFormat] at hOk
      cases hOk
    | ok formatted =>
      cases hAdd : formatted.add id with
      | error cause =>
        simp only [hNew, hFormat, hAdd] at hOk
        cases hOk
      | ok after =>
        simp only [hNew, hFormat, hAdd] at hGrows ⊢
        have hRecords : s.tree.SameRecords formatted := by
          obtain ⟨name, number, rfl⟩ := DeviceTree.eq_storeDevice_of_newDevice hNew
          exact (s.tree.sameRecords_storeDevice _ name number).trans
            (DeviceTree.adoptFormat_layout hFormat).records
        have hExact := exact_add hAdd
        exact {
          deleted := fun d => hRecords.contains d ▸ hExact.deleted d
          created := fun d hd => hRecords.contains d ▸ hExact.created d hd
          updated := fun d hAltered => absurd hAltered hGrows.not_altered }

/-- A constructed action is reported under an id that no device has. -/
theorem exact_propose (hFresh : s.Fresh) {proposal : Proposal}
    (hOnward : s.Onward (s.propose proposal).2) (hOk : (s.propose proposal).1.ok = true) :
    (s.propose proposal).1.changes.Exact s.tree (s.propose proposal).2.tree := by
  cases hPrepare : s.tree.prepare proposal with
  | error cause =>
    simp only [propose, hPrepare] at hOk
    cases hOk
  | ok p =>
    have hPrepares := DeviceTree.prepares_of_prepare hPrepare
    cases hInsert : s.actions.insert? (s.actionOf p) with
    | none =>
      have hActions : (s.carryOut p).actions = s.actions := rfl
      simp only [propose, hPrepare, construct, hActions, hInsert] at hOk
      cases hOk
    | some actions =>
      obtain ⟨hOutcome, hSame, _⟩ := propose_of_new hPrepare hInsert
      have hTree : (s.propose proposal).2.tree = (s.carryOut p).tree := hSame.tree
      have hExact : ({ updated := p.updated } : Changes).Exact s.tree p.tree :=
        (exact_nothing s.tree).written hPrepares.writesAmong fun _ hd =>
          hd.resolve_left List.not_mem_nil
      have hNew := hFresh.not_stored_of_prepares hPrepares (hOnward.of_next (by rw [hTree]))
      rw [hOutcome, hTree]
      refine ⟨hExact.deleted, fun d hd => ?_, hExact.updated⟩
      refine Iff.trans (iff_of_false ?_ List.not_mem_nil) (hExact.created d hd)
      intro hMem
      rw [List.mem_singleton.mp hMem] at hd
      have hThere := (hPrepares.isSome_tree p.tree.ids.next).symm.trans hd
      rw [hNew] at hThere
      cases hThere

/-! ## Calls made of other calls -/

/-- **To schedule is to report the registration only**, which is exact when the construction alters
no device. -/
theorem exact_schedule_iff (hFresh : s.Fresh) {proposal : Proposal}
    (hOnward : s.Onward (s.schedule proposal).2) (hOk : (s.schedule proposal).1.ok = true) :
    (s.schedule proposal).1.changes.Exact s.tree (s.schedule proposal).2.tree ↔
      s.hides (.schedule proposal) = false := by
  obtain ⟨p, actions, t, changes, hPrepare, hInsert, hApply⟩ := applied_of_schedule_ok hOk
  obtain ⟨hOutcome, hSame⟩ := schedule_of_applied hPrepare hInsert hApply
  have hPrepares := DeviceTree.prepares_of_prepare hPrepare
  have hTree : (s.schedule proposal).2.tree = t := hSame.tree
  obtain ⟨order, presence, rfl⟩ := DeviceTree.eq_of_moves (DeviceTree.applyRegistration_ok hApply)
  have hHides : s.hides (.schedule proposal) = p.operation.rewrites := by
    simp only [hides, hPrepare]
  rw [hOutcome, hTree, hHides, Bool.eq_false_iff, ne_eq, hPrepares.rewrites_iff]
  have hExact := exact_applyRegistration hApply
  constructor
  · rintro hReported ⟨d, hAltered⟩
    have hUpdated := hReported.updated d hAltered
    rw [Changes.update, updated_of_applyRegistration hApply, List.nil_append] at hUpdated
    have hNew := hFresh.not_stored_of_prepares hPrepares (hOnward.of_next (by rw [hTree]))
    obtain ⟨device, _, hd, _⟩ := hAltered
    rw [List.mem_singleton.mp hUpdated] at hd
    cases hNew.symm.trans hd
  · intro hUnaltered
    exact {
      deleted := fun d => (carryOut_records hPrepares).contains d ▸ hExact.deleted d
      created := fun d hd => (carryOut_records hPrepares).contains d ▸ hExact.created d hd
      updated := fun d hAltered => absurd ⟨d, hAltered⟩ hUnaltered }

/-- A proposal that is not scheduled moves no device. -/
theorem records_of_refused_schedule {proposal : Proposal}
    (hRefused : (s.schedule proposal).1.ok = false) :
    s.tree.SameRecords (s.schedule proposal).2.tree := by
  cases scheduled s proposal with
  | refused _ hSame =>
    rw [hSame.tree]
    exact .refl _
  | dropped p hPrepares _ _ hSame =>
    rw [hSame.tree]
    exact carryOut_records hPrepares
  | registered _ _ _ _ _ _ _ hOk => exact absurd (hRefused.symm.trans hOk) Bool.false_ne_true
  | takenBack p _ _ hPrepares _ _ _ hSame =>
    rw [hSame.tree]
    exact undo_carryOut_records hPrepares

/-- Unless it creates its device, a scheduled action lets no device enter the tree. -/
theorem absent_schedule {proposal : Proposal} {x : ObjectId}
    (hKind : ∀ p, s.tree.prepare proposal = .ok p → p.operation.kind ≠ .createDevice)
    (hAbsent : s.tree.contains x = false) : (s.schedule proposal).2.tree.contains x = false := by
  cases hOk : (s.schedule proposal).1.ok with
  | true =>
    obtain ⟨p, actions, t, changes, hPrepare, hInsert, hApply⟩ := applied_of_schedule_ok hOk
    have hRecords := carryOut_records (s := s) (DeviceTree.prepares_of_prepare hPrepare)
    have hCarried : (s.carryOut p).tree.contains x = false :=
      (hRecords.contains x).trans hAbsent
    rw [(schedule_of_applied hPrepare hInsert hApply).2.tree, setState_tree]
    rcases DeviceTree.applyRegistration_ok hApply with
      ⟨hCreates, _⟩ | ⟨_, hRemove⟩ | ⟨_, _, hSame⟩
    · exact absurd hCreates (hKind p hPrepare)
    · rw [DeviceTree.contains_of_remove hRemove, hCarried, Bool.and_false]
    · rw [hSame]
      exact hCarried
  | false => exact ((records_of_refused_schedule hOk).contains x).trans hAbsent

theorem absent_destroyFormat {x : ObjectId} (s : Session) (id : ObjectId)
    (h : s.tree.contains x = false) :
    (s.schedule (.destroyFormat id)).2.tree.contains x = false := by
  refine absent_schedule (fun p hPrepare => ?_) h
  obtain ⟨_, _, _, _, hOp, _⟩ := DeviceTree.prepare_destroyFormat_ok hPrepare
  rw [hOp]
  exact fun h => nomatch h

theorem absent_destroyDevice {x : ObjectId} (s : Session) (id : ObjectId)
    (h : s.tree.contains x = false) :
    (s.schedule (.destroyDevice id)).2.tree.contains x = false := by
  refine absent_schedule (fun p hPrepare => ?_) h
  obtain ⟨_, _, rfl⟩ := DeviceTree.prepare_destroyDevice_ok hPrepare
  exact fun h => nomatch h

/-- A device that is absent stays so while others are taken down. -/
theorem absent_tearDownAbove {x : ObjectId} (h : s.tree.contains x = false) (d : ObjectId) :
    (s.tearDownAbove d).2.tree.contains x = false :=
  tearDownAbove_preserves (P := fun s => s.tree.contains x = false) absent_destroyFormat
    absent_destroyDevice h d

theorem exists_left_of_tearDownAbove (d : ObjectId) (s : Session) :
    (s.tearDownAbove d).1.ok = true → s.tree.dependents d ≠ [] →
      ∃ x, s.tree.contains x = true ∧ (s.tearDownAbove d).2.tree.contains x = false := by
  refine tearDownAbove_induction (motive := fun s answer => answer.1.ok = true →
    s.tree.dependents d ≠ [] → ∃ x, s.tree.contains x = true ∧ answer.2.tree.contains x = false)
    (fun s hNone _ hSome => absurd hNone hSome) (fun s _ _ hOk => nomatch hOk) ?_ ?_ s
  · intro s leaf _ _ hOk _ _ _
    obtain ⟨hPresent, hLeft⟩ := left_of_tearDown hOk
    exact ⟨leaf, hPresent, absent_tearDownAbove hLeft d⟩
  · intro s leaf _ _ hRefused hOk
    exact absurd (hRefused.symm.trans hOk) Bool.false_ne_true

/-- **A stack that is taken down loses a device.** -/
theorem exists_left_of_removeStack {d : ObjectId} {includeSelf : Bool}
    (hOk : (s.removeStack d includeSelf).1.ok = true) (hStack : s.tree.stack d includeSelf ≠ []) :
    ∃ x, s.tree.contains x = true ∧
      (s.removeStack d includeSelf).2.tree.contains x = false := by
  unfold removeStack at hOk ⊢
  split at hOk
  · cases hOk
  · rename_i hPresent
    rw [if_neg hPresent]
    have hDown : (s.tearDownStack d includeSelf).1.ok = true := hOk
    show ∃ x, s.tree.contains x = true ∧
      (s.tearDownStack d includeSelf).2.tree.contains x = false
    unfold tearDownStack at hDown ⊢
    dsimp only at hDown ⊢
    split at hDown
    · rename_i hSelf
      rw [if_pos hSelf]
      exact ⟨d, by simpa using hPresent, (left_of_tearDown hDown).2⟩
    · rename_i hNotSelf
      rw [if_neg hNotSelf]
      refine exists_left_of_tearDownAbove d s hDown fun hNone => hStack ?_
      cases includeSelf with
      | false => simpa [DeviceTree.stack] using hNone
      | true => exact absurd ⟨hDown, rfl⟩ hNotSelf

theorem deleted_removeStack (s : Session) (d : ObjectId) (includeSelf : Bool) :
    (s.removeStack d includeSelf).1.changes.deleted = [] := by
  unfold removeStack
  split <;> rfl

/-- **The report of a stack taken down names its actions only**, which is exact when there is
nothing to take down. -/
theorem exact_removeStack_iff {d : ObjectId} {includeSelf : Bool}
    (hOk : (s.removeStack d includeSelf).1.ok = true) :
    (s.removeStack d includeSelf).1.changes.Exact s.tree (s.removeStack d includeSelf).2.tree ↔
      s.hides (.removeStack d includeSelf) = false := by
  have hHides : s.hides (.removeStack d includeSelf) = false ↔ s.tree.stack d includeSelf = [] := by
    simp [hides]
  rw [hHides]
  constructor
  · intro hExact
    by_contra hStack
    obtain ⟨x, hLeft⟩ := exists_left_of_removeStack hOk hStack
    have hDeleted := (hExact.deleted x).mpr hLeft
    rw [deleted_removeStack] at hDeleted
    cases hDeleted
  · intro hStack
    obtain ⟨hNone, hSelf⟩ := List.append_eq_nil_iff.mp hStack
    have hNotSelf : includeSelf = false := by
      cases includeSelf with
      | false => rfl
      | true => cases hSelf
    have hDone : s.tearDownStack d includeSelf = ({ value := [] }, s) := by
      rw [tearDownStack, tearDownAbove, if_pos hNone, hNotSelf]
      rfl
    unfold removeStack at hOk ⊢
    split
    · rename_i hMissing
      rw [if_pos hMissing] at hOk
      cases hOk
    · rw [hDone]
      exact exact_nothing s.tree

/-- **What the calls report of devices.**  With ids that are new when they are drawn, a call that
succeeds reports exactly which devices entered and left the tree, and every device that has another
format or other parents, unless it is a call made of others that hides a change. -/
theorem exact_iff_hides (s : Session) (command : Command) (hReports : command.reports = true)
    (hFresh : s.Fresh) (hOnward : s.Onward (s.perform command).2)
    (hOk : (s.perform command).1.ok = true) :
    (s.perform command).1.changes.Exact s.tree (s.perform command).2.tree ↔
      s.hides command = false := by
  cases command with
  | adoptDevice => exact iff_of_true (exact_adoptDevice hFresh hOnward hOk) rfl
  | propose => exact iff_of_true (exact_propose hFresh hOnward hOk) rfl
  | register => exact iff_of_true (exact_register hOk) rfl
  | cancel => exact iff_of_true (exact_cancel hOk) rfl
  | registerOrCancel id =>
    have hOk : (s.registerOrCancel id).1.ok = true := hOk
    have hSame := registerOrCancel_of_ok hOk
    have hExact :
        (s.registerOrCancel id).1.changes.Exact s.tree (s.registerOrCancel id).2.tree := by
      rw [hSame] at hOk ⊢
      exact exact_register hOk
    exact iff_of_true hExact rfl
  | schedule => exact exact_schedule_iff hFresh hOnward hOk
  | removeStack => exact exact_removeStack_iff hOk
  | _ => cases hReports

/-- The withdrawal of a removed member names the group; a scheduled destruction of a format does not
name the device. -/
theorem exact_iff_hides_of_removed_member :
    let commands : List Command := [
      .adoptDevice { name := "sda", kind := .disk, size := gibibytes 100 } "" "",
      .adoptDevice { name := "sda1", kind := .partition, size := gibibytes 10, parents := [2] }
        "lvmpv" "",
      .adoptDevice { name := "sda2", kind := .partition, size := gibibytes 10, parents := [2] }
        "lvmpv" "",
      .adoptDevice { name := "vg", kind := .volumeGroup, parents := [4, 7] } "" "",
      .schedule (.removeMember 10 4)]
    let s := ({} : Session).performAll commands
    let back : Command := .cancel 11
    let wipe : Command := .schedule (.destroyFormat 4)
    (s.Fresh ∧ s.Onward (s.perform back).2 ∧ (s.perform back).1.ok = true ∧
      s.Onward (s.perform wipe).2 ∧ (s.perform wipe).1.ok = true) ∧
    (s.perform back).1.changes = { updated := [10, 11] } ∧
    (s.perform back).1.changes.Exact s.tree (s.perform back).2.tree ∧
    (s.perform wipe).1.changes = { updated := [13] } ∧
    ¬ (s.perform wipe).1.changes.Exact s.tree (s.perform wipe).2.tree := by
  intro commands s back wipe
  have hFresh : s.Fresh := by decide +kernel
  have hBack : s.Onward (s.perform back).2 ∧ (s.perform back).1.ok = true := by decide +kernel
  have hWipe : s.Onward (s.perform wipe).2 ∧ (s.perform wipe).1.ok = true := by decide +kernel
  have hHides : s.hides wipe = true := by decide +kernel
  refine ⟨⟨hFresh, hBack.1, hBack.2, hWipe⟩, by decide +kernel, ?_, by decide +kernel, ?_⟩
  · exact (exact_iff_hides s back rfl hFresh hBack.1 hBack.2).mpr rfl
  · rw [exact_iff_hides s wipe rfl hFresh hWipe.1 hWipe.2, hHides]
    exact Bool.noConfusion

/-- A partition is taken down with its format.  The report names the two actions; it names neither
the partition as deleted nor the new format as an update. -/
theorem not_exact_of_removed_partition :
    let commands : List Command := [
      .adoptDevice { name := "sda", kind := .disk, size := gibibytes 100 } "" "",
      .adoptDevice { name := "sda1", kind := .partition, size := gibibytes 80, parents := [2] }
        "ext4" "/"]
    let s := ({} : Session).performAll commands
    let answer := s.removeStack 4 true
    s.Fresh ∧ s.Onward answer.2 ∧ answer.1.ok = true ∧
    answer.1.changes = { created := [7, 8] } ∧
    (4 ∈ s.tree.order ∧ 4 ∉ answer.2.tree.order) ∧
    (s.tree.contains 4 = true ∧ answer.2.tree.contains 4 = false) ∧
    ((s.tree.device? 4).map Device.formatId = some 5 ∧
      (answer.2.tree.device? 4).map Device.formatId = some 6) ∧
    ¬ answer.1.changes.Exact s.tree answer.2.tree := by
  intro commands s answer
  have hLeft : s.tree.contains 4 = true ∧ answer.2.tree.contains 4 = false := by decide +kernel
  have hReport : answer.1.changes = { created := [7, 8] } := by decide +kernel
  refine ⟨by decide +kernel, by decide +kernel, by decide +kernel, hReport, by decide +kernel,
    hLeft, by decide +kernel, fun hExact => ?_⟩
  have hDeleted := (hExact.deleted 4).mpr hLeft
  rw [hReport] at hDeleted
  cases hDeleted

end Session

end StoragePlan

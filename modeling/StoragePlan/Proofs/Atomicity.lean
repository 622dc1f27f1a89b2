import StoragePlan.Proofs.Composing

/-!
# Refused calls

A call that is refused leaves the session as it was, up to the log (`Logged`); where a part of it
was carried out before the refusal, what was stored is still as it was (`Untouched`).  Both rest on
ids that are new when they are drawn: a stored object could otherwise be taken for the one that the
call makes (`Fresh.drawn`).

* `proposed`: what becomes of a proposal, with all that it stores.
* `perform_of_refused`: **a refused call on one object writes into the log at most**, and a refused
  adoption leaves alone what is present, registered and stored.
* `schedule_all_or_nothing`: **a scheduled action is appended to the plan, or it is withdrawn and
  everything is as before**.
-/

namespace StoragePlan

/-- Whether a call succeeded. -/
def Reply.ok : Reply → Bool
  | .object o => o.ok
  | .actions o => o.ok
  | .done found => found
  | .nextId _ => true

/-- Whether a call makes, moves, constructs, registers, cancels or sorts, once. -/
def Command.isSingle : Command → Bool
  | newDevice _ | newFormat .. | addDevice _ | removeDevice .. => true
  | propose _ | register _ | cancel _ | sort => true
  | _ => false

namespace DeviceTree

variable {t t' : DeviceTree} {p : Preparation}

/-- A proposal is prepared with one new id at most. -/
theorem Prepares.next (h : t.Prepares p) :
    p.tree.ids.next = t.ids.next ∨ p.tree.ids.next = t.ids.next + 1 := by
  cases h with
  | destroyFormat => exact Or.inr rfl
  | _ => exact Or.inl rfl

theorem adoptFormat_next {id : ObjectId} {typeName mountPoint : String}
    (h : t.adoptFormat id typeName mountPoint = .ok t') :
    t'.ids.next = t.ids.next ∨ t'.ids.next = t.ids.next + 1 := by
  unfold adoptFormat at h
  split at h
  · cases h
    exact Or.inl rfl
  · obtain ⟨result, hNew, rfl⟩ := map_ok h
    unfold newFormat at hNew
    split at hNew
    · cases hNew
    · cases hNew
      exact Or.inr rfl

end DeviceTree

namespace Session

variable {s s' s'' : Session} {p : Preparation} {id : ObjectId} {a : Action}

/-! ## New ids -/

/-- The next id is valid and follows the ids of all stored objects. -/
structure Fresh (s : Session) : Prop where
  next_ne_zero : s.tree.ids.next ≠ 0
  lt_next : ∀ id ∈ s.storedIds, id < s.tree.ids.next

-- the stored ids are run through, not all ids
instance (s : Session) : Decidable s.Fresh :=
  have : Decidable (∀ id ∈ s.storedIds, id < s.tree.ids.next) := List.decidableBAll _ _
  decidable_of_iff (s.tree.ids.next ≠ 0 ∧ ∀ id ∈ s.storedIds, id < s.tree.ids.next)
    ⟨fun h => ⟨h.1, h.2⟩, fun h => ⟨h.1, h.2⟩⟩

/-- The counter does not wrap before the last of the ids that are drawn between two states. -/
def Onward (s s' : Session) : Prop :=
  s.tree.ids.next.toNat + (s'.tree.ids.next - s.tree.ids.next).toNat ≤ 2 ^ 64

instance (s s' : Session) : Decidable (s.Onward s') := Nat.decLe _ _

/-- **Every id that is drawn names nothing yet.** -/
theorem Fresh.drawn (h : s.Fresh) (hOnward : s.Onward s')
    (hid : id - s.tree.ids.next < s'.tree.ids.next - s.tree.ids.next) :
    id ≠ 0 ∧ id ∉ s.storedIds := by
  unfold Onward at hOnward
  have hPast : s.tree.ids.next.toNat ≤ id.toNat := by
    have hSum : id = s.tree.ids.next + (id - s.tree.ids.next) := by grind
    rw [UInt64.lt_iff_toNat_lt] at hid
    rw [hSum, UInt64.toNat_add, Nat.mod_eq_of_lt (by omega)]
    exact Nat.le_add_right _ _
  refine ⟨?_, fun hStored => ?_⟩
  · rintro rfl
    exact h.next_ne_zero (UInt64.toNat_inj.mp (Nat.le_zero.mp hPast))
  · have hLt := UInt64.lt_iff_toNat_lt.mp (h.lt_next id hStored)
    omega

/-- The id that a prepared action draws names nothing yet. -/
theorem Fresh.next_new (h : s.Fresh) (hPrepares : s.tree.Prepares p)
    (hOnward : s.Onward (s.carryOut p)) :
    p.tree.ids.next ≠ 0 ∧ p.tree.ids.next ∉ s.storedIds := by
  refine h.drawn hOnward ?_
  show _ < p.tree.ids.next + 1 - s.tree.ids.next
  rcases hPrepares.next with hNext | hNext
  · rw [hNext, show s.tree.ids.next - s.tree.ids.next = 0 by grind,
      show s.tree.ids.next + 1 - s.tree.ids.next = 1 by grind]
    decide
  · rw [hNext, show s.tree.ids.next + 1 - s.tree.ids.next = 1 by grind,
      show s.tree.ids.next + 1 + 1 - s.tree.ids.next = 2 by grind]
    decide

/-- **A prepared action finds its id free.** -/
theorem Fresh.stores (h : s.Fresh) (hPrepares : s.tree.Prepares p)
    (hOnward : s.Onward (s.carryOut p)) : s.actions.insert? (s.actionOf p) ≠ none := by
  obtain ⟨hZero, hNew⟩ := h.next_new hPrepares hOnward
  intro hNone
  rcases Arena.insert?_eq_none_iff.mp hNone with hTaken | hTaken
  · exact hZero hTaken
  · exact hNew (List.mem_append_right _ hTaken)

/-! ## What a refusal leaves -/

/-- The sessions differ in what was written into the log between them. -/
def Logged (s s' : Session) : Prop :=
  ∃ records, s' = { s with
    log := s.log ++ records, nextSequence := s.nextSequence + records.length }

/-- The same devices are present, in the same order, the same actions are registered, and what is
stored is so as it was. -/
structure Untouched (s s' : Session) : Prop where
  records : s.tree.SameRecords s'.tree
  registry : s'.registry = s.registry
  stored : s.tree.Grows s'.tree
  action? : ∀ id a, s.action? id = some a → s'.action? id = some a

theorem Logged.refl (s : Session) : s.Logged s := ⟨[], by rw [List.append_nil]; rfl⟩

theorem logged_record (s : Session) (level : LogLevel) (event : LogEvent) (action : ObjectId)
    (message : String) : s.Logged (s.record level event action message) := ⟨[_], rfl⟩

theorem Untouched.refl (s : Session) : s.Untouched s :=
  ⟨.refl s.tree, rfl, .refl s.tree, fun _ _ h => h⟩

/-! ## Proposing -/

/-- What becomes of a proposal. -/
inductive Proposed (s : Session) (o : Outcome ObjectId) (s' : Session) : Prop
  | refused (hOk : o.ok = false) (hSame : s' = s)
  /-- The id of the action is taken. -/
  | dropped (p : Preparation) (hPrepares : s.tree.Prepares p)
      (hTaken : s.actions.insert? (s.actionOf p) = none) (hOk : o.ok = false)
      (hSame : s' = s.carryOut p)
  | stored (p : Preparation) (actions : Arena Action) (hPrepares : s.tree.Prepares p)
      (hInsert : s.actions.insert? (s.actionOf p) = some actions) (hOk : o.ok = true)
      (hValue : o.value = (s.actionOf p).id)
      (hSame : ({ s.carryOut p with actions } : Session).Same s')

theorem proposed (s : Session) (proposal : Proposal) :
    s.Proposed (s.propose proposal).1 (s.propose proposal).2 := by
  unfold propose
  cases hPrepare : s.tree.prepare proposal with
  | error cause => exact .refused rfl rfl
  | ok p =>
    have hPrepares := DeviceTree.prepares_of_prepare hPrepare
    have hActions : (s.carryOut p).actions = s.actions := rfl
    simp only [construct, hActions]
    cases hInsert : s.actions.insert? (s.actionOf p) with
    | none => exact .dropped p hPrepares hInsert rfl rfl
    | some actions => exact .stored p actions hPrepares hInsert rfl rfl ⟨rfl, rfl, rfl⟩

theorem Fresh.propose_of_refused (h : s.Fresh) {proposal : Proposal}
    (hOnward : s.Onward (s.propose proposal).2) (hRefused : (s.propose proposal).1.ok = false) :
    (s.propose proposal).2 = s := by
  cases proposed s proposal with
  | refused hOk hSame => exact hSame
  | dropped p hPrepares hTaken hOk hSame =>
    exact absurd hTaken (h.stores hPrepares (hSame ▸ hOnward))
  | stored p actions hPrepares hInsert hOk hValue hSame =>
    rw [hRefused] at hOk
    cases hOk

/-! ## The other calls -/

theorem answerTree_of_refused {result : Except Refusal (ObjectId × DeviceTree)}
    {changes : ObjectId → Changes} (hRefused : (s.answerTree result changes).1.ok = false) :
    (s.answerTree result changes).2 = s := by
  cases result with
  | error cause => rfl
  | ok answer => cases hRefused

theorem logged_register (hRefused : (s.register id).1.ok = false) :
    s.Logged (s.register id).2 := by
  rcases register_cases s id with
    hSame | ⟨message, hSame⟩ | ⟨a, t, changes, message, ha, hState, hApply, _⟩
  · rw [hSame]
    exact .refl s
  · rw [hSame]
    exact logged_record s _ _ _ _
  · simp [register, ha, hState, hApply, Outcome.ok] at hRefused

theorem logged_cancel (hRefused : (s.cancel id).1.ok = false) : s.Logged (s.cancel id).2 := by
  rcases cancel_cases s id with hSame | ⟨message, hSame⟩ | ⟨a, message, ha, hState, _⟩ |
    ⟨a, t, changes, message, ha, hState, hUndo, _⟩
  · rw [hSame]
    exact .refl s
  · rw [hSame]
    exact logged_record s _ _ _ _
  · simp [cancel, ha, hState, withdraw, Outcome.ok] at hRefused
  · simp [cancel, ha, hState, hUndo, withdraw, Outcome.ok] at hRefused

theorem logged_sort (s : Session) : s.Logged s.sort.2 := by
  obtain ⟨level, message, hSame⟩ := sort_cases s
  rw [hSame]
  exact logged_record s _ _ _ _

/-- Taking in a device draws an id for its blank format, one for the device and, at most, one more
for the format that it brings. -/
theorem adoptDevice_next {draft : DeviceDraft} {typeName mountPoint : String} {t : DeviceTree}
    (hNew : s.tree.newDevice { draft with onMedia := true } = .ok (id, t)) :
    let next := (s.adoptDevice draft typeName mountPoint).2.tree.ids.next
    next = s.tree.ids.next + 1 + 1 ∨ next = s.tree.ids.next + 1 + 1 + 1 := by
  have hBare : t.ids.next = s.tree.ids.next + 1 + 1 := by
    obtain ⟨name, number, rfl⟩ := DeviceTree.eq_storeDevice_of_newDevice hNew
    rfl
  rw [← hBare]
  unfold Session.adoptDevice
  simp only [hNew]
  cases hFormat : t.adoptFormat id typeName mountPoint with
  | error cause => exact Or.inl rfl
  | ok formatted =>
    have hNext := DeviceTree.adoptFormat_next hFormat
    dsimp only
    cases hAdd : formatted.add id with
    | error cause => exact hNext
    | ok added =>
      obtain ⟨_, _, _, rfl⟩ := DeviceTree.add_ok hAdd
      exact hNext

/-- A device that is taken in has an id of its own. -/
theorem Fresh.newDevice (h : s.Fresh) {draft : DeviceDraft} {typeName mountPoint : String}
    {t : DeviceTree} (hNew : s.tree.newDevice { draft with onMedia := true } = .ok (id, t))
    (hOnward : s.Onward (s.adoptDevice draft typeName mountPoint).2) :
    s.tree.device? id = none := by
  have hDrawn : s.tree.ids.next + 1 - s.tree.ids.next
      < (s.adoptDevice draft typeName mountPoint).2.tree.ids.next - s.tree.ids.next := by
    rw [show s.tree.ids.next + 1 - s.tree.ids.next = 1 by grind]
    rcases adoptDevice_next hNew with hNext | hNext
    · rw [hNext, show s.tree.ids.next + 1 + 1 - s.tree.ids.next = 2 by grind]
      decide
    · rw [hNext, show s.tree.ids.next + 1 + 1 + 1 - s.tree.ids.next = 3 by grind]
      decide
  obtain ⟨hZero, hFree⟩ := h.drawn hOnward hDrawn
  have hFree : s.tree.ids.next + 1 ∉ s.tree.devices.ids := fun hTaken =>
    hFree (List.mem_append_left _ (List.mem_append_left _ hTaken))
  obtain ⟨_, _, name, number, hStore⟩ := DeviceTree.newDevice_ok hNew
  rcases s.tree.storeDevice_ids { draft with onMedia := true } name number with
    ⟨_, hId⟩ | ⟨_, hTaken⟩
  · have hId : id = s.tree.ids.next + 1 := (congrArg Prod.fst hStore).trans hId
    rw [← Option.not_isSome_iff_eq_none, DeviceTree.device?, Arena.isSome_find?_iff, hId]
    exact hFree
  · exact absurd hTaken (not_or.mpr ⟨hZero, hFree⟩)

theorem Fresh.untouched_adoptDevice (h : s.Fresh) {draft : DeviceDraft}
    {typeName mountPoint : String} (hOnward : s.Onward (s.adoptDevice draft typeName mountPoint).2)
    (hRefused : (s.adoptDevice draft typeName mountPoint).1.ok = false) :
    s.Untouched (s.adoptDevice draft typeName mountPoint).2 := by
  have hStored : s.tree.Grows (s.adoptDevice draft typeName mountPoint).2.tree :=
    adoptDevice_grows fun _ _ hNew => h.newDevice hNew hOnward
  rcases adoptDevice_cases s draft typeName mountPoint with
    ⟨_, hSame⟩ | ⟨id, bare, t, hNew, hFormat, ⟨_, hAfter⟩ | ⟨hOk, _⟩⟩
  · rw [hSame]
    exact .refl s
  · rw [hAfter] at hStored ⊢
    refine ⟨?_, rfl, hStored, fun _ _ h => h⟩
    obtain ⟨name, number, rfl⟩ := DeviceTree.eq_storeDevice_of_newDevice hNew
    exact (s.tree.sameRecords_storeDevice _ name number).trans
      (DeviceTree.SameLayout.of_adopted hFormat).records
  · rw [hRefused] at hOk
    cases hOk

/-- **Refused calls are atomic.**  With ids that are new when they are drawn, a call on one object
that is refused only writes into the log: all that is present, stored and registered, and the next
id, stay as they were.  A refused adoption may leave the device behind that it stored, and nothing
else has changed. -/
theorem perform_of_refused (s : Session) (command : Command) (hFresh : s.Fresh)
    (hOnward : s.Onward (s.perform command).2) (hRefused : (s.perform command).1.ok = false) :
    (command.isSingle = true → s.Logged (s.perform command).2) ∧
    ∀ draft typeName mountPoint, command = .adoptDevice draft typeName mountPoint →
      s.Untouched (s.perform command).2 := by
  refine ⟨fun hSingle => ?_, ?_⟩
  · have hSame : ∀ {result changes}, (s.answerTree result changes).1.ok = false →
        s.Logged (s.answerTree result changes).2 := by
      intro result changes hRefused
      rw [answerTree_of_refused hRefused]
      exact .refl s
    cases command with
    | newDevice | newFormat | addDevice | removeDevice => exact hSame hRefused
    | propose p =>
      show s.Logged (s.propose p).2
      rw [hFresh.propose_of_refused hOnward hRefused]
      exact .refl s
    | register id => exact logged_register hRefused
    | cancel id => exact logged_cancel hRefused
    | sort => exact logged_sort s
    | _ => cases hSingle
  · rintro draft typeName mountPoint rfl
    exact hFresh.untouched_adoptDevice hOnward hRefused

/-- The creation of a disk on which a planned partition stands cannot be withdrawn, and a second
partition of one name cannot be taken in. -/
theorem perform_of_refused_of_dependent :
    let commands : List Command := [
      .adoptDevice { name := "sda", kind := .disk, size := gibibytes 100 } "" "",
      .adoptDevice { name := "sda1", kind := .partition, size := gibibytes 10, parents := [2] }
        "ext4" "/",
      .newDevice { name := "sdb", kind := .disk, size := gibibytes 100 },
      .schedule (.createDevice 7),
      .newDevice { name := "sdb1", kind := .partition, size := gibibytes 10, parents := [7] },
      .schedule (.createDevice 10)]
    let s := ({} : Session).performAll commands
    let adopt : Command := .adoptDevice
      { name := "sda1", kind := .partition, size := gibibytes 20, parents := [2] } "xfs" "/srv"
    (s.Fresh ∧ s.Onward (s.perform (.cancel 8)).2 ∧ (s.perform (.cancel 8)).1.ok = false ∧
      s.Onward (s.perform adopt).2 ∧ (s.perform adopt).1.ok = false) ∧
    s.Logged (s.perform (.cancel 8)).2 ∧ s.Untouched (s.perform adopt).2 := by
  intro commands s adopt
  have hFresh : s.Fresh := by decide +kernel
  have hCancel : s.Onward (s.perform (.cancel 8)).2 ∧ (s.perform (.cancel 8)).1.ok = false := by
    decide +kernel
  have hAdopt : s.Onward (s.perform adopt).2 ∧ (s.perform adopt).1.ok = false := by
    decide +kernel
  exact ⟨⟨hFresh, hCancel.1, hCancel.2, hAdopt⟩,
    (perform_of_refused s _ hFresh hCancel.1 hCancel.2).1 rfl,
    (perform_of_refused s _ hFresh hAdopt.1 hAdopt.2).2 _ _ _ rfl⟩

/-! ## Scheduling -/

/-- An action that was refused its registration can be withdrawn. -/
theorem cancel_ok_of_refused (ha : s.action? id = some a) (hState : a.state = .constructed)
    {cause : Refusal} (hApply : s.tree.applyRegistration a = .error cause) :
    ((s.register id).2.cancel id).1.ok = true := by
  have hRefused : (s.register id).1.ok = false := by
    by_contra hOk
    rw [Bool.not_eq_false] at hOk
    obtain ⟨b, changes, hb, hApplied⟩ := register_ok hOk
    obtain rfl : a = b := Option.some.inj (ha.symm.trans hb)
    cases hApply.symm.trans hApplied
  have ha' := ((register_of_refused hRefused).action? id).trans ha
  simp only [cancel, ha', hState]
  rfl

/-- Taking back an action that was only constructed leaves what was there before it. -/
theorem untouched_of_takenBack (hPrepares : s.tree.Prepares p) {actions : Arena Action}
    (hInsert : s.actions.insert? (s.actionOf p) = some actions)
    (hStored : ({ s.carryOut p with actions } : Session).Same s')
    (hBack : ({ s' with tree := (s'.tree.undoConstruction (s.actionOf p)).1 }.setState
      (s.actionOf p).id .cancelled).Same s'') : s.Untouched s'' where
  records := by
    have hCarried : s'.tree = (s.carryOut p).tree := hStored.tree
    rw [hBack.tree, setState_tree, hCarried]
    exact undo_carryOut_records hPrepares
  registry := hBack.registry.trans hStored.registry
  stored := by
    have hUndone := undo_carryOut hPrepares
    rw [hBack.tree]
    show s.tree.Grows (s'.tree.undoConstruction (s.actionOf p)).1
    rw [hStored.tree]
    exact hUndone.grows
  action? := fun id b hb =>
    (hBack.action? id).trans (action?_of_new hInsert hStored.actions _ hb)

/-- **Scheduling is all or nothing.**  With ids that are new when they are drawn, a proposal is
scheduled and the plan is the old one with the new action appended, or it is refused: then what is
present, registered and stored is as before, and an action that was constructed ends withdrawn.  The
withdrawal is never refused. -/
theorem schedule_all_or_nothing (s : Session) (proposal : Proposal) (hFresh : s.Fresh)
    (hOnward : s.Onward (s.schedule proposal).2) :
    let proposing := s.propose proposal
    let answer := s.schedule proposal
    (answer.1.ok = true ∧ proposing.1.ok = true ∧ s.action? proposing.1.value = none ∧
      answer.1.value = proposing.1.value ∧
      answer.2.registry = s.registry ++ [proposing.1.value] ∧
      ∃ a, answer.2.action? proposing.1.value = some a ∧ a.state = .registered) ∨
    (answer.1.ok = false ∧ s.Untouched answer.2 ∧
      (proposing.1.ok = true →
        (∃ a, answer.2.action? proposing.1.value = some a ∧ a.state = .cancelled) ∧
        ((proposing.2.register proposing.1.value).2.cancel proposing.1.value).1.ok = true)) := by
  intro proposing answer
  cases proposed s proposal with
  | refused hOk hSame =>
    have hAnswer : answer = proposing := if_neg (by simp [hOk])
    rw [hAnswer, hSame]
    exact Or.inr ⟨hOk, .refl s, fun hOk' => absurd (hOk.symm.trans hOk') Bool.false_ne_true⟩
  | dropped p hPrepares hTaken hOk hSame =>
    have hAnswer : answer = proposing := if_neg (by simp [hOk])
    have hDropped : answer.2 = s.carryOut p := hAnswer ▸ hSame
    exact absurd hTaken (hFresh.stores hPrepares (hDropped ▸ hOnward))
  | stored p actions hPrepares hInsert hOk hValue hSame =>
    have hAnswer : answer = proposing.2.registerOrCancel (s.actionOf p).id :=
      hValue ▸ if_pos hOk
    have hStored : proposing.2.action? (s.actionOf p).id = some (s.actionOf p) := by
      rw [hSame.action?]
      exact (Arena.find?_insert? hInsert _).trans (if_pos rfl)
    rw [hAnswer, hValue]
    cases hApply : proposing.2.tree.applyRegistration (s.actionOf p) with
    | ok result =>
      obtain ⟨hOk', hValue', hAfter⟩ := registerOrCancel_of_applied hStored rfl hApply
      refine Or.inl ⟨hOk', hOk, (Arena.insert?_eq_some hInsert).2.2, hValue', ?_,
        { s.actionOf p with state := .registered }, ?_, rfl⟩
      · exact hAfter.registry.trans (congrArg (· ++ _) hSame.registry)
      · exact (hAfter.action? _).trans (action?_self_of_new hInsert hSame.actions _)
    | error cause =>
      obtain ⟨hRefused, hAfter⟩ := registerOrCancel_of_error hStored rfl hApply
      refine Or.inr ⟨hRefused, untouched_of_takenBack hPrepares hInsert hSame hAfter, fun _ =>
        ⟨⟨{ s.actionOf p with state := .cancelled }, ?_, rfl⟩, ?_⟩⟩
      · exact (hAfter.action? _).trans (action?_self_of_new hInsert hSame.actions _)
      · exact cancel_ok_of_refused hStored rfl hApply

/-- A format is put on a partition that is not in the tree, and is taken off again. -/
theorem schedule_all_or_nothing_of_absent :
    let commands : List Command := [
      .adoptDevice { name := "sda", kind := .disk, size := gibibytes 100 } "" "",
      .newDevice { name := "sda1", kind := .partition, size := gibibytes 10, parents := [2] },
      .newFormat "xfs" "/srv" false]
    let s := ({} : Session).performAll commands
    let p := Proposal.createFormat 4 5
    (s.Fresh ∧ s.Onward (s.schedule p).2 ∧ (s.schedule p).1.ok = false ∧
      (s.propose p).1 = { value := 6, changes := { created := [6], updated := [4] } } ∧
      ((s.propose p).2.tree.device? 4).map Device.formatId = some 5) ∧
    s.Untouched (s.schedule p).2 ∧
      (∃ a, (s.schedule p).2.action? 6 = some a ∧ a.state = .cancelled) ∧
      (((s.propose p).2.register 6).2.cancel 6).1.ok = true := by
  intro commands s p
  have hFresh : s.Fresh := by decide +kernel
  have hOnward : s.Onward (s.schedule p).2 := by decide +kernel
  have hRefused : (s.schedule p).1.ok = false := by decide +kernel
  have hProposed :
      (s.propose p).1 = { value := 6, changes := { created := [6], updated := [4] } } := by
    decide +kernel
  refine ⟨⟨hFresh, hOnward, hRefused, hProposed, by decide +kernel⟩, ?_⟩
  rcases schedule_all_or_nothing s p hFresh hOnward with ⟨hOk, _⟩ | ⟨_, hUntouched, hBack⟩
  · exact absurd (hRefused.symm.trans hOk) Bool.false_ne_true
  · rw [hProposed] at hBack
    exact ⟨hUntouched, hBack rfl⟩

end Session

end StoragePlan

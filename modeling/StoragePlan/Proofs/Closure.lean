import StoragePlan.Proofs.Numbering

/-!
# The tree is closed under parents

A device enters the tree after its parents and leaves it when nothing stands on it, and only a
present member is registered with a container.  The withdrawal of a removal does not ask whether the
member is still there.

* `Session.closed_iff_validate`: the check of a session reports a parent outside the tree exactly
  when the tree is not `Closed`.
* `Session.Linked.closed_schedule`: **scheduling keeps the tree closed**.
* `Session.closed_along_iff`: a run of schedulings and withdrawals passes through closed trees only
  **exactly when every member that it puts back into a present container is present**.
-/

namespace StoragePlan

namespace DeviceTree

variable {t t' : DeviceTree} {a : Action} {c d m id : ObjectId} {p : Preparation}

/-- Every parent of a present device is present. -/
def Closed (t : DeviceTree) : Prop := ∀ d ∈ t.order, ∀ p ∈ t.parentsOf d, p ∈ t.order

-- the lists are walked through, not all ids
instance (t : DeviceTree) : Decidable t.Closed :=
  have (d : ObjectId) : Decidable (∀ p ∈ t.parentsOf d, p ∈ t.order) :=
    List.decidableBAll _ (t.parentsOf d)
  List.decidableBAll _ t.order

theorem closed_empty : ({} : DeviceTree).Closed := fun _ h => absurd h List.not_mem_nil

/-! ## Changes -/

theorem Closed.of_parents (h : t.Closed) (hOrder : t'.order = t.order)
    (hParents : ∀ d ∈ t.order, ∀ p ∈ t'.parentsOf d, p ∈ t.parentsOf d ∨ p ∈ t.order) :
    t'.Closed := by
  intro d hd p hp
  rw [hOrder] at hd ⊢
  exact (hParents d hd p hp).elim (h d hd p) id

theorem Closed.of_sameLayout (h : t.Closed) (hLayout : t.SameLayout t') : t'.Closed :=
  h.of_parents hLayout.order fun d _ _ hp => Or.inl (hLayout.parentsOf d ▸ hp)

theorem Closed.lose (h : t.Closed) {change : List ObjectId → List ObjectId}
    (hSub : ∀ l, (change l).Sublist l) : (t.changeParents c change).Closed :=
  h.of_parents rfl fun d _ _ hp => Or.inl ((parentsOf_sublist hSub d).subset hp)

theorem Closed.storeDevice (h : t.Closed) (hLinked : t.Linked) (draft : DeviceDraft) (name : String)
    (number : Int) : (t.storeDevice draft name number).2.Closed := by
  refine h.of_parents rfl fun d hd p hp => Or.inl ?_
  rwa [(storeDevice_extends t draft name number).parentsOf (hLinked.stored d hd)] at hp

theorem Closed.newDevice (h : t.Closed) (hLinked : t.Linked) {draft : DeviceDraft}
    (hNew : t.newDevice draft = .ok (id, t')) : t'.Closed := by
  obtain ⟨name, number, rfl⟩ := eq_storeDevice_of_newDevice hNew
  exact h.storeDevice hLinked draft name number

theorem Closed.add (h : t.Closed) (hInStep : t.InStep) (hAdd : t.add id = .ok t') :
    t'.Closed := by
  obtain ⟨_, _, hPresent, rfl⟩ := add_ok hAdd
  intro d hd p hp
  rcases List.mem_append.mp hd with hd | hd
  · exact List.mem_append_left _ (h d hd p hp)
  · rw [List.mem_singleton.mp hd] at hp
    exact List.mem_append_left _ ((hInStep.contains_iff p).mp (hPresent p hp))

theorem Closed.remove (h : t.Closed) (hRemove : t.remove id = .ok t') : t'.Closed := by
  obtain ⟨_, hLeaf, rfl⟩ := remove_ok hRemove
  intro d hd p hp
  have hIn := (List.mem_filter.mp hd).1
  refine List.mem_filter.mpr ⟨h d hIn p hp, ?_⟩
  rw [decide_eq_true_eq]
  rintro rfl
  exact hLeaf d hIn hp

theorem Closed.of_moves (h : t.Closed) (hInStep : t.InStep) {enters leaves : ActionKind}
    (hMoves : t.Moves t' a enters leaves) : t'.Closed := by
  rcases hMoves with ⟨_, hAdd⟩ | ⟨_, hRemove⟩ | ⟨_, _, rfl⟩
  · exact h.add hInStep hAdd
  · exact h.remove hRemove
  · exact h

theorem Closed.undoConstruction (h : t.Closed) (hLeaves : a.leaves? = none) :
    (t.undoConstruction a).1.Closed := by
  rcases t.undoConstruction_cases hLeaves with hLayout | ⟨c, change, hSub, hUndo⟩
  · exact h.of_sameLayout hLayout
  · rw [hUndo]
    exact h.lose hSub

/-- One more member keeps a tree closed exactly when it is present or its container is not. -/
theorem Closed.join_iff (h : t.Closed) (hc : (t.device? c).isSome)
    {change : List ObjectId → List ObjectId}
    (hChange : ∀ p, p ∈ change (t.parentsOf c) ↔ p = m ∨ p ∈ t.parentsOf c) :
    (t.changeParents c change).Closed ↔ (c ∈ t.order → m ∈ t.order) := by
  have hParents := parentsOf_changeParents hc change
  constructor
  · intro h' hIn
    refine h' c hIn m ?_
    rw [hParents, if_pos rfl]
    exact (hChange m).mpr (Or.inl rfl)
  · intro hMember
    refine h.of_parents rfl fun d hd p hp => ?_
    rw [hParents] at hp
    split at hp
    · rename_i hdc
      subst hdc
      rcases (hChange p).mp hp with rfl | hp
      · exact Or.inr (hMember hd)
      · exact Or.inl hp
    · exact Or.inl hp

/-- A preparation keeps a tree closed unless it adds an absent member to a present container. -/
theorem Closed.prepares (h : t.Closed) (hPrepares : t.Prepares p)
    (hMember : ∀ c, p.operation = .addMember c → c ∈ t.order → p.device ∈ t.order) :
    p.tree.Closed := by
  cases hPrepares with
  | createDevice | destroyDevice => exact h
  | createFormat => exact h.of_sameLayout (setFormat_layout t _ _)
  | destroyFormat =>
    exact h.of_sameLayout ((storeFormat_layout t _ _ _).trans (setFormat_layout _ _ _))
  | resizeDevice => exact h.of_sameLayout (sameLayout_modifyDevice _ _ _ _ fun _ => rfl)
  | resizeFormat => exact h.of_sameLayout ⟨rfl, rfl, rfl⟩
  | addMember hc hm hne hFree hNew =>
    refine (h.join_iff (Option.isSome_of_eq_some hc) fun p => ?_).mpr (hMember _ rfl)
    rw [List.mem_append, List.mem_singleton, or_comm]
  | removeMember => exact h.lose fun l => List.erase_sublist

/-! ## What the check reports -/

theorem code_mem_deviceIssues (hInStep : t.InStep) {earlier : List String} {device : Device} :
    (∃ issue ∈ t.deviceIssues earlier device, issue.code = "ParentNotInTree") ↔
      ∃ p ∈ device.parents, p ∉ t.order := by
  have hAbsent := hInStep.contains_eq_false_iff
  constructor
  · rintro ⟨issue, hIssue, hCode⟩
    rcases mem_deviceIssues.mp hIssue with ⟨_, rfl⟩ | ⟨⟨p, hp, hOut⟩, _⟩ | ⟨_, rfl⟩ | ⟨_, rfl⟩
    · exact absurd hCode (by simp [Issue.code])
    · exact ⟨p, hp, (hAbsent p).mp hOut⟩
    · exact absurd hCode (by simp [Issue.code])
    · exact absurd hCode (by simp [Issue.code])
  · rintro ⟨p, hp, hOut⟩
    exact ⟨.parentNotInTree device.id device.name,
      mem_deviceIssues.mpr (Or.inr (Or.inl ⟨⟨p, hp, (hAbsent p).mpr hOut⟩, rfl⟩)), rfl⟩

theorem code_mem_issuesFrom (hInStep : t.InStep) (earlier : List String) (devices : List Device) :
    (∃ issue ∈ t.issuesFrom earlier devices, issue.code = "ParentNotInTree") ↔
      ∃ device ∈ devices, ∃ p ∈ device.parents, p ∉ t.order := by
  induction devices generalizing earlier with
  | nil => simp [issuesFrom]
  | cons device devices ih =>
    simp only [issuesFrom, List.mem_append, or_and_right, exists_or,
      code_mem_deviceIssues hInStep, ih, List.mem_cons, exists_eq_left]

theorem closed_iff_present :
    t.Closed ↔ ∀ device ∈ t.present, ∀ p ∈ device.parents, p ∈ t.order := by
  constructor
  · intro h device hDevice p hp
    obtain ⟨hIn, hd⟩ := mem_present.mp hDevice
    exact h device.id hIn p (builtOn_iff.mpr ⟨device, hd, hp⟩)
  · intro h d hIn p hBuilt
    obtain ⟨device, hd, hp⟩ := builtOn_iff.mp hBuilt
    obtain rfl : device.id = d := Arena.id_of_find? hd
    exact h device (mem_present.mpr ⟨hIn, hd⟩) p hp

end DeviceTree

namespace Session

variable {s : Session} {command : Command} {n : Nat}

/-- A member that a command puts back into a present container is present. -/
def putBackPresent (s : Session) (command : Command) : Bool :=
  (s.putBack? command).all fun (c, m) => !s.tree.contains c || s.tree.contains m

/-- **The check of a session reports a parent outside the tree exactly when there is one.** -/
theorem closed_iff_validate (hInStep : s.tree.InStep) :
    s.tree.Closed ↔ ∀ issue ∈ s.validate, issue.code ≠ "ParentNotInTree" := by
  have hTree := DeviceTree.code_mem_issuesFrom hInStep [] s.tree.present
  have hState : ∀ issue ∈ s.stateIssues, issue.code ≠ "ParentNotInTree" := by
    intro issue hIssue
    obtain ⟨a, _, rfl⟩ := List.mem_map.mp hIssue
    simp [Issue.code]
  have hPending : ∀ issue ∈ s.pendingIssues, issue.code ≠ "ParentNotInTree" := by
    intro issue hIssue
    obtain ⟨d, _, rfl⟩ := List.mem_map.mp hIssue
    simp [Issue.code]
  rw [DeviceTree.closed_iff_present, ← not_iff_not]
  push Not
  rw [← hTree]
  unfold validate
  constructor
  · rintro ⟨issue, hIssue, hCode⟩
    exact ⟨issue, List.mem_append_left _ (List.mem_append_left _ hIssue), hCode⟩
  · rintro ⟨issue, hIssue, hCode⟩
    rcases List.mem_append.mp hIssue with hIssue | hIssue
    · rcases List.mem_append.mp hIssue with hIssue | hIssue
      · exact ⟨issue, hIssue, hCode⟩
      · exact absurd hCode (hState issue hIssue)
    · exact absurd hCode (hPending issue hIssue)

/-! ## Calls -/

theorem closed_newDevice (hLinked : s.tree.Linked) (h : s.tree.Closed) (draft : DeviceDraft) :
    (s.newDevice draft).2.tree.Closed := by
  unfold newDevice answerTree
  split
  · exact h
  · rename_i id t hNew
    exact h.newDevice hLinked hNew

theorem closed_newFormat (h : s.tree.Closed) (typeName mountPoint : String) (onMedia : Bool) :
    (s.newFormat typeName mountPoint onMedia).2.tree.Closed := by
  unfold newFormat answerTree
  split
  · exact h
  · rename_i id t hNew
    exact h.of_sameLayout (DeviceTree.newFormat_layout hNew)

theorem closed_adoptDevice (hLinked : s.tree.Linked) (h : s.tree.Closed) (draft : DeviceDraft)
    (typeName mountPoint : String) :
    (s.adoptDevice draft typeName mountPoint).2.tree.Closed := by
  rcases adoptDevice_cases s draft typeName mountPoint with
    ⟨_, hSame⟩ | ⟨id, bare, t, hNew, hFormat, ⟨_, hAfter⟩ | ⟨_, _, t', hAdd, hAfter⟩⟩
  · rw [hSame]
    exact h
  · rw [hAfter]
    exact (h.newDevice hLinked hNew).of_sameLayout (.of_adopted hFormat)
  · rw [hAfter]
    have hLayout := DeviceTree.SameLayout.of_adopted hFormat
    have hInStep := ((DeviceTree.newDevice_edit hNew).inStep hLinked.inStep).of_same hLayout.records
    exact ((h.newDevice hLinked hNew).of_sameLayout hLayout).add hInStep hAdd

/-- **Scheduling keeps the tree closed** while ids are left. -/
theorem closed_schedule (hNumbered : s.Numbered n) (hInStep : s.tree.InStep) (h : s.tree.Closed)
    {p : Proposal}
    (hFew : (s.schedule p).2.storedIds.length < 2 ^ 64 - 1) : (s.schedule p).2.tree.Closed := by
  cases scheduled s p with
  | refused hOk hSame => exact hSame.tree ▸ h
  | dropped preparation hPrepares hTaken hOk hSame =>
    rw [storedIds, hSame.tree, hSame.actions] at hFew
    exact absurd hTaken (hNumbered.stores hPrepares hFew)
  | registered preparation actions t changes hPrepares hInsert hApply hOk hValue hSame =>
    rw [hSame.tree]
    have hRecords := carryOut_records hPrepares
    have hPrepared : (s.carryOut preparation).tree.Closed := by
      refine h.prepares hPrepares fun c hOp _ => (hInStep.contains_iff _).mp ?_
      have hKind : (s.actionOf preparation).kind = .addMember := congrArg Operation.kind hOp
      rw [← hRecords.contains]
      exact DeviceTree.present_of_applyRegistration hApply (by simp [hKind])
    exact hPrepared.of_moves (hInStep.of_same hRecords) (DeviceTree.applyRegistration_ok hApply)
  | takenBack preparation actions cause hPrepares hInsert hApply hOk hSame =>
    rw [hSame.tree]
    exact h.of_sameLayout (undo_carryOut_layout hPrepares)

theorem closed_cancel (hInStep : s.tree.InStep) (h : s.tree.Closed) {id : ObjectId}
    (hRemoval : s.openRemoval? id = none) : (s.cancel id).2.tree.Closed := by
  have hLeaves := leaves_eq_none_of_openRemoval hRemoval
  cases cancelled s id with
  | refused hOk hSame => exact hSame.tree ▸ h
  | constructed a ha hState hOk hSame =>
    rw [hSame.tree]
    exact h.undoConstruction (hLeaves a ha (by simp [Action.isOpen, hState]))
  | registered a t changes ha hState hUndo hOk hSame =>
    rw [hSame.tree]
    exact (h.of_moves hInStep (DeviceTree.undoRegistration_ok hUndo)).undoConstruction
      (hLeaves a ha (by simp [Action.isOpen, hState]))

/-! ## Runs -/

theorem closed_perform_iff (hLinked : s.Linked) (hNumbered : s.Numbered n) (h : s.tree.Closed)
    (hCommand : command.makes = true ∨ command.schedules = true)
    (hFew : (s.perform command).2.storedIds.length < 2 ^ 64 - 1) :
    (s.perform command).2.tree.Closed ↔ s.putBackPresent command = true := by
  unfold putBackPresent
  cases hPut : s.putBack? command with
  | none =>
    refine iff_of_true ?_ rfl
    cases command with
    | newDevice draft => exact closed_newDevice hLinked.tree h draft
    | newFormat typeName mountPoint onMedia => exact closed_newFormat h typeName mountPoint onMedia
    | adoptDevice draft typeName mountPoint =>
      exact closed_adoptDevice hLinked.tree h draft typeName mountPoint
    | schedule p => exact closed_schedule hNumbered hLinked.tree.inStep h hFew
    | cancel id => exact closed_cancel hLinked.tree.inStep h hPut
    | _ => rcases hCommand with hCommand | hCommand <;> cases hCommand
  | some removal =>
    obtain ⟨hc, hm, position, hTree⟩ := hLinked.perform_of_putBack hPut
    rw [hTree, Option.all_some, h.join_iff hc fun p => DeviceTree.mem_insertAt]
    simp only [← hLinked.tree.inStep.contains_iff, Bool.or_eq_true, Bool.not_eq_true',
      Decidable.imp_iff_not_or, Bool.not_eq_true]

/-- **A run of schedulings and withdrawals passes through closed trees only, and the check never
reports a parent outside the tree, exactly when every member that is put back into a present
container is present.** -/
theorem closed_along_iff (commands : List Command)
    (hCommands : ∀ command ∈ commands, command.makes = true ∨ command.schedules = true)
    (hFew : (({} : Session).performAll commands).storedIds.length < 2 ^ 64 - 1) :
    ({} : Session).Along (fun s command => (s.perform command).2.tree.Closed ∧
      ∀ issue ∈ (s.perform command).2.validate, issue.code ≠ "ParentNotInTree") commands ↔
    ({} : Session).Along (fun s command => s.putBackPresent command = true) commands := by
  have hOverwrites : ∀ command ∈ commands, command.overwrites = false :=
    fun command hCommand => Command.overwrites_eq_false (hCommands command hCommand)
  have hAllowed := (along_of_forall hCommands ({} : Session)).and
    (numbered_empty.along_few hOverwrites hFew)
  refine along_good_iff (fun s => s.Linked ∧ s.Numbered 0)
    (fun s => s.tree.Closed ∧ ∀ issue ∈ s.validate, issue.code ≠ "ParentNotInTree")
    ?_ ?_ ⟨linked_empty, numbered_empty⟩ ?_ hAllowed
  · rintro s command ⟨hCommand, _⟩ ⟨hLinked, hNumbered⟩
    have hNone := Command.overwrites_eq_false hCommand
    exact ⟨hLinked.perform hNone, hNumbered.perform hNone⟩
  · rintro s command ⟨hCommand, hFew⟩ ⟨hLinked, hNumbered⟩ ⟨hClosed, _⟩
    rw [← closed_iff_validate (inStep_perform hLinked.tree.inStep command), and_self]
    exact closed_perform_iff hLinked hNumbered hClosed hCommand hFew
  · exact ⟨DeviceTree.closed_empty,
      (closed_iff_validate DeviceTree.inStep_empty).mp DeviceTree.closed_empty⟩

/-- A member goes back into its group, and once more after the group itself was destroyed. -/
theorem closed_along_of_destroyed_group :
    let commands : List Command := [
      .adoptDevice { name := "sda", kind := .disk } "" "",
      .adoptDevice { name := "sda1", kind := .partition, parents := [2] } "lvmpv" "",
      .adoptDevice { name := "sda2", kind := .partition, parents := [2] } "lvmpv" "",
      .adoptDevice { name := "vg", kind := .volumeGroup, parents := [4, 7] } "" "",
      .schedule (.removeMember 10 4), .cancel 11, .schedule (.removeMember 10 4),
      .schedule (.destroyDevice 10), .schedule (.destroyDevice 4), .cancel 12]
    ((∀ command ∈ commands, command.makes = true ∨ command.schedules = true) ∧
      (({} : Session).performAll commands).storedIds.length < 2 ^ 64 - 1 ∧
      ({} : Session).Along (fun s command => s.putBackPresent command = true) commands) ∧
    ({} : Session).Along (fun s command => (s.perform command).2.tree.Closed ∧
      ∀ issue ∈ (s.perform command).2.validate, issue.code ≠ "ParentNotInTree") commands := by
  intro commands
  have hCommands : ∀ command ∈ commands, command.makes = true ∨ command.schedules = true := by
    decide
  have hFew : (({} : Session).performAll commands).storedIds.length < 2 ^ 64 - 1 := by
    decide +kernel
  have hPresent : ({} : Session).Along (fun s command => s.putBackPresent command = true)
      commands := by decide +kernel
  exact ⟨⟨hCommands, hFew, hPresent⟩, (closed_along_iff commands hCommands hFew).mpr hPresent⟩

/-- A member is removed from its group and destroyed; when the removal is withdrawn the group stands
on a device that is not in the tree, and the check reports it. -/
theorem not_closed_of_destroyed_member :
    let commands : List Command := [
      .adoptDevice { name := "sda", kind := .disk } "" "",
      .adoptDevice { name := "sda1", kind := .partition, parents := [2] } "lvmpv" "",
      .adoptDevice { name := "sda2", kind := .partition, parents := [2] } "lvmpv" "",
      .adoptDevice { name := "vg", kind := .volumeGroup, parents := [4, 7] } "" "",
      .schedule (.removeMember 10 4), .schedule (.destroyDevice 4), .cancel 11]
    let s := ({} : Session).performAll commands
    (s.tree.order = [2, 7, 10] ∧ s.tree.parentsOf 10 = [4, 7] ∧ ¬ s.tree.Closed) ∧
    ∃ issue ∈ s.validate, issue.code = "ParentNotInTree" := by
  intro commands
  have hOpen : (({} : Session).performAll commands).tree.order = [2, 7, 10] ∧
      (({} : Session).performAll commands).tree.parentsOf 10 = [4, 7] ∧
      ¬ (({} : Session).performAll commands).tree.Closed := by decide +kernel
  refine ⟨hOpen, ?_⟩
  by_contra hNone
  have hInStep : (({} : Session).performAll commands).tree.InStep :=
    inStep_performAll DeviceTree.inStep_empty commands
  exact hOpen.2.2 ((closed_iff_validate hInStep).mpr fun issue hIssue hCode =>
    hNone ⟨issue, hIssue, hCode⟩)

end Session

end StoragePlan

import StoragePlan.Proofs.Balance
import StoragePlan.Proofs.Scheduling

/-!
# What calls do to the tree

Every call that does not write straight into stored objects changes the tree by a chain of `Edit`s:
the layout stays, a container gains or loses members, a device is stored, and devices enter and
leave the tree.  The withdrawal of a removed member is the one exception: it puts the member back
unchecked (`cancel_edits`).  An invariant of the tree is therefore shown for one edit at a time; the
first one is that the two records of presence stay in step (`inStep_performAll`).
-/

namespace StoragePlan

open Relation

/-- The container that a removal takes its device out of. -/
def Action.leaves? (a : Action) : Option ObjectId :=
  match a.operation with
  | .removeMember container _ => some container
  | _ => none

/-- Whether an action may still be withdrawn. -/
def Action.isOpen (a : Action) : Bool := a.state == .constructed || a.state == .registered

namespace Action

variable {a : Action} {c : ObjectId}

theorem operation_of_createDevice (h : a.kind = .createDevice) :
    a.operation = .createDevice := by
  unfold kind at h
  cases hOp : a.operation <;> rw [hOp] at h <;> cases h

theorem operation_of_destroyDevice (h : a.kind = .destroyDevice) :
    a.operation = .destroyDevice := by
  unfold kind at h
  cases hOp : a.operation <;> rw [hOp] at h <;> cases h

theorem operation_of_leaves (h : a.leaves? = some c) :
    ∃ position, a.operation = .removeMember c position := by
  unfold leaves? at h
  cases hOp : a.operation <;> rw [hOp] at h <;> cases h
  exact ⟨_, rfl⟩

theorem undoRegistration_of_leaves (h : a.leaves? = some c) (t : DeviceTree) :
    t.undoRegistration a = .ok (t, {}) := by
  obtain ⟨position, hOp⟩ := operation_of_leaves h
  simp only [DeviceTree.undoRegistration, hOp]

end Action

namespace DeviceTree

variable {t t' : DeviceTree} {p : Preparation} {a : Action} {d : ObjectId}

/-- A checked change to a tree. -/
inductive Edit (t : DeviceTree) : DeviceTree → Prop
  | layout {t' : DeviceTree} (h : t.SameLayout t') : Edit t t'
  | gain {c m : ObjectId} (hc : (t.device? c).isSome) (hm : (t.device? m).isSome) (hne : c ≠ m)
      (hFree : t.dependsOn m c = false) (hNew : m ∉ t.parentsOf c) :
      Edit t (t.changeParents c fun parents => parents ++ [m])
  | lose {c : ObjectId} {change : List ObjectId → List ObjectId}
      (hSub : ∀ l, (change l).Sublist l) : Edit t (t.changeParents c change)
  | store {draft : DeviceDraft} {name : String} {number : Int}
      (hStored : ∀ p ∈ draft.parents, (t.device? p).isSome) (hNodup : draft.parents.Nodup) :
      Edit t (t.storeDevice draft name number).2
  | add {id : ObjectId} {t' : DeviceTree} (h : t.add id = .ok t') : Edit t t'
  | remove {id : ObjectId} {force : Bool} {t' : DeviceTree} (h : t.remove id force = .ok t') :
      Edit t t'

/-- A chain of checked changes. -/
abbrev Edits : DeviceTree → DeviceTree → Prop := ReflTransGen Edit

theorem SameLayout.builtOn_iff (h : t.SameLayout t') {p : ObjectId} :
    t'.BuiltOn d p ↔ t.BuiltOn d p := by
  unfold BuiltOn
  rw [h.parentsOf]

theorem SameLayout.edits (h : t.SameLayout t') : t.Edits t' := .single (.layout h)

/-! ## Constructing and taking back -/

theorem parentsOf_eq {device : Device} (h : t.device? d = some device) :
    t.parentsOf d = device.parents := by
  rw [parentsOf, h]
  rfl

theorem Prepares.edit (h : t.Prepares p) : t.Edit p.tree := by
  cases h with
  | createDevice | destroyDevice => exact .layout (.refl t)
  | createFormat => exact .layout (setFormat_layout t _ _)
  | destroyFormat =>
    exact .layout ((storeFormat_layout t _ _ _).trans (setFormat_layout _ _ _))
  | resizeDevice => exact .layout (sameLayout_modifyDevice _ _ _ _ fun _ => rfl)
  | resizeFormat => exact .layout ⟨rfl, rfl, rfl⟩
  | addMember hc hm hne hFree hNew =>
    refine .gain ?_ ?_ hne hFree ?_
    · rw [hc]; rfl
    · rw [hm]; rfl
    · rwa [parentsOf_eq hc]
  | removeMember => exact .lose fun l => List.erase_sublist

theorem eraseLast_sublist (x : ObjectId) (l : List ObjectId) : (eraseLast x l).Sublist l := by
  have h : (l.reverse.erase x).Sublist l.reverse := List.erase_sublist
  simpa [eraseLast] using h.reverse

/-- Taking back anything but a removal keeps the layout or takes members out of one container. -/
theorem undoConstruction_cases (t : DeviceTree) (h : a.leaves? = none) :
    t.SameLayout (t.undoConstruction a).1 ∨
    ∃ c change, (∀ l, (change l).Sublist l) ∧
      (t.undoConstruction a).1 = t.changeParents c change := by
  cases hContainer : a.container? with
  | none => exact Or.inl (t.undoConstruction_layout hContainer)
  | some c =>
    cases hStored : (t.device? a.device).isSome with
    | false =>
      rw [undoConstruction_of_missing hStored]
      exact Or.inl (.refl t)
    | true =>
      rw [undoConstruction_fst hStored]
      unfold Action.leaves? at h
      unfold Action.container? at hContainer
      cases hOp : a.operation <;> rw [hOp] at h hContainer <;> cases h <;> cases hContainer
      dsimp only
      split
      · exact Or.inr ⟨c, _, eraseLast_sublist a.device, rfl⟩
      · exact Or.inl (.refl t)

theorem undoConstruction_edit (t : DeviceTree) (h : a.leaves? = none) :
    t.Edit (t.undoConstruction a).1 := by
  rcases t.undoConstruction_cases h with hLayout | ⟨c, change, hSub, hUndo⟩
  · exact .layout hLayout
  · rw [hUndo]
    exact .lose hSub

/-- A container that loses members gains none. -/
theorem parentsOf_sublist {c : ObjectId} {change : List ObjectId → List ObjectId}
    (hSub : ∀ l, (change l).Sublist l) (d : ObjectId) :
    ((t.changeParents c change).parentsOf d).Sublist (t.parentsOf d) := by
  cases hc : (t.device? c).isSome with
  | true =>
    rw [parentsOf_changeParents hc]
    split
    · rename_i hdc
      exact hdc ▸ hSub _
    · exact List.Sublist.refl _
  | false =>
    unfold parentsOf
    rw [changeParents, device?_modifyDevice]
    cases hd : t.device? d with
    | none => exact List.Sublist.refl _
    | some device =>
      rw [Option.map_some, if_neg]
      rintro rfl
      simp [hd] at hc

theorem edit_of_moves {enters leaves : ActionKind} (h : t.Moves t' a enters leaves) :
    t.Edit t' := by
  rcases h with ⟨_, hAdd⟩ | ⟨_, hRemove⟩ | ⟨_, _, rfl⟩
  · exact .add hAdd
  · exact .remove hRemove
  · exact .layout (.refl t')

/-- Checked changes keep the records of presence in step. -/
theorem Edit.inStep (hEdit : t.Edit t') (h : t.InStep) : t'.InStep := by
  cases hEdit with
  | layout hLayout => exact h.of_same hLayout.records
  | gain | lose | store => exact h.of_same ⟨rfl, rfl⟩
  | add hAdd => exact h.add hAdd
  | remove hRemove => exact h.remove hRemove

theorem Edits.inStep (hEdits : t.Edits t') (h : t.InStep) : t'.InStep := by
  induction hEdits with
  | refl => exact h
  | tail _ hEdit ih => exact hEdit.inStep ih

/-! ## Storing a device -/

theorem checkParents_nodup {seen ids : List ObjectId} (h : t.checkParents seen ids = .ok ()) :
    ids.Nodup ∧ ∀ p ∈ ids, p ∉ seen := by
  induction ids generalizing seen with
  | nil => simp
  | cons id rest ih =>
    unfold checkParents at h
    split at h
    · cases h
    · split at h
      · cases h
      · rename_i hNew
        obtain ⟨hNodup, hSeen⟩ := ih h
        refine ⟨List.nodup_cons.mpr ⟨fun hid => hSeen id hid List.mem_cons_self, hNodup⟩, ?_⟩
        intro p hp
        rcases List.mem_cons.mp hp with rfl | hp
        · exact hNew
        · exact fun hps => hSeen p hp (List.mem_cons_of_mem id hps)

theorem eq_storeDevice_of_newDevice {draft : DeviceDraft} {id : ObjectId}
    (h : t.newDevice draft = .ok (id, t')) :
    ∃ name number, t' = (t.storeDevice draft name number).2 := by
  obtain ⟨_, _, name, number, hStore⟩ := newDevice_ok h
  exact ⟨name, number, congrArg Prod.snd hStore⟩

theorem newDevice_edit {draft : DeviceDraft} {id : ObjectId}
    (h : t.newDevice draft = .ok (id, t')) : t.Edit t' := by
  have hStored := (newDevice_ok h).1
  obtain ⟨name, number, rfl⟩ := eq_storeDevice_of_newDevice h
  refine .store hStored ?_
  unfold newDevice at h
  split at h
  · cases h
  · obtain ⟨_, hParents, _⟩ := bind_ok h
    exact (checkParents_nodup hParents).1

end DeviceTree

namespace Session

variable {s s' : Session}

/-- The container and the member of an open removal. -/
def openRemoval? (s : Session) (id : ObjectId) : Option (ObjectId × ObjectId) :=
  ((s.action? id).filter Action.isOpen).bind fun a => a.leaves?.map fun c => (c, a.device)

/-- The action that a command withdraws. -/
def withdrawn? (s : Session) : Command → Option ObjectId
  | .cancel id => some id
  | .registerOrCancel id => if (s.register id).1.ok then none else some id
  | _ => none

/-- The container and the member, when a command takes back a removal. -/
def putBack? (s : Session) (command : Command) : Option (ObjectId × ObjectId) :=
  (s.withdrawn? command).bind s.openRemoval?

theorem openRemoval?_eq_some {id c m : ObjectId} :
    s.openRemoval? id = some (c, m) ↔
      ∃ a, s.action? id = some a ∧ a.isOpen = true ∧ a.leaves? = some c ∧ a.device = m := by
  simp [openRemoval?, Option.bind_eq_some_iff, Option.filter_eq_some_iff, and_assoc]

theorem withdrawn?_registerOrCancel (s : Session) (id : ObjectId) :
    s.withdrawn? (.registerOrCancel id) = if (s.register id).1.ok then none else some id := rfl

theorem Same.openRemoval? (h : s.Same s') (id : ObjectId) :
    s'.openRemoval? id = s.openRemoval? id := by
  unfold Session.openRemoval?
  rw [h.action?]

/-! ## Single calls -/

theorem newDevice_edits (s : Session) (draft : DeviceDraft) :
    s.tree.Edits (s.newDevice draft).2.tree := by
  unfold newDevice answerTree
  split
  · exact .refl
  · rename_i id t h
    exact .single (DeviceTree.newDevice_edit h)

theorem newFormat_edits (s : Session) (typeName mountPoint : String) (onMedia : Bool) :
    s.tree.Edits (s.newFormat typeName mountPoint onMedia).2.tree := by
  unfold newFormat answerTree
  split
  · exact .refl
  · rename_i id t h
    exact (DeviceTree.newFormat_layout h).edits

theorem addDevice_edits (s : Session) (id : ObjectId) :
    s.tree.Edits (s.addDevice id).2.tree := by
  unfold addDevice
  cases h : s.tree.add id with
  | error cause => exact .refl
  | ok t => exact .single (.add h)

theorem removeDevice_edits (s : Session) (id : ObjectId) (force : Bool) :
    s.tree.Edits (s.removeDevice id force).2.tree := by
  unfold removeDevice
  cases h : s.tree.remove id force with
  | error cause => exact .refl
  | ok t => exact .single (.remove h)

theorem adoptDevice_edits (s : Session) (draft : DeviceDraft) (typeName mountPoint : String) :
    s.tree.Edits (s.adoptDevice draft typeName mountPoint).2.tree := by
  rcases adoptDevice_cases s draft typeName mountPoint with
    ⟨_, hSame⟩ | ⟨id, bare, t, hNew, hFormat, ⟨_, hAfter⟩ | ⟨_, _, t', hAdd, hAfter⟩⟩
  · rw [hSame]
  · rw [hAfter]
    exact .head (DeviceTree.newDevice_edit hNew) (DeviceTree.SameLayout.of_adopted hFormat).edits
  · rw [hAfter]
    have hStored : s.tree.Edits t :=
      .head (DeviceTree.newDevice_edit hNew) (DeviceTree.SameLayout.of_adopted hFormat).edits
    exact hStored.tail (.add hAdd)

theorem carryOut_edits {p : Preparation} (hPrepares : s.tree.Prepares p) :
    s.tree.Edits (s.carryOut p).tree :=
  .tail (.single hPrepares.edit) (.layout ⟨rfl, rfl, rfl⟩)

theorem propose_edits (s : Session) (p : Proposal) : s.tree.Edits (s.propose p).2.tree := by
  rcases propose_cases s p with
    hSame | ⟨preparation, hPrepare, ⟨_, hSame⟩ | ⟨actions, message, hInsert, hNew⟩⟩
  · rw [hSame]
  · rw [hSame]
    exact carryOut_edits (DeviceTree.prepares_of_prepare hPrepare)
  · rw [hNew]
    exact carryOut_edits (DeviceTree.prepares_of_prepare hPrepare)

theorem register_edits (s : Session) (id : ObjectId) :
    s.tree.Edits (s.register id).2.tree := by
  rcases register_cases s id with
    hSame | ⟨message, hSame⟩ | ⟨a, t, changes, message, ha, _, hApply, hNew⟩
  · rw [hSame]
  · rw [hSame]
    exact .refl
  · rw [hNew]
    exact .single (DeviceTree.edit_of_moves (DeviceTree.applyRegistration_ok hApply))

theorem leaves_eq_none_of_openRemoval {id : ObjectId} (h : s.openRemoval? id = none) :
    ∀ a, s.action? id = some a → a.isOpen = true → a.leaves? = none := by
  intro a ha hOpen
  cases hLeaves : a.leaves? with
  | none => rfl
  | some c =>
    rw [openRemoval?_eq_some.mpr ⟨a, ha, hOpen, hLeaves, rfl⟩] at h
    cases h

theorem cancel_edits {id : ObjectId} (h : s.openRemoval? id = none) :
    s.tree.Edits (s.cancel id).2.tree := by
  have hLeaves := leaves_eq_none_of_openRemoval h
  cases cancelled s id with
  | refused hOk hSame => rw [hSame.tree]
  | constructed a ha hState hOk hSame =>
    rw [hSame.tree]
    exact .single (s.tree.undoConstruction_edit (hLeaves a ha (by simp [Action.isOpen, hState])))
  | registered a t changes ha hState hUndo hOk hSame =>
    rw [hSame.tree]
    exact .tail (.single (DeviceTree.edit_of_moves (DeviceTree.undoRegistration_ok hUndo)))
      (t.undoConstruction_edit (hLeaves a ha (by simp [Action.isOpen, hState])))

/-- The withdrawal of a removal puts the member back and does nothing else to the tree. -/
theorem cancel_of_openRemoval {id c m : ObjectId} (h : s.openRemoval? id = some (c, m)) :
    ∃ a, s.action? id = some a ∧ a.leaves? = some c ∧ a.device = m ∧
      (s.cancel id).2.tree = (s.tree.undoConstruction a).1 := by
  obtain ⟨a, ha, hOpen, hLeaves, hDevice⟩ := openRemoval?_eq_some.mp h
  refine ⟨a, ha, hLeaves, hDevice, ?_⟩
  cases hState : a.state with
  | constructed => exact (cancel_of_constructed ha hState).tree
  | registered =>
    exact (cancel_of_registered ha hState (Action.undoRegistration_of_leaves hLeaves _)).2.tree
  | cancelled | pruned => simp [Action.isOpen, hState] at hOpen

/-- Carrying out a preparation and taking it back keeps the layout. -/
theorem undo_carryOut_layout {p : Preparation} (hPrepares : s.tree.Prepares p) :
    s.tree.SameLayout ((s.carryOut p).tree.undoConstruction (s.actionOf p)).1 := by
  refine ⟨?_, ?_⟩
  · rw [DeviceTree.frames, (undo_carryOut hPrepares).devices]
    rfl
  · exact undo_carryOut_records hPrepares

theorem schedule_edits (s : Session) (p : Proposal) : s.tree.Edits (s.schedule p).2.tree := by
  cases scheduled s p with
  | refused hOk hSame => rw [hSame.tree]
  | dropped preparation hPrepares hTaken hOk hSame =>
    rw [hSame.tree]
    exact carryOut_edits hPrepares
  | registered preparation actions t changes hPrepares hInsert hApply hOk hValue hSame =>
    rw [hSame.tree]
    exact (carryOut_edits hPrepares).tail
      (DeviceTree.edit_of_moves (DeviceTree.applyRegistration_ok hApply))
  | takenBack preparation actions cause hPrepares hInsert hApply hOk hSame =>
    rw [hSame.tree]
    exact (undo_carryOut_layout hPrepares).edits

/-! ## Commands -/

/-- The trees that checked changes lead to. -/
theorem edits_kept (t : DeviceTree) : Kept fun s => t.Edits s.tree where
  log := fun _ _ _ h => h
  newDevice := fun s draft h => h.trans (s.newDevice_edits draft)
  newFormat := fun s typeName mountPoint onMedia h =>
    h.trans (s.newFormat_edits typeName mountPoint onMedia)
  addDevice := fun s id h => h.trans (s.addDevice_edits id)
  removeDevice := fun s id force h => h.trans (s.removeDevice_edits id force)
  adoptDevice := fun s draft typeName mountPoint h =>
    h.trans (s.adoptDevice_edits draft typeName mountPoint)
  propose := fun s p h => h.trans (s.propose_edits p)
  register := fun s id h => h.trans (s.register_edits id)
  schedule := fun s p h => h.trans (s.schedule_edits p)
  pruneAction := fun _ _ _ h => h

/-- **A command that puts no member back changes the tree by checked changes only.** -/
theorem perform_edits {command : Command} (hOverwrites : command.overwrites = false)
    (h : s.putBack? command = none) : s.tree.Edits (s.perform command).2.tree := by
  cases hWithdraws : command.withdraws with
  | false => exact (edits_kept s.tree).perform (s := s) .refl hOverwrites hWithdraws
  | true =>
    cases command with
    | cancel id => exact cancel_edits h
    | registerOrCancel id =>
      show s.tree.Edits (s.registerOrCancel id).2.tree
      rw [registerOrCancel_snd]
      rw [putBack?, withdrawn?_registerOrCancel] at h
      cases hOk : (s.register id).1.ok with
      | true => exact s.register_edits id
      | false =>
        rw [hOk] at h
        have hSame := register_of_refused hOk
        rw [if_neg Bool.false_ne_true, ← hSame.tree]
        exact cancel_edits ((hSame.openRemoval? id).trans h)
    | _ => cases hWithdraws

theorem perform_of_putBack {command : Command} {c m : ObjectId}
    (h : s.putBack? command = some (c, m)) :
    ∃ id a, s.action? id = some a ∧ a.leaves? = some c ∧ a.device = m ∧
      (s.perform command).2.tree = (s.tree.undoConstruction a).1 := by
  obtain ⟨id, hId, hRemoval⟩ := Option.bind_eq_some_iff.mp h
  refine ⟨id, ?_⟩
  cases command with
  | cancel other =>
    cases hId
    exact cancel_of_openRemoval hRemoval
  | registerOrCancel other =>
    rw [withdrawn?_registerOrCancel] at hId
    cases hOk : (s.register other).1.ok with
    | true => simp [hOk] at hId
    | false =>
      rw [hOk] at hId
      cases hId
      have hSame := register_of_refused hOk
      obtain ⟨a, ha, hLeaves, hDevice, hTree⟩ :=
        cancel_of_openRemoval ((hSame.openRemoval? id).trans hRemoval)
      refine ⟨a, (hSame.action? id).symm.trans ha, hLeaves, hDevice, ?_⟩
      show (s.registerOrCancel id).2.tree = _
      rw [registerOrCancel_snd, hOk, if_neg Bool.false_ne_true, hTree, hSame.tree]
  | _ => cases hId

/-! ## The records of presence -/

/-- Every command keeps the records of presence in step: direct writes leave both alone, as does the
withdrawal of a removed member. -/
theorem inStep_perform (h : s.tree.InStep) (command : Command) :
    (s.perform command).2.tree.InStep := by
  cases hOverwrites : command.overwrites with
  | true =>
    cases command with
    | editDevice | editFormat | setNextId => exact h.of_same ⟨rfl, rfl⟩
    | _ => cases hOverwrites
  | false =>
    cases hPut : s.putBack? command with
    | none => exact (perform_edits hOverwrites hPut).inStep h
    | some member =>
      obtain ⟨_, a, _, _, _, hTree⟩ := perform_of_putBack hPut
      rw [hTree]
      exact h.of_same (s.tree.undoConstruction_records a)

/-- **The records of presence stay in step over every run.** -/
theorem inStep_performAll (h : s.tree.InStep) (commands : List Command) :
    (s.performAll commands).tree.InStep := by
  unfold performAll
  induction commands generalizing s with
  | nil => exact h
  | cons command commands ih => exact ih (inStep_perform h command)

end Session

end StoragePlan

import StoragePlan.Proofs.Edits
import StoragePlan.Proofs.Runs

/-!
# References lead to what is stored

Parents, present devices and the devices of actions are ids of stored devices, no two present
devices share a name, and the two records of presence are in step.  No command takes this away
unless it overwrites what is stored.

* `DeviceTree.Linked.edit`: **every checked change keeps a tree linked**.
* `Session.Linked.performAll`: so does every run, putting removed members back included.
* `Session.Linked.perform_of_putBack`: therefore a withdrawn removal is always carried out.
-/

namespace StoragePlan

open Relation

theorem Action.container_of_leaves {a : Action} {c : ObjectId} (h : a.leaves? = some c) :
    a.container? = some c := by
  obtain ⟨position, hOp⟩ := operation_of_leaves h
  rw [container?, hOp]
  rfl

namespace DeviceTree

variable {t t' : DeviceTree} {a : Action} {c d m p id : ObjectId}

/-- The records of presence are in step, parents and present devices are stored, and present devices
have different names. -/
structure Linked (t : DeviceTree) : Prop where
  inStep : t.InStep
  parents : ∀ d p, t.BuiltOn d p → (t.device? p).isSome
  stored : ∀ d ∈ t.order, (t.device? d).isSome
  names : ∀ d ∈ t.order, ∀ e ∈ t.order, t.nameOf d = t.nameOf e → d = e

/-- What is stored in `t` is stored in `t'` under the same name. -/
def KeepsNames (t t' : DeviceTree) : Prop :=
  ∀ d device, t.device? d = some device →
    ∃ device', t'.device? d = some device' ∧ device'.name = device.name

theorem linked_empty : ({} : DeviceTree).Linked :=
  ⟨inStep_empty, fun _ _ h => absurd h List.not_mem_nil, fun _ h => absurd h List.not_mem_nil,
    fun _ h => absurd h List.not_mem_nil⟩

/-! ## Names -/

theorem KeepsNames.isSome (h : t.KeepsNames t') (hd : (t.device? d).isSome) :
    (t'.device? d).isSome := by
  obtain ⟨device, hd⟩ := Option.isSome_iff_exists.mp hd
  obtain ⟨device', hd', _⟩ := h d device hd
  exact Option.isSome_iff_exists.mpr ⟨device', hd'⟩

theorem KeepsNames.nameOf (h : t.KeepsNames t') (hd : (t.device? d).isSome) :
    t'.nameOf d = t.nameOf d := by
  obtain ⟨device, hd⟩ := Option.isSome_iff_exists.mp hd
  obtain ⟨device', hd', hName⟩ := h d device hd
  simp only [DeviceTree.nameOf, hd, hd', Option.map_some, hName]

theorem Extends.keepsNames (h : t.Extends t') : t.KeepsNames t' := by
  intro d device hd
  obtain ⟨device', hd', hFrame⟩ := h d device hd
  have hName : device'.frame.name = device.frame.name := congrArg Device.name hFrame
  exact ⟨device', hd', hName⟩

theorem keepsNames_changeParents (t : DeviceTree) (c : ObjectId)
    (change : List ObjectId → List ObjectId) : t.KeepsNames (t.changeParents c change) := by
  intro d device hd
  refine ⟨_, by rw [changeParents, device?_modifyDevice, hd, Option.map_some], ?_⟩
  split <;> rfl

theorem named?_eq_none_iff {name : String} :
    t.named? name = none ↔ ∀ d ∈ t.order, ∀ device, t.device? d = some device →
      device.name ≠ name := by
  unfold named? present
  simp only [List.find?_eq_none, List.mem_filterMap, beq_iff_eq]
  exact ⟨fun h d hd device hDevice => h device ⟨d, hd, hDevice⟩,
    fun h device ⟨d, hd, hDevice⟩ => h d hd device hDevice⟩

/-! ## Checked changes -/

/-- What a change of the parents of one device leaves behind. -/
theorem builtOn_changeParents {change : List ObjectId → List ObjectId}
    (h : (t.changeParents c change).BuiltOn d p) :
    t.BuiltOn d p ∨ d = c ∧ p ∈ change (t.parentsOf c) := by
  obtain ⟨device, hd, hp⟩ := builtOn_iff.mp h
  rw [changeParents, device?_modifyDevice] at hd
  obtain ⟨stored, hStored, rfl⟩ := Option.map_eq_some_iff.mp hd
  by_cases hdc : d = c
  · subst hdc
    rw [if_pos rfl] at hp
    exact Or.inr ⟨rfl, parentsOf_eq hStored ▸ hp⟩
  · rw [if_neg hdc] at hp
    exact Or.inl (builtOn_iff.mpr ⟨stored, hStored, hp⟩)

/-- A device that was just stored stands on the parents of its draft. -/
theorem builtOn_storeDevice {draft : DeviceDraft} {name : String} {number : Int}
    (h : (t.storeDevice draft name number).2.BuiltOn d p) :
    t.BuiltOn d p ∨ t.device? d = none ∧ p ∈ draft.parents := by
  obtain ⟨device, hd, hp⟩ := builtOn_iff.mp h
  obtain ⟨new, hSuits, hDevices⟩ := storeDevice_devices t draft name number
  unfold device? at hd
  rw [hDevices] at hd
  rcases Arena.of_find?_insert hd with hd | ⟨rfl, hNone⟩
  · exact Or.inl (builtOn_iff.mpr ⟨device, hd, hp⟩)
  · exact Or.inr ⟨hNone, hSuits.parents ▸ hp⟩

theorem name_free_of_add (h : t.add id = .ok t') :
    ∃ device, t.device? id = some device ∧ t.named? device.name = none := by
  unfold add at h
  cases hd : t.device? id with
  | none => simp [hd] at h
  | some device =>
    simp only [hd] at h
    split at h
    · cases h
    · split at h
      · cases h
      · split at h
        · cases h
        · rename_i hNamed
          exact ⟨device, rfl, by simpa using hNamed⟩

theorem Linked.of_keepsNames (h : t.Linked) (hNames : t.KeepsNames t')
    (hRecords : t.SameRecords t')
    (hParents : ∀ d p, t'.BuiltOn d p → t.BuiltOn d p ∨ (t.device? p).isSome) : t'.Linked := by
  refine ⟨h.inStep.of_same hRecords, fun d p hp => ?_, fun d hd => ?_, fun d hd e he hName => ?_⟩
  · exact hNames.isSome ((hParents d p hp).elim (h.parents d p) id)
  · exact hNames.isSome (h.stored d (hRecords.order ▸ hd))
  · rw [hRecords.order] at hd he
    rw [hNames.nameOf (h.stored d hd), hNames.nameOf (h.stored e he)] at hName
    exact h.names d hd e he hName

theorem Linked.changeParents (h : t.Linked) {change : List ObjectId → List ObjectId}
    (hChange : ∀ p ∈ change (t.parentsOf c), p ∈ t.parentsOf c ∨ (t.device? p).isSome) :
    (t.changeParents c change).Linked := by
  refine h.of_keepsNames (keepsNames_changeParents t c change) ⟨rfl, rfl⟩ fun d p hp => ?_
  rcases builtOn_changeParents hp with hp | ⟨rfl, hp⟩
  · exact Or.inl hp
  · exact hChange p hp

theorem Linked.add (h : t.Linked) (hAdd : t.add id = .ok t') : t'.Linked := by
  obtain ⟨device, hDevice, hFree⟩ := name_free_of_add hAdd
  have hInStep := h.inStep.add hAdd
  obtain ⟨_, _, _, rfl⟩ := add_ok hAdd
  have hName : ∀ d ∈ t.order, t.nameOf d ≠ t.nameOf id := by
    intro d hd
    obtain ⟨stored, hStored⟩ := Option.isSome_iff_exists.mp (h.stored d hd)
    rw [DeviceTree.nameOf, DeviceTree.nameOf, hStored, hDevice]
    exact named?_eq_none_iff.mp hFree d hd stored hStored
  refine ⟨hInStep, h.parents, fun d hd => ?_, fun d hd e he hSame => ?_⟩
  · rcases List.mem_append.mp hd with hd | hd
    · exact h.stored d hd
    · rw [List.mem_singleton.mp hd]
      exact Option.isSome_iff_exists.mpr ⟨device, hDevice⟩
  · change t.nameOf d = t.nameOf e at hSame
    rcases List.mem_append.mp hd with hd | hd <;> rcases List.mem_append.mp he with he | he
    · exact h.names d hd e he hSame
    · rw [List.mem_singleton.mp he] at hSame
      exact absurd hSame (hName d hd)
    · rw [List.mem_singleton.mp hd] at hSame
      exact absurd hSame.symm (hName e he)
    · rw [List.mem_singleton.mp hd, List.mem_singleton.mp he]

/-- **Checked changes keep a tree linked.** -/
theorem Linked.edit (h : t.Linked) (hEdit : t.Edit t') : t'.Linked := by
  cases hEdit with
  | layout hLayout =>
    exact h.of_keepsNames hLayout.extends.keepsNames hLayout.records fun d p hp =>
      Or.inl (hLayout.builtOn_iff.mp hp)
  | gain hc hm hne hFree hNew =>
    refine h.changeParents fun p hp => ?_
    rcases List.mem_append.mp hp with hp | hp
    · exact Or.inl hp
    · rw [List.mem_singleton.mp hp]
      exact Or.inr hm
  | lose hSub => exact h.changeParents fun p hp => Or.inl ((hSub _).subset hp)
  | store hStored hNodup =>
    refine h.of_keepsNames (storeDevice_extends t _ _ _).keepsNames
      (t.sameRecords_storeDevice _ _ _) fun d p hp => ?_
    rcases builtOn_storeDevice hp with hp | ⟨_, hp⟩
    · exact Or.inl hp
    · exact Or.inr (hStored p hp)
  | add hAdd => exact h.add hAdd
  | remove hRemove =>
    have hInStep := h.inStep.remove hRemove
    obtain ⟨_, rfl⟩ := remove_eq hRemove
    exact ⟨hInStep, h.parents, fun d hd => h.stored d (List.mem_filter.mp hd).1,
      fun d hd e he => h.names d (List.mem_filter.mp hd).1 e (List.mem_filter.mp he).1⟩

theorem Edit.keepsNames (h : t.Edit t') : t.KeepsNames t' := by
  cases h with
  | layout hLayout => exact hLayout.extends.keepsNames
  | gain | lose => exact keepsNames_changeParents t _ _
  | store => exact (storeDevice_extends t _ _ _).keepsNames
  | add hAdd =>
    obtain ⟨_, _, _, rfl⟩ := add_ok hAdd
    exact fun d device hd => ⟨device, hd, rfl⟩
  | remove hRemove =>
    rw [(remove_eq hRemove).2]
    exact fun d device hd => ⟨device, hd, rfl⟩

theorem Linked.edits (h : t.Linked) (hEdits : t.Edits t') : t'.Linked := by
  induction hEdits with
  | refl => exact h
  | tail _ hEdit ih => exact ih.edit hEdit

theorem Edits.isSome (h : t.Edits t') (hd : (t.device? d).isSome) : (t'.device? d).isSome := by
  induction h with
  | refl => exact hd
  | tail _ hEdit ih => exact hEdit.keepsNames.isSome ih

/-! ## Putting a member back -/

theorem mem_insertAt {position : Nat} {x y : ObjectId} {l : List ObjectId} :
    y ∈ insertAt position x l ↔ y = x ∨ y ∈ l :=
  List.mem_insertIdx (Nat.min_le_right position l.length)

theorem undoConstruction_of_leaves (hDevice : (t.device? a.device).isSome)
    (hContainer : (t.device? c).isSome) (hLeaves : a.leaves? = some c) :
    ∃ position, (t.undoConstruction a).1 = t.changeParents c (insertAt position a.device) := by
  obtain ⟨position, hOp⟩ := Action.operation_of_leaves hLeaves
  rw [undoConstruction_fst hDevice, hOp]
  refine ⟨position, if_neg ?_⟩
  simpa [Option.isSome_iff_ne_none] using hContainer

end DeviceTree

namespace Session

variable {s s' : Session} {id : ObjectId}

/-- The tree is linked, and what the actions are about is stored. -/
structure Linked (s : Session) : Prop where
  tree : s.tree.Linked
  device : ∀ id a, s.action? id = some a → (s.tree.device? a.device).isSome
  container : ∀ id a, s.action? id = some a → ∀ c ∈ a.container?, (s.tree.device? c).isSome

theorem linked_empty : ({} : Session).Linked where
  tree := DeviceTree.linked_empty
  device := fun _ _ h => by cases h
  container := fun _ _ h => by cases h

/-! ## Commands -/

theorem Linked.of_sameActions (h : s.Linked) (hActions : s.SameActions s')
    (hTree : s'.tree.Linked)
    (hKeeps : ∀ d, (s.tree.device? d).isSome → (s'.tree.device? d).isSome) : s'.Linked := by
  refine ⟨hTree, fun id a ha => ?_, fun id a ha c hc => ?_⟩
  · obtain ⟨b, hb, hCore⟩ := hActions.exists_core ha
    have hDevice : b.core.device = a.core.device := congrArg Action.device hCore
    rw [Action.device_core, Action.device_core] at hDevice
    exact hKeeps _ (hDevice ▸ h.device id b hb)
  · obtain ⟨b, hb, hCore⟩ := hActions.exists_core ha
    have hContainer : b.core.container? = a.core.container? := congrArg Action.container? hCore
    exact hKeeps c (h.container id b hb c (hContainer.trans hc))

theorem Linked.of_edits (h : s.Linked) (hActions : s.SameActions s')
    (hEdits : s.tree.Edits s'.tree) : s'.Linked :=
  h.of_sameActions hActions (h.tree.edits hEdits) fun _ hd => hEdits.isSome hd

theorem sameActions_answerTree (s : Session) (result : Except Refusal (ObjectId × DeviceTree))
    (changes : ObjectId → Changes) : s.SameActions (s.answerTree result changes).2 := by
  obtain ⟨t, hTree⟩ := answerTree_snd s result changes
  rw [hTree]
  exact fun _ => rfl

theorem Linked.propose (h : s.Linked) (p : Proposal) : (s.propose p).2.Linked := by
  have hEdits := s.propose_edits p
  rcases propose_cases s p with
    hSame | ⟨preparation, hPrepare, ⟨_, hSame⟩ | ⟨actions, message, hInsert, hNew⟩⟩
  · rw [hSame]
    exact h
  · rw [hSame] at hEdits ⊢
    exact h.of_edits (fun _ => rfl) hEdits
  · rw [hNew] at hEdits ⊢
    have hPrepares := DeviceTree.prepares_of_prepare hPrepare
    -- the action is the new one, whose device and container were looked up, or an old one
    have hFind : ∀ id a, actions.find? id = some a →
        a = s.actionOf preparation ∨ s.action? id = some a := by
      intro id a ha
      rw [Arena.find?_insert? hInsert] at ha
      split at ha
      · exact Or.inl (Option.some.inj ha).symm
      · exact Or.inr ha
    refine ⟨h.tree.edits hEdits, fun id a ha => ?_, fun id a ha c hc => ?_⟩
    · rcases hFind id a ha with rfl | ha
      · exact hEdits.isSome hPrepares.isSome
      · exact hEdits.isSome (h.device id a ha)
    · rcases hFind id a ha with rfl | ha
      · exact hEdits.isSome (hPrepares.isSome_container hc)
      · exact hEdits.isSome (h.container id a ha c hc)

theorem register_actions (s : Session) (id : ObjectId) : s.SameActions (s.register id).2 := by
  rcases register_cases s id with hSame | ⟨message, hSame⟩ | ⟨a, t, _, message, _, _, _, hNew⟩
  · rw [hSame]
    exact fun _ => rfl
  · rw [hSame]
    exact fun _ => rfl
  · rw [hNew]
    exact sameActions_setState { s with tree := t, registry := s.registry ++ [id] } id .registered

theorem Linked.register (h : s.Linked) (id : ObjectId) : (s.register id).2.Linked :=
  h.of_edits (register_actions s id) (s.register_edits id)

theorem cancel_actions (s : Session) (id : ObjectId) : s.SameActions (s.cancel id).2 := by
  cases cancelled s id with
  | refused hOk hSame => exact fun other => congrArg (Option.map Action.core) (hSame.action? other)
  | constructed a ha hState hOk hSame =>
    intro other
    rw [hSame.action?]
    exact sameActions_setState { s with tree := (s.tree.undoConstruction a).1 } id _ other
  | registered a t changes ha hState hUndo hOk hSame =>
    intro other
    rw [hSame.action?]
    exact (sameActions_drop s id .cancelled).trans (sameActions_setState
      { s.drop id .cancelled with tree := (t.undoConstruction a).1 } id .cancelled) other

/-- Taking back a removal puts the member into the container, both of which are stored. -/
theorem Linked.undo_of_leaves (h : s.Linked) {a : Action} {c : ObjectId}
    (ha : s.action? id = some a) (hLeaves : a.leaves? = some c) :
    (s.tree.device? c).isSome ∧ (s.tree.device? a.device).isSome ∧
      ∃ position, (s.tree.undoConstruction a).1
        = s.tree.changeParents c (DeviceTree.insertAt position a.device) := by
  have hDevice := h.device id a ha
  have hContainer := h.container id a ha c (Action.container_of_leaves hLeaves)
  exact ⟨hContainer, hDevice, DeviceTree.undoConstruction_of_leaves hDevice hContainer hLeaves⟩

theorem Linked.cancel (h : s.Linked) (id : ObjectId) : (s.cancel id).2.Linked := by
  have hActions := cancel_actions s id
  cases hRemoval : s.openRemoval? id with
  | none => exact h.of_edits hActions (cancel_edits hRemoval)
  | some removal =>
    obtain ⟨a, ha, hLeaves, _, hCancel⟩ := cancel_of_openRemoval hRemoval
    obtain ⟨_, hm, position, hUndo⟩ := h.undo_of_leaves ha hLeaves
    have hTree := hCancel.trans hUndo
    refine h.of_sameActions hActions ?_ fun d hd => ?_
    · rw [hTree]
      refine h.tree.changeParents fun p hp => ?_
      rcases DeviceTree.mem_insertAt.mp hp with rfl | hp
      · exact Or.inr hm
      · exact Or.inl hp
    · rw [hTree]
      exact (DeviceTree.keepsNames_changeParents s.tree _ _).isSome hd

theorem Linked.perform_of_putBack (h : s.Linked) {command : Command} {c m : ObjectId}
    (hPut : s.putBack? command = some (c, m)) :
    (s.tree.device? c).isSome ∧ (s.tree.device? m).isSome ∧
      ∃ position, (s.perform command).2.tree
        = s.tree.changeParents c (DeviceTree.insertAt position m) := by
  obtain ⟨id, a, ha, hLeaves, rfl, hTree⟩ := Session.perform_of_putBack hPut
  rw [hTree]
  exact h.undo_of_leaves ha hLeaves

theorem linked_kept : Kept Linked where
  log := fun _ _ _ h => h.of_edits (fun _ => rfl) .refl
  newDevice := fun s draft h =>
    h.of_edits (sameActions_answerTree s _ _) (s.newDevice_edits draft)
  newFormat := fun s typeName mountPoint onMedia h =>
    h.of_edits (sameActions_answerTree s _ _) (s.newFormat_edits typeName mountPoint onMedia)
  addDevice := fun s id h => h.of_edits (sameActions_answerTree s _ _) (s.addDevice_edits id)
  removeDevice := fun s id force h =>
    h.of_edits (sameActions_answerTree s _ _) (s.removeDevice_edits id force)
  adoptDevice := fun s draft typeName mountPoint h => by
    have hEdits := s.adoptDevice_edits draft typeName mountPoint
    obtain ⟨t, hTree⟩ := adoptDevice_snd s draft typeName mountPoint
    rw [hTree] at hEdits ⊢
    exact h.of_edits (fun _ => rfl) hEdits
  propose := fun _ p h => h.propose p
  register := fun _ id h => h.register id
  schedule := fun _ p h => schedule_preserves (fun _ h => h.propose p)
    (fun _ id h => h.register id) (fun _ id h => h.cancel id) h
  pruneAction := fun s _ id h => h.of_edits (sameActions_drop s id .pruned) .refl

theorem Linked.perform (h : s.Linked) {command : Command}
    (hOverwrites : command.overwrites = false) : (s.perform command).2.Linked :=
  linked_kept.perform_of_cancel (fun _ id h => h.cancel id) h hOverwrites

/-- **References lead to what is stored, as long as nothing is overwritten.** -/
theorem Linked.performAll (h : s.Linked) {commands : List Command}
    (hOverwrites : ∀ command ∈ commands, command.overwrites = false) :
    (s.performAll commands).Linked :=
  (along_of_forall hOverwrites s).performAll (fun _ _ hCommand h => h.perform hCommand) h

end Session

end StoragePlan

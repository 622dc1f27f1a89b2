import StoragePlan.Session.Register

/-!
# The two records of presence

Which devices are present is written down twice, as the list `order` and as the set `presence`.
The checks of a call read the set; the walks over the devices go through the list.  A device that
enters or leaves the tree is written into one record and then into the other, and nothing else
writes either of them.

* `add_ok`, `remove_ok`: what the checks find in the set, and what is then written into both.
* `InStep.add`, `InStep.remove`: **a call that lets a device in or out keeps the records in step**,
  a forced removal too.
* `applyRegistration_ok`, `undoRegistration_ok`: registering an action and withdrawing it moves its
  device or nothing (`Moves`), so `InStep.of_moves`.
-/

namespace StoragePlan

section

variable {α β : Type}

theorem bind_ok {x : Except Refusal α} {f : α → Except Refusal β} {r : β}
    (h : x >>= f = .ok r) : ∃ a, x = .ok a ∧ f a = .ok r := by
  cases x with
  | error cause => cases h
  | ok a => exact ⟨a, rfl, h⟩

theorem map_ok {x : Except Refusal α} {f : α → β} {r : β} (h : x.map f = .ok r) :
    ∃ a, x = .ok a ∧ f a = r := by
  cases x with
  | error cause => cases h
  | ok a => exact ⟨a, rfl, Except.ok.inj h⟩

end

namespace DeviceTree

variable {t t' t'' : DeviceTree} {id : ObjectId} {force : Bool}

/-- Both records are the same in two trees. -/
structure SameRecords (t t' : DeviceTree) : Prop where
  order : t'.order = t.order
  presence : t'.presence = t.presence

theorem SameRecords.refl (t : DeviceTree) : t.SameRecords t := ⟨rfl, rfl⟩

theorem SameRecords.trans (h : t.SameRecords t') (h' : t'.SameRecords t'') : t.SameRecords t'' :=
  ⟨h'.order.trans h.order, h'.presence.trans h.presence⟩

theorem SameRecords.contains (h : t.SameRecords t') (d : ObjectId) :
    t'.contains d = t.contains d :=
  congrArg (IdSet.contains · d) h.presence

/-- The list of the present devices names each of them once, and the set contains what the list
names. -/
structure InStep (t : DeviceTree) : Prop where
  nodup : t.order.Nodup
  contains_iff : ∀ d, t.contains d = true ↔ d ∈ t.order

theorem inStep_empty : ({} : DeviceTree).InStep where
  nodup := List.nodup_nil
  contains_iff := fun _ => iff_of_false (by simp [contains]) List.not_mem_nil

theorem InStep.of_same (h : t.InStep) (hSame : t.SameRecords t') : t'.InStep where
  nodup := hSame.order ▸ h.nodup
  contains_iff := fun d => by
    rw [hSame.contains, hSame.order]
    exact h.contains_iff d

theorem InStep.contains_eq_false_iff (h : t.InStep) (d : ObjectId) :
    t.contains d = false ↔ d ∉ t.order := by
  rw [← h.contains_iff, Bool.not_eq_true]

/-! ## Adding and removing -/

theorem add_ok (h : t.add id = .ok t') :
    (∃ device, t.device? id = some device) ∧ t.contains id = false ∧
    (∀ p ∈ t.parentsOf id, t.contains p = true) ∧
    t' = { t with order := t.order ++ [id], presence := t.presence.insert id } := by
  unfold add at h
  cases hd : t.device? id with
  | none => simp [hd] at h
  | some device =>
    simp only [hd] at h
    split at h
    · cases h
    · rename_i hAbsent
      split at h
      · cases h
      · rename_i hPresent
        split at h
        · cases h
        · cases h
          refine ⟨⟨device, rfl⟩, by simpa using hAbsent, ?_, rfl⟩
          simpa [parentsOf, hd] using hPresent

theorem remove_eq (h : t.remove id force = .ok t') :
    t.contains id = true ∧
    t' = { t with order := t.order.filter (· ≠ id), presence := t.presence.erase id } := by
  unfold remove at h
  split at h
  · cases h
  · rename_i hPresent
    split at h
    · cases h
    · cases h
      exact ⟨by simpa using hPresent, rfl⟩

theorem remove_ok (h : t.remove id = .ok t') :
    t.contains id = true ∧ (∀ d ∈ t.order, id ∉ t.parentsOf d) ∧
    t' = { t with order := t.order.filter (· ≠ id), presence := t.presence.erase id } := by
  obtain ⟨hPresent, hAfter⟩ := remove_eq h
  refine ⟨hPresent, ?_, hAfter⟩
  unfold remove at h
  rw [if_neg (by simp [hPresent])] at h
  split at h
  · cases h
  · rename_i hLeaf
    simpa [isLeaf, children] using hLeaf

theorem contains_of_add (h : t.add id = .ok t') (d : ObjectId) :
    t'.contains d = (d == id || t.contains d) := by
  obtain ⟨_, _, _, rfl⟩ := add_ok h
  exact t.presence.contains_insert id d

theorem contains_of_remove (h : t.remove id force = .ok t') (d : ObjectId) :
    t'.contains d = (d != id && t.contains d) := by
  rw [(remove_eq h).2]
  exact t.presence.contains_erase id d

/-- A device that is let in is new to both records. -/
theorem InStep.add (h : t.InStep) (hAdd : t.add id = .ok t') : t'.InStep := by
  have hContains := contains_of_add hAdd
  obtain ⟨_, hAbsent, _, rfl⟩ := add_ok hAdd
  constructor
  · refine List.nodup_append.mpr ⟨h.nodup, by simp, fun x hx y hy hxy => ?_⟩
    rw [List.mem_singleton.mp hy] at hxy
    exact (h.contains_eq_false_iff id).mp hAbsent (hxy ▸ hx)
  · intro d
    rw [hContains, Bool.or_eq_true, beq_iff_eq, h.contains_iff, List.mem_append,
      List.mem_singleton, or_comm]

/-- A device that is let out is missing from both records. -/
theorem InStep.remove (h : t.InStep) (hRemove : t.remove id force = .ok t') : t'.InStep := by
  have hContains := contains_of_remove hRemove
  obtain ⟨_, rfl⟩ := remove_eq hRemove
  constructor
  · exact h.nodup.filter _
  · intro d
    rw [hContains, Bool.and_eq_true, bne_iff_ne, h.contains_iff, List.mem_filter,
      decide_eq_true_eq, and_comm]

/-! ## Registering and withdrawing -/

/-- The device of an action enters the tree, or leaves it, or an action of another kind changes
nothing. -/
def Moves (t t' : DeviceTree) (a : Action) (enters leaves : ActionKind) : Prop :=
  (a.kind = enters ∧ t.add a.device = .ok t') ∨
  (a.kind = leaves ∧ t.remove a.device = .ok t') ∨
  (a.kind ≠ enters ∧ a.kind ≠ leaves ∧ t' = t)

theorem applyRegistration_ok {a : Action} {changes : Changes}
    (h : t.applyRegistration a = .ok (t', changes)) :
    t.Moves t' a .createDevice .destroyDevice := by
  unfold applyRegistration at h
  unfold Moves Action.kind
  cases hOp : a.operation with
  | createDevice =>
    rw [hOp] at h
    dsimp only at h
    split at h
    · cases h
    · obtain ⟨after, hAdd, hAfter⟩ := map_ok h
      cases hAfter
      exact Or.inl ⟨rfl, hAdd⟩
  | destroyDevice =>
    rw [hOp] at h
    obtain ⟨after, hRemove, hAfter⟩ := map_ok h
    cases hAfter
    exact Or.inr (Or.inl ⟨rfl, hRemove⟩)
  | _ =>
    rw [hOp] at h
    dsimp only at h
    split at h
    · cases h
    · split at h
      · cases h
      · cases h
        exact Or.inr (Or.inr ⟨by simp [Operation.kind], by simp [Operation.kind], rfl⟩)

/-- Unless it creates its device, an action is registered only when its device is present. -/
theorem present_of_applyRegistration {a : Action} {changes : Changes}
    (h : t.applyRegistration a = .ok (t', changes)) (hKind : a.kind ≠ .createDevice) :
    t.contains a.device = true := by
  unfold applyRegistration at h
  unfold Action.kind at hKind
  cases hOp : a.operation with
  | createDevice =>
    rw [hOp] at hKind
    exact absurd rfl hKind
  | destroyDevice =>
    rw [hOp] at h
    obtain ⟨after, hRemove, _⟩ := map_ok h
    exact (remove_eq hRemove).1
  | _ =>
    rw [hOp] at h
    dsimp only at h
    split at h
    · cases h
    · split at h
      · cases h
      · rename_i hPresent
        simpa using hPresent

theorem undoRegistration_ok {a : Action} {changes : Changes}
    (h : t.undoRegistration a = .ok (t', changes)) :
    t.Moves t' a .destroyDevice .createDevice := by
  unfold undoRegistration at h
  unfold Moves Action.kind
  cases hOp : a.operation with
  | createDevice =>
    rw [hOp] at h
    obtain ⟨after, hRemove, hAfter⟩ := map_ok h
    cases hAfter
    exact Or.inr (Or.inl ⟨rfl, hRemove⟩)
  | destroyDevice =>
    rw [hOp] at h
    obtain ⟨after, hAdd, hAfter⟩ := map_ok h
    cases hAfter
    exact Or.inl ⟨rfl, hAdd⟩
  | _ =>
    rw [hOp] at h
    cases h
    exact Or.inr (Or.inr ⟨by simp [Operation.kind], by simp [Operation.kind], rfl⟩)

section

variable {a : Action} {enters leaves : ActionKind}

/-- Nothing but the present devices changes. -/
theorem eq_of_moves (h : t.Moves t' a enters leaves) :
    ∃ order presence, t' = { t with order, presence } := by
  rcases h with ⟨_, hAdd⟩ | ⟨_, hRemove⟩ | ⟨_, _, rfl⟩
  · obtain ⟨_, _, _, rfl⟩ := add_ok hAdd
    exact ⟨_, _, rfl⟩
  · obtain ⟨_, rfl⟩ := remove_eq hRemove
    exact ⟨_, _, rfl⟩
  · exact ⟨_, _, rfl⟩

theorem InStep.of_moves (h : t.InStep) (hMoves : t.Moves t' a enters leaves) : t'.InStep := by
  rcases hMoves with ⟨_, hAdd⟩ | ⟨_, hRemove⟩ | ⟨_, _, rfl⟩
  · exact h.add hAdd
  · exact h.remove hRemove
  · exact h

theorem perm_cons_filter {l : List ObjectId} (hl : l.Nodup) {x : ObjectId} (hx : x ∈ l) :
    (x :: l.filter (· ≠ x)).Perm l := by
  have hErase : l.erase x = l.filter (· ≠ x) := by
    rw [hl.erase_eq_filter]
    exact List.filter_congr fun y _ => by rw [Bool.eq_iff_iff, bne_iff_ne, decide_eq_true_eq]
  rw [← hErase]
  exact (List.perm_cons_erase hx).symm

/-- What enters and what leaves the tree is balanced by the present devices. -/
theorem InStep.order_perm (ht : t.InStep) (h : t.Moves t' a enters leaves)
    (hne : enters ≠ leaves) :
    (t'.order ++ (if a.kind = leaves then some a.device else none).toList).Perm
      (t.order ++ (if a.kind = enters then some a.device else none).toList) := by
  rcases h with ⟨hKind, hAdd⟩ | ⟨hKind, hRemove⟩ | ⟨hEnters, hLeaves, rfl⟩
  · obtain ⟨_, _, _, rfl⟩ := add_ok hAdd
    rw [hKind, if_neg hne, if_pos rfl]
    exact List.Perm.of_eq (List.append_nil _)
  · obtain ⟨hPresent, rfl⟩ := remove_eq hRemove
    rw [hKind, if_neg hne.symm, if_pos rfl, Option.toList_none, List.append_nil]
    exact (List.perm_append_singleton _ _).trans
      (perm_cons_filter ht.nodup ((ht.contains_iff _).mp hPresent))
  · rw [if_neg hEnters, if_neg hLeaves]

end

end DeviceTree

end StoragePlan

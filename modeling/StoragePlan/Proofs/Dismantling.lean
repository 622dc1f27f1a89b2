import Mathlib.Algebra.GroupWithZero.Nat
import Mathlib.Data.Finset.Max
import StoragePlan.Proofs.Atomicity
import StoragePlan.Proofs.Closure
import StoragePlan.Proofs.Integrity

/-!
# Taking down a stack

`Session.removeStack` schedules the destruction of all that is built on a device, one leaf after the
other.

* `appends_removeStack`: **what the call answers is what it appended to the plan**, also when it is
  refused on the way.
* `exists_leaf`: on an acyclic tree there is a leaf among the dependents of a device, so that the
  work never gets stuck.
* `removeStack_dismantles`: **exactly the stack is taken down**, each device after the present
  devices that rest on it.
-/

namespace StoragePlan

open Relation

/-! ## Free ids -/

/-- The next `n` ids name nothing: the ids in use lie below them and the counter does not wrap. -/
def Ahead (next : ObjectId) (ids : List ObjectId) (n : Nat) : Prop :=
  0 < n → next ≠ 0 ∧ (∀ id ∈ ids, id < next) ∧ next.toNat + n ≤ 2 ^ 64

section

variable {next : ObjectId} {ids ids' : List ObjectId} {n : Nat}

theorem Ahead.free (h : Ahead next ids (n + 1)) : next ≠ 0 ∧ next ∉ ids := by
  obtain ⟨hZero, hBelow, _⟩ := h (Nat.succ_pos n)
  exact ⟨hZero, fun hMem => absurd (hBelow next hMem) (UInt64.lt_irrefl next)⟩

theorem Ahead.draw (h : Ahead next ids (n + 1)) (hIds : ∀ id ∈ ids', id = next ∨ id ∈ ids) :
    Ahead (next + 1) ids' n := by
  intro hLeft
  obtain ⟨_, hBelow, hRoom⟩ := h (Nat.succ_pos n)
  have hNext : (next + 1).toNat = next.toNat + 1 := by
    rw [UInt64.toNat_add]
    exact Nat.mod_eq_of_lt (by simp only [UInt64.toNat_one]; omega)
  refine ⟨?_, fun id hid => ?_, by omega⟩
  · intro hZero
    rw [hZero] at hNext
    simp at hNext
  · rw [UInt64.lt_iff_toNat_lt, hNext]
    rcases hIds id hid with rfl | hOld
    · exact Nat.lt_succ_self _
    · exact Nat.lt_succ_of_lt (UInt64.lt_iff_toNat_lt.mp (hBelow id hOld))

end

namespace DeviceTree

variable {t t' t'' : DeviceTree} {d x y p : ObjectId} {emptied emptied' removed removed' :
  List ObjectId}

/-! ## Leaves -/

/-- A device stands on another one through present devices. -/
def RestsOn (t : DeviceTree) : ObjectId → ObjectId → Prop :=
  TransGen fun y p => t.BuiltOn y p ∧ p ∈ t.order

theorem RestsOn.standsOn (h : t.RestsOn y x) : t.StandsOn y x :=
  TransGen.mono (fun _ _ h => h.1) y x h

/-- In a closed tree nothing stands on a device through an absent one. -/
theorem Closed.restsOn (h : t.Closed) (hy : y ∈ t.order) (hStands : t.StandsOn y x) :
    t.RestsOn y x := by
  induction hStands using TransGen.head_induction_on with
  | single hEdge => exact .single ⟨hEdge, h _ hy _ hEdge⟩
  | head hEdge _ ih =>
    have hp := h _ hy _ hEdge
    exact .head ⟨hEdge, hp⟩ (ih hp)

/-- **On an acyclic tree something can always be taken down**: a dependent of greatest depth. -/
theorem exists_leaf (ht : t.Acyclic) (h : t.dependents d ≠ []) :
    ∃ x ∈ t.dependents d, t.isLeaf x = true := by
  obtain ⟨x, hx, hMax⟩ := (t.dependents d).toFinset.exists_max_image t.depth
    (List.toFinset_nonempty_iff _ |>.mpr h)
  rw [List.mem_toFinset] at hx
  refine ⟨x, hx, isLeaf_iff.mpr fun y hy hBuilt => ?_⟩
  have hStands : t.StandsOn y x := .single hBuilt
  have hDependent : y ∈ t.dependents d :=
    (mem_dependents_of_acyclic ht).mpr
      ⟨hy, hStands.trans ((mem_dependents_of_acyclic ht).mp hx).2⟩
  have hDeeper : t.depth x < t.depth y :=
    depth_lt_of_dependsOn ht (dependsOn_iff.mpr ⟨fun hSame => ht x (hSame ▸ hStands), hStands⟩)
  exact absurd (hMax y (List.mem_toFinset.mpr hDependent)) (Nat.not_le.mpr hDeeper)

/-! ## What is taken down -/

/-- The steps that take a device down: its content goes first, if it holds any. -/
def demolition (t : DeviceTree) (x : ObjectId) : List (ActionKind × ObjectId) :=
  (if (t.content? x).isSome then [(.destroyFormat, x)] else []) ++ [(.destroyDevice, x)]

/-- How many ids it takes to take a device down: one for each step, and one for the blank format
that replaces its content. -/
def idsToTakeDown (t : DeviceTree) (x : ObjectId) : Nat := if (t.content? x).isSome then 3 else 1

/-- What is built on a device, and the device itself if asked for. -/
def stack (t : DeviceTree) (d : ObjectId) (includeSelf : Bool) : List ObjectId :=
  t.dependents d ++ if includeSelf then [d] else []

/-- The ids that it takes to take some devices down. -/
def idsToTakeAllDown (t : DeviceTree) (ds : List ObjectId) : Nat := (ds.map t.idsToTakeDown).sum

/-- The present devices are stored, and the records of presence are in step. -/
structure Filed (t : DeviceTree) : Prop where
  stored : ∀ d ∈ t.order, (t.device? d).isSome
  inStep : t.InStep

theorem Filed.edit (ht : t.Filed) (hEdit : t.Edit t') : t'.Filed := by
  refine ⟨fun d hd => ?_, hEdit.inStep ht.inStep⟩
  have hKept := fun hd => hEdit.keepsNames.isSome (ht.stored d hd)
  cases hEdit with
  | layout hLayout => exact hKept (hLayout.order ▸ hd)
  | gain | lose | store => exact hKept hd
  | add hAdd =>
    obtain ⟨⟨device, hStored⟩, _, _, rfl⟩ := add_ok hAdd
    rcases List.mem_append.mp hd with hd | hd
    · exact hKept hd
    · rw [List.mem_singleton.mp hd]
      exact Option.isSome_of_eq_some hStored
  | remove hRemove =>
    rw [(remove_eq hRemove).2] at hd
    exact hKept (List.mem_filter.mp hd).1

theorem Filed.edits (ht : t.Filed) (hEdits : t.Edits t') : t'.Filed := by
  induction hEdits with
  | refl => exact ht
  | tail _ hEdit ih => exact ih.edit hEdit

theorem Filed.undoConstruction (ht : t.Filed) (a : Action) : (t.undoConstruction a).1.Filed := by
  have hRecords := t.undoConstruction_records a
  refine ⟨fun d hd => ?_, ht.inStep.of_same hRecords⟩
  exact (t.undoConstruction_ids a).isSome_device.mpr (ht.stored d (hRecords.order ▸ hd))

theorem Filed.perm_dependents (ht : t.Filed) (hx : x ∈ t.dependents d) :
    (x :: (t.dependents d).filter (· ∉ [x])).Perm (t.dependents d) := by
  have hNodup : (t.dependents d).Nodup := ht.inStep.nodup.filter _
  simpa only [List.mem_singleton] using perm_cons_filter hNodup hx

theorem Filed.idsToTakeAllDown_dependents (ht : t.Filed) (hx : x ∈ t.dependents d) :
    t.idsToTakeAllDown (t.dependents d)
      = t.idsToTakeDown x + t.idsToTakeAllDown ((t.dependents d).filter (· ∉ [x])) := by
  have hSum := ((ht.perm_dependents hx).map t.idsToTakeDown).sum_eq
  rw [List.map_cons, List.sum_cons] at hSum
  exact hSum.symm

theorem mem_stack {includeSelf : Bool} :
    x ∈ t.stack d includeSelf ↔ x ∈ t.dependents d ∨ includeSelf = true ∧ x = d := by
  cases includeSelf <;> simp [stack]

/-- What stands on a device of a stack belongs to the stack. -/
theorem mem_stack_of_standsOn {includeSelf : Bool} (ht : t.Acyclic)
    (hx : x ∈ t.stack d includeSelf) (hy : y ∈ t.order) (hStands : t.StandsOn y x) :
    y ∈ t.stack d includeSelf := by
  refine mem_stack.mpr (Or.inl ((mem_dependents_of_acyclic ht).mpr ⟨hy, ?_⟩))
  rcases mem_stack.mp hx with hx | ⟨_, rfl⟩
  · exact hStands.trans (mem_dependents.mp hx).2.2
  · exact hStands

/-- A list in which no device is built on an earlier one has what rests on a device before it. -/
theorem mem_before_of_restsOn {includeSelf : Bool} {before after : List ObjectId}
    (ht : t.Acyclic) (hStack : ∀ y, y ∈ before ++ x :: after ↔ y ∈ t.stack d includeSelf)
    (hAfter : (before ++ x :: after).Pairwise fun x y => ¬ t.BuiltOn y x) (hy : y ∈ t.order)
    (hRests : t.RestsOn y x) : y ∈ before := by
  have hx := (hStack x).mp (List.mem_append_right _ List.mem_cons_self)
  obtain ⟨_, hRight, hAcross⟩ := List.pairwise_append.mp hAfter
  have hOver := (List.pairwise_cons.mp hRight).1
  -- along the path down to `x`: what is built on `x`, or on a device before it, is before `x`
  induction hRests using TransGen.head_induction_on with
  | single hEdge =>
    have hMem := (hStack _).mpr (mem_stack_of_standsOn ht hx hy (.single hEdge.1))
    rcases List.mem_append.mp hMem with hBefore | hMem
    · exact hBefore
    · rcases List.mem_cons.mp hMem with rfl | hLater
      · exact absurd (.single hEdge.1) (ht _)
      · exact absurd hEdge.1 (hOver _ hLater)
  | head hEdge hRest ih =>
    have hLower := ih hEdge.2
    have hStands : t.StandsOn _ x := .head hEdge.1 (RestsOn.standsOn hRest)
    have hMem := (hStack _).mpr (mem_stack_of_standsOn ht hx hy hStands)
    rcases List.mem_append.mp hMem with hBefore | hMem
    · exact hBefore
    · exact absurd hEdge.1 (hAcross _ hLower _ hMem)

/-- The content of some devices was replaced, some devices left the tree, and nothing else that was
there has changed. -/
structure Cleared (t : DeviceTree) (emptied removed : List ObjectId) (t' : DeviceTree) : Prop where
  order : t'.order = t.order.filter (· ∉ removed)
  contains : ∀ x, t'.contains x = true ↔ t.contains x = true ∧ x ∉ removed
  stored : ∀ x, (t'.device? x).isSome = (t.device? x).isSome
  parentsOf : ∀ x, t'.parentsOf x = t.parentsOf x
  device? : ∀ x ∉ emptied, t'.device? x = t.device? x
  content? : ∀ x ∉ emptied, t'.content? x = t.content? x
  format? : ∀ f format, t.format? f = some format → t'.format? f = some format

theorem Cleared.refl (t : DeviceTree) (emptied : List ObjectId) : t.Cleared emptied [] t where
  order := by simp
  contains := fun _ => by simp
  stored := fun _ => rfl
  parentsOf := fun _ => rfl
  device? := fun _ _ => rfl
  content? := fun _ _ => rfl
  format? := fun _ _ h => h

theorem Cleared.trans (h : t.Cleared emptied removed t') (h' : t'.Cleared emptied' removed' t'') :
    t.Cleared (emptied ++ emptied') (removed ++ removed') t'' where
  order := by
    rw [h'.order, h.order, List.filter_filter]
    exact List.filter_congr fun x _ => by simp [Bool.and_comm]
  contains := fun x => by
    rw [h'.contains, h.contains, List.mem_append, not_or, and_assoc]
  stored := fun x => (h'.stored x).trans (h.stored x)
  parentsOf := fun x => (h'.parentsOf x).trans (h.parentsOf x)
  device? := fun x hx => by
    rw [List.mem_append, not_or] at hx
    exact (h'.device? x hx.2).trans (h.device? x hx.1)
  content? := fun x hx => by
    rw [List.mem_append, not_or] at hx
    exact (h'.content? x hx.2).trans (h.content? x hx.1)
  format? := fun f format hf => h'.format? f format (h.format? f format hf)

theorem Cleared.builtOn (h : t.Cleared emptied removed t') : t'.BuiltOn = t.BuiltOn := by
  funext x p
  exact congrArg (p ∈ ·) (h.parentsOf x)

theorem Cleared.standsOn_iff (h : t.Cleared emptied removed t') :
    t'.StandsOn x y ↔ t.StandsOn x y := by
  unfold StandsOn
  rw [h.builtOn]

theorem Cleared.isLeaf (h : t.Cleared emptied removed t') (hLeaf : t.isLeaf x = true) :
    t'.isLeaf x = true := by
  rw [isLeaf_iff, h.builtOn, h.order]
  exact fun y hy => isLeaf_iff.mp hLeaf y (List.mem_filter.mp hy).1

theorem Cleared.acyclic (h : t.Cleared emptied removed t') (ht : t.Acyclic) : t'.Acyclic :=
  fun x hx => ht x (h.standsOn_iff.mp hx)

theorem Cleared.filed (h : t.Cleared emptied removed t') (ht : t.Filed) : t'.Filed where
  stored := fun x hx => by
    rw [h.order] at hx
    exact (h.stored x).trans (ht.stored x (List.mem_filter.mp hx).1)
  inStep := {
    nodup := h.order ▸ ht.inStep.nodup.filter _
    contains_iff := fun x => by
      rw [h.contains, ht.inStep.contains_iff, h.order, List.mem_filter, decide_eq_true_eq] }

theorem Cleared.demolition (h : t.Cleared emptied removed t') (hx : x ∉ emptied) :
    t'.demolition x = t.demolition x := by
  unfold DeviceTree.demolition
  rw [h.content? x hx]

theorem Cleared.idsToTakeDown (h : t.Cleared emptied removed t') (hx : x ∉ emptied) :
    t'.idsToTakeDown x = t.idsToTakeDown x := by
  unfold DeviceTree.idsToTakeDown
  rw [h.content? x hx]

theorem Cleared.idsToTakeAllDown (h : t.Cleared emptied removed t') {ds : List ObjectId}
    (hds : ∀ x ∈ ds, x ∉ emptied) : t'.idsToTakeAllDown ds = t.idsToTakeAllDown ds :=
  congrArg List.sum (List.map_congr_left fun x hx => h.idsToTakeDown (hds x hx))

theorem Cleared.dependents (h : t.Cleared emptied removed t') (d : ObjectId) :
    t'.dependents d = (t.dependents d).filter (· ∉ removed) := by
  unfold DeviceTree.dependents
  rw [h.order, List.filter_filter, List.filter_filter]
  refine List.filter_congr fun x _ => ?_
  have hSame : t'.dependsOn x d = t.dependsOn x d := by
    rw [Bool.eq_iff_iff, dependsOn_iff, dependsOn_iff, h.standsOn_iff]
  rw [hSame, Bool.and_comm]

/-- A blank format is no content, under whichever id it is stored. -/
theorem content?_storeFormat_blank (t : DeviceTree) (mountPoint : String) (onMedia : Bool) :
    (t.storeFormat .blank mountPoint onMedia).2.content? x = t.content? x := by
  unfold DeviceTree.content? formatOf?
  show ((t.device? x).bind fun device => _).filter _ = _
  cases hd : t.device? x with
  | none => rfl
  | some device =>
    show ((t.storeFormat .blank mountPoint onMedia).2.format? device.formatId).filter _ =
      (t.format? device.formatId).filter _
    cases hf : t.format? device.formatId with
    | some format => rw [show (t.storeFormat .blank mountPoint onMedia).2.format? device.formatId
        = some format from Arena.find?_insert_of_find? hf _]
    | none =>
      refine Option.filter_eq_none_iff.mpr fun format hNew => ?_
      rcases Arena.of_find?_insert hNew with hOld | ⟨rfl, _⟩
      · exact absurd (hf.symm.trans hOld) (by simp)
      · simp [Format.ofType, FormatType.blank]

theorem cleared_modifyDevice (t : DeviceTree) (x : ObjectId) {change : Device → Device}
    (keeps : ∀ d, (change d).id = d.id) (hFrame : ∀ d, (change d).frame = d.frame) :
    t.Cleared [x] [] (t.modifyDevice x change keeps) := by
  have hDevice : ∀ y ∉ [x], (t.modifyDevice x change keeps).device? y = t.device? y := by
    intro y hy
    have hne : y ≠ x := fun hSame => hy (hSame ▸ List.mem_singleton_self x)
    rw [device?_modifyDevice]
    simp [hne]
  have hLayout := sameLayout_modifyDevice t x change keeps hFrame
  refine ⟨(Cleared.refl t []).order, (Cleared.refl t []).contains, hLayout.isSome,
    hLayout.parentsOf, hDevice, fun y hy => ?_, fun f format hf => hf⟩
  unfold DeviceTree.content? formatOf?
  rw [hDevice y hy]
  rfl

theorem cleared_storeFormat_blank (t : DeviceTree) (mountPoint : String) (onMedia : Bool) :
    t.Cleared [] [] (t.storeFormat .blank mountPoint onMedia).2 where
  order := (Cleared.refl t []).order
  contains := (Cleared.refl t []).contains
  stored := fun _ => rfl
  parentsOf := fun _ => rfl
  device? := fun _ _ => rfl
  content? := fun _ _ => content?_storeFormat_blank t mountPoint onMedia
  format? := fun _ _ hf => Arena.find?_insert_of_find? hf _

theorem mem_storedIds_storeFormat {type : FormatType} {mountPoint : String} {onMedia : Bool}
    (h : x ∈ (t.storeFormat type mountPoint onMedia).2.storedIds) :
    x = t.ids.next ∨ x ∈ t.storedIds := by
  rcases List.mem_append.mp h with hDevice | hFormat
  · exact Or.inr (List.mem_append_left _ hDevice)
  · rcases t.formats.ids_insert (.ofType type t.ids.next mountPoint onMedia) with
      hNew | ⟨hSame, _⟩
    · rcases List.mem_append.mp (hNew ▸ hFormat) with hOld | hNext
      · exact Or.inr (List.mem_append_right _ hOld)
      · exact Or.inl (List.mem_singleton.mp hNext)
    · exact Or.inr (List.mem_append_right _ (hSame ▸ hFormat))

theorem SameIds.storedIds (h : t.SameIds t') : t'.storedIds = t.storedIds := by
  unfold DeviceTree.storedIds
  rw [h.devices, h.formats]

theorem cleared_destroyFormat (t : DeviceTree) (x blank : ObjectId) :
    t.Cleared [x] [] ((t.storeFormat .blank "" false).2.setFormat x blank) :=
  (cleared_storeFormat_blank t "" false).trans (cleared_modifyDevice _ x _ fun _ => rfl)

theorem cleared_remove {force : Bool} (h : t.remove x force = .ok t') : t.Cleared [] [x] t' := by
  have hContains := contains_of_remove h
  obtain ⟨_, rfl⟩ := remove_eq h
  refine ⟨List.filter_congr fun y _ => by simp, fun y => ?_, fun _ => rfl, fun _ => rfl,
    fun _ _ => rfl, fun _ _ => rfl, fun _ _ hf => hf⟩
  rw [hContains, Bool.and_eq_true, bne_iff_ne, List.mem_singleton, and_comm]

theorem Cleared.renumbered (h : t.Cleared emptied removed t') (ids : IdSource) :
    t.Cleared emptied removed { t' with ids } :=
  ⟨h.order, h.contains, h.stored, h.parentsOf, h.device?, h.content?, h.format?⟩

end DeviceTree

namespace Session

variable {s s' s'' : Session} {d x : ObjectId} {ids ids' : List ObjectId} {n : Nat}

/-! ## What is appended to the plan -/

/-- The actions `ids` are new and were appended to the plan; the actions that were there before are
as they were. -/
structure Appends (s : Session) (ids : List ObjectId) (s' : Session) : Prop where
  registry : s'.registry = s.registry ++ ids
  new : ∀ id ∈ ids, s.action? id = none ∧ ∃ a, s'.action? id = some a ∧ a.state = .registered
  action? : ∀ id a, s.action? id = some a → s'.action? id = some a

theorem Appends.refl (s : Session) : s.Appends [] s :=
  ⟨(List.append_nil _).symm, fun _ h => absurd h List.not_mem_nil, fun _ _ h => h⟩

theorem Appends.trans (h : s.Appends ids s') (h' : s'.Appends ids' s'') :
    s.Appends (ids ++ ids') s'' where
  registry := by rw [h'.registry, h.registry, List.append_assoc]
  new := fun id hid => by
    rcases List.mem_append.mp hid with hid | hid
    · obtain ⟨hNone, a, ha, hState⟩ := h.new id hid
      exact ⟨hNone, a, h'.action? id a ha, hState⟩
    · obtain ⟨hNone, hThere⟩ := h'.new id hid
      refine ⟨?_, hThere⟩
      cases hOld : s.action? id with
      | none => rfl
      | some a => exact absurd ((h.action? id a hOld).symm.trans hNone) (by simp)
  action? := fun id a ha => h'.action? id a (h.action? id a ha)

theorem scheduleListed_of_ok {p : Proposal} (h : (s.schedule p).1.ok = true) :
    (s.scheduleListed p).1 = { value := [(s.schedule p).1.value] } := by
  have hRefusal : (s.schedule p).1.refusal = none := Option.isNone_iff_eq_none.mp h
  simp only [scheduleListed, hRefusal]

theorem scheduleListed_of_refused {p : Proposal} (h : (s.schedule p).1.ok = false) :
    (s.scheduleListed p).1.value = [] := by
  obtain ⟨cause, hRefusal⟩ := Option.ne_none_iff_exists'.mp fun hNone =>
    absurd (h.symm.trans (Option.isNone_iff_eq_none.mpr hNone)) Bool.false_ne_true
  simp only [scheduleListed, hRefusal]
  rfl

theorem appends_scheduleListed (s : Session) (p : Proposal) :
    s.Appends (s.scheduleListed p).1.value (s.scheduleListed p).2 := by
  rw [scheduleListed_snd]
  have hNothing : ∀ {s'}, (s.schedule p).1.ok = false → s.registry = s'.registry →
      (∀ id a, s.action? id = some a → s'.action? id = some a) →
      s.Appends (s.scheduleListed p).1.value s' := by
    intro s' hRefused hRegistry hActions
    rw [scheduleListed_of_refused hRefused]
    exact ⟨hRegistry.symm.trans (List.append_nil _).symm, fun _ h => absurd h List.not_mem_nil,
      hActions⟩
  cases scheduled s p with
  | refused hOk hSame =>
    exact hNothing hOk hSame.registry.symm fun id a ha => (hSame.action? id).trans ha
  | dropped preparation hPrepares hTaken hOk hSame =>
    exact hNothing hOk hSame.registry.symm fun id a ha => (hSame.action? id).trans ha
  | registered preparation actions t changes hPrepares hInsert hApply hOk hValue hSame =>
    rw [scheduleListed_of_ok hOk, hValue]
    refine ⟨hSame.registry, fun id hid => ?_, fun id a ha =>
      (hSame.action? id).trans (action?_of_new hInsert rfl _ ha)⟩
    rw [List.mem_singleton.mp hid]
    exact ⟨(Arena.insert?_eq_some hInsert).2.2, _,
      (hSame.action? _).trans (action?_self_of_new hInsert rfl _), rfl⟩
  | takenBack preparation actions cause hPrepares hInsert hApply hOk hSame =>
    exact hNothing hOk hSame.registry.symm fun id a ha =>
      (hSame.action? id).trans (action?_of_new hInsert rfl _ ha)

theorem appends_schedule {p : Proposal} (h : (s.schedule p).1.ok = true) :
    s.Appends [(s.schedule p).1.value] (s.schedule p).2 := by
  have hListed := appends_scheduleListed s p
  rwa [scheduleListed_snd, scheduleListed_of_ok h] at hListed

theorem appends_destroyContent (s : Session) (x : ObjectId) :
    s.Appends (s.destroyContent x).1.value (s.destroyContent x).2 := by
  unfold destroyContent
  split
  · exact appends_scheduleListed s _
  · exact .refl s

theorem appends_tearDown (s : Session) (x : ObjectId) :
    s.Appends (s.tearDown x).1.value (s.tearDown x).2 := by
  have hContent := appends_destroyContent s x
  unfold tearDown
  dsimp only
  split
  · exact hContent.trans (appends_scheduleListed _ _)
  · exact hContent

theorem appends_tearDownAbove (s : Session) (d : ObjectId) :
    s.Appends (s.tearDownAbove d).1.value (s.tearDownAbove d).2 :=
  tearDownAbove_induction (motive := fun s answer => s.Appends answer.1.value answer.2)
    (fun s _ => .refl s) (fun s _ _ => .refl s)
    (fun s leaf _ _ _ ih => (appends_tearDown s leaf).trans ih)
    (fun s leaf _ _ _ => appends_tearDown s leaf) s

/-- **What a call answers is what it appended to the plan**, also when it is refused on the way. -/
theorem appends_removeStack (s : Session) (d : ObjectId) (includeSelf : Bool) :
    s.Appends (s.removeStack d includeSelf).1.value (s.removeStack d includeSelf).2 := by
  have hAbove := appends_tearDownAbove s d
  unfold removeStack
  split
  · exact .refl s
  · show s.Appends (s.tearDownStack d includeSelf).1.value (s.tearDownStack d includeSelf).2
    unfold tearDownStack
    dsimp only
    split
    · exact hAbove.trans (appends_tearDown _ d)
    · exact hAbove

/-! ## What leaves the tree -/

/-- The destruction of what a device holds moves no device. -/
theorem destroyContent_records (hOk : (s.destroyContent x).1.ok = true) :
    s.tree.SameRecords (s.destroyContent x).2.tree := by
  unfold destroyContent at hOk ⊢
  split at hOk
  · rename_i hHolds
    rw [if_pos hHolds, scheduleListed_snd]
    obtain ⟨p, actions, t, changes, hPrepare, hInsert, hApply⟩ :=
      applied_of_schedule_ok (scheduleListed_ok hOk).1
    obtain ⟨_, _, _, _, hOp, _⟩ := DeviceTree.prepare_destroyFormat_ok hPrepare
    have hKind : (s.actionOf p).kind = .destroyFormat := congrArg Operation.kind hOp
    rw [(schedule_of_applied hPrepare hInsert hApply).2.tree, setState_tree]
    rcases DeviceTree.applyRegistration_ok hApply with ⟨hEnters, _⟩ | ⟨hLeaves, _⟩ | ⟨_, _, rfl⟩
    · exact nomatch hKind.symm.trans hEnters
    · exact nomatch hKind.symm.trans hLeaves
    · exact carryOut_records (DeviceTree.prepares_of_prepare hPrepare)
  · rename_i hEmpty
    rw [if_neg hEmpty]
    exact .refl _

/-- **A device that is taken down was present and leaves the tree.** -/
theorem left_of_tearDown (hOk : (s.tearDown x).1.ok = true) :
    s.tree.contains x = true ∧ (s.tearDown x).2.tree.contains x = false := by
  unfold tearDown at hOk ⊢
  dsimp only at hOk ⊢
  split at hOk
  · rename_i hContent
    rw [if_pos hContent, ← (destroyContent_records hContent).contains, scheduleListed_snd]
    obtain ⟨p, actions, t, changes, hPrepare, hInsert, hApply⟩ :=
      applied_of_schedule_ok (scheduleListed_ok hOk).1
    obtain ⟨device, hd, rfl⟩ := DeviceTree.prepare_destroyDevice_ok hPrepare
    obtain rfl : device.id = x := Arena.id_of_find? hd
    obtain ⟨after, hRemove, hAfter⟩ := map_ok hApply
    cases hAfter
    rw [(schedule_of_applied hPrepare hInsert hApply).2.tree, setState_tree]
    exact ⟨(DeviceTree.remove_eq hRemove).1,
      (DeviceTree.contains_of_remove hRemove _).trans (by simp [actionOf])⟩
  · rename_i hContent
    exact absurd hOk hContent

/-! ## How long the work takes -/

theorem scheduleListed_value (s : Session) (p : Proposal) :
    (s.scheduleListed p).1.value.length ≤ 1 ∧
      ((s.scheduleListed p).1.ok = false → (s.scheduleListed p).1.value = []) := by
  cases hOk : (s.schedule p).1.ok with
  | true =>
    rw [scheduleListed_of_ok hOk]
    exact ⟨le_rfl, fun hRefused => nomatch hRefused⟩
  | false =>
    rw [scheduleListed_of_refused hOk]
    exact ⟨Nat.zero_le 1, fun _ => rfl⟩

theorem tearDown_value (s : Session) (x : ObjectId) :
    (s.tearDown x).1.value.length ≤ 2 ∧
      ((s.tearDown x).1.ok = false → (s.tearDown x).1.value.length ≤ 1) := by
  have hContent : (s.destroyContent x).1.value.length ≤ 1 := by
    unfold destroyContent
    split
    · exact (scheduleListed_value s _).1
    · exact Nat.zero_le 1
  have hDevice := scheduleListed_value (s.destroyContent x).2 (.destroyDevice x)
  unfold tearDown
  dsimp only
  split
  · refine ⟨?_, fun hRefused => ?_⟩
    · rw [List.length_append]
      omega
    · rw [hDevice.2 hRefused, List.append_nil]
      exact hContent
  · exact ⟨by omega, fun _ => hContent⟩

theorem tearDownAbove_value (s : Session) (d : ObjectId) :
    ((s.tearDownAbove d).1.ok = true → (s.tearDownAbove d).1.value.length
      + 2 * (s.tearDownAbove d).2.tree.order.length ≤ 2 * s.tree.order.length) ∧
    (s.tearDownAbove d).1.value.length ≤ 2 * s.tree.order.length + 1 := by
  refine tearDownAbove_induction (motive := fun s answer =>
    (answer.1.ok = true → answer.1.value.length + 2 * answer.2.tree.order.length
      ≤ 2 * s.tree.order.length) ∧ answer.1.value.length ≤ 2 * s.tree.order.length + 1)
    (fun s _ => ⟨fun _ => Nat.le_of_eq (Nat.zero_add _), Nat.zero_le _⟩)
    (fun s _ _ => ⟨fun hOk => (nomatch hOk), Nat.zero_le _⟩) ?_ ?_ s
  · intro s leaf hMem _ hOk ih
    have hLess := tearDown_order_lt (DeviceTree.mem_dependents.mp hMem).1 hOk
    have hTwo := (tearDown_value s leaf).1
    dsimp only
    rw [List.length_append]
    refine ⟨fun hRest => ?_, by omega⟩
    have := ih.1 hRest
    omega
  · intro s leaf _ _ hRefused
    have hOne := (tearDown_value s leaf).2 hRefused
    exact ⟨fun hOk => absurd (hRefused.symm.trans hOk) Bool.false_ne_true, by omega⟩

/-- **The work ends on every graph**: two actions for each device that is present at most, and one
that was scheduled before a refusal. -/
theorem removeStack_value (hInStep : s.tree.InStep) (d : ObjectId) (includeSelf : Bool) :
    (s.removeStack d includeSelf).1.value.length ≤ 2 * s.tree.order.length + 1 := by
  obtain ⟨hOk, hAbove⟩ := tearDownAbove_value s d
  unfold removeStack
  split
  · exact Nat.zero_le _
  · show (s.tearDownStack d includeSelf).1.value.length ≤ _
    unfold tearDownStack
    dsimp only
    split
    · rename_i hSelf
      have hLess := hOk hSelf.1
      obtain ⟨hTwo, hOne⟩ := tearDown_value (s.tearDownAbove d).2 d
      rw [List.length_append]
      cases hOwn : ((s.tearDownAbove d).2.tearDown d).1.ok with
      | true =>
        have hLeft : (s.tearDownAbove d).2.tree.InStep :=
          tearDownAbove_preserves (P := fun s => s.tree.InStep)
            (fun _ _ h => inStep_perform h (.schedule _))
            (fun _ _ h => inStep_perform h (.schedule _)) hInStep d
        have hListed := (hLeft.contains_iff d).mp (left_of_tearDown hOwn).1
        have := tearDown_order_lt hListed hOwn
        omega
      | false =>
        have := hOne hOwn
        omega
    · exact hAbove

/-! ## Taking down one device -/

/-- The next `n` ids of a session name nothing. -/
def Room (s : Session) (n : Nat) : Prop := Ahead s.tree.ids.next s.storedIds n

/-- What an action does, and to which device. -/
def step? (s : Session) (id : ObjectId) : Option (ActionKind × ObjectId) :=
  (s.action? id).map fun a => (a.kind, a.device)

/-- A call that succeeds in taking devices down by the given steps, and the ids that it draws and
leaves. -/
structure TakesDown (s : Session) (emptied removed : List ObjectId)
    (steps : List (ActionKind × ObjectId)) (drawn left : Nat) (answer : Answer (List ObjectId)) :
    Prop where
  ok : answer.1.ok = true
  tree : s.tree.Cleared emptied removed answer.2.tree
  steps : answer.1.value.map answer.2.step? = steps.map some
  next : answer.2.tree.ids.next = s.tree.ids.next + UInt64.ofNat drawn
  room : answer.2.Room left

/-- What is read off the actions that calls appended in turn. -/
theorem Appends.map_action? {β : Type} {read : Action → β} {values values' : List β}
    (h : ids.map (fun id => (s.action? id).map read) = values.map some)
    (hLater : s.Appends ids' s')
    (h' : ids'.map (fun id => (s'.action? id).map read) = values'.map some) :
    (ids ++ ids').map (fun id => (s'.action? id).map read) = (values ++ values').map some := by
  have hKept : ids.map (fun id => (s'.action? id).map read)
      = ids.map fun id => (s.action? id).map read := by
    refine List.map_congr_left fun id hid => ?_
    have hSome : (s.action? id).map read ∈ values.map some := h ▸ List.mem_map_of_mem hid
    obtain ⟨value, _, hValue⟩ := List.mem_map.mp hSome
    obtain ⟨a, ha, _⟩ := Option.map_eq_some_iff.mp hValue.symm
    rw [ha, hLater.action? id a ha]
  rw [List.map_append, List.map_append, hKept, h, h']

/-- Scheduling succeeds when there is an id for the action and the action can be registered. -/
theorem schedule_of_room {proposal : Proposal} {p : Preparation}
    (hPrepare : s.tree.prepare proposal = .ok p)
    (hRoom : Ahead p.tree.ids.next (p.tree.storedIds ++ s.actions.ids) (n + 1)) {t : DeviceTree}
    {changes : Changes}
    (hApply : (s.carryOut p).tree.applyRegistration (s.actionOf p) = .ok (t, changes)) :
    (s.schedule proposal).1.ok = true ∧ (s.schedule proposal).1.value = (s.actionOf p).id ∧
      (s.schedule proposal).2.tree = t ∧
      (s.schedule proposal).2.action? (s.actionOf p).id
        = some { s.actionOf p with state := .registered } ∧
      (s.schedule proposal).2.Room n := by
  have hFree : s.actions.insert? (s.actionOf p) ≠ none := by
    intro hNone
    rcases Arena.insert?_eq_none_iff.mp hNone with hZero | hTaken
    · exact hRoom.free.1 hZero
    · exact hRoom.free.2 (List.mem_append_right _ hTaken)
  obtain ⟨actions, hInsert⟩ := Option.ne_none_iff_exists'.mp hFree
  obtain ⟨hOutcome, hSame⟩ := schedule_of_applied hPrepare hInsert hApply
  have hIds : (s.carryOut p).tree.SameIds t :=
    DeviceTree.moves_ids (DeviceTree.applyRegistration_ok hApply)
  refine ⟨by rw [hOutcome]; rfl, by rw [hOutcome], hSame.tree,
    (hSame.action? _).trans (action?_self_of_new hInsert rfl .registered), ?_⟩
  have hActions : (s.schedule proposal).2.actions.ids = s.actions.ids ++ [p.tree.ids.next] := by
    rw [hSame.actions, setState_ids]
    exact Arena.ids_insert? hInsert
  unfold Room storedIds DeviceTree.storedIds
  rw [hActions, hSame.tree, setState_tree, hIds.next, hIds.devices, hIds.formats]
  refine hRoom.draw fun id hid => ?_
  rw [← List.append_assoc, List.mem_append, List.mem_singleton] at hid
  exact hid.symm

theorem scheduleListed_of_room {proposal : Proposal} {p : Preparation}
    (hPrepare : s.tree.prepare proposal = .ok p)
    (hRoom : Ahead p.tree.ids.next (p.tree.storedIds ++ s.actions.ids) (n + 1)) {t : DeviceTree}
    {changes : Changes}
    (hApply : (s.carryOut p).tree.applyRegistration (s.actionOf p) = .ok (t, changes))
    {emptied removed : List ObjectId} (hTree : s.tree.Cleared emptied removed t) (drawn : Nat)
    (hDrawn : p.tree.ids.next = s.tree.ids.next + UInt64.ofNat drawn) :
    s.TakesDown emptied removed [(p.operation.kind, p.device)] (drawn + 1) n
      (s.scheduleListed proposal) := by
  obtain ⟨hOk, hValue, hAfter, ha, hLeft⟩ := schedule_of_room hPrepare hRoom hApply
  have hListed : (s.scheduleListed proposal).1 = { value := [(s.actionOf p).id] } := by
    rw [scheduleListed_of_ok hOk, hValue]
  have hIds : (s.carryOut p).tree.SameIds t :=
    DeviceTree.moves_ids (DeviceTree.applyRegistration_ok hApply)
  refine ⟨by rw [hListed]; rfl, ?_, ?_, ?_, ?_⟩
  · rw [scheduleListed_snd, hAfter]
    exact hTree
  · rw [hListed, scheduleListed_snd]
    simp only [List.map_cons, List.map_nil, step?, ha, Option.map_some]
    rfl
  · rw [scheduleListed_snd, hAfter, hIds.next, UInt64.ofNat_add, ← UInt64.add_assoc, ← hDrawn]
    rfl
  · rw [scheduleListed_snd]
    exact hLeft

theorem TakesDown.trans {emptied emptied' removed removed' : List ObjectId}
    {steps steps' : List (ActionKind × ObjectId)} {drawn drawn' left : Nat}
    {first rest : Answer (List ObjectId)} (h : s.TakesDown emptied removed steps drawn left first)
    (hLater : first.2.Appends rest.1.value rest.2)
    (h' : first.2.TakesDown emptied' removed' steps' drawn' n rest) :
    s.TakesDown (emptied ++ emptied') (removed ++ removed') (steps ++ steps') (drawn + drawn') n
      ({ rest.1 with value := first.1.value ++ rest.1.value }, rest.2) where
  ok := h'.ok
  tree := h.tree.trans h'.tree
  steps := Appends.map_action? h.steps hLater h'.steps
  next := by rw [h'.next, h.next, UInt64.add_assoc, ← UInt64.ofNat_add]
  room := h'.room

theorem takesDown_destroyContent (hStored : (s.tree.device? x).isSome)
    (hPresent : s.tree.contains x = true)
    (hRoom : s.Room (n + if (s.tree.content? x).isSome then 2 else 0)) :
    s.TakesDown [x] [] (if (s.tree.content? x).isSome then [(.destroyFormat, x)] else [])
      (if (s.tree.content? x).isSome then 2 else 0) n (s.destroyContent x) := by
  unfold destroyContent
  cases hContent : (s.tree.content? x).isSome with
  | false =>
    rw [hContent] at hRoom
    exact ⟨rfl, .refl _ _, rfl, (UInt64.add_zero _).symm, hRoom⟩
  | true =>
    rw [hContent, if_pos rfl] at hRoom
    obtain ⟨device, hd⟩ := Option.isSome_iff_exists.mp hStored
    obtain rfl : device.id = x := Arena.id_of_find? hd
    let p : Preparation := {
      device := device.id
      operation := .destroyFormat device.formatId s.tree.ids.next
      tree := (s.tree.storeFormat .blank "" false).2.setFormat device.id s.tree.ids.next
      updated := [device.id] }
    have hPrepare : s.tree.prepare (.destroyFormat device.id) = .ok p := by
      simp only [DeviceTree.prepare, DeviceTree.target, hd]
      rfl
    have hApply : (s.carryOut p).tree.applyRegistration (s.actionOf p)
        = .ok ((s.carryOut p).tree, {}) := by
      have hThere : (s.carryOut p).tree.contains device.id = true := hPresent
      simp [DeviceTree.applyRegistration, actionOf, p, Operation.container?, hThere]
    refine scheduleListed_of_room hPrepare ?_ hApply
      ((s.tree.cleared_destroyFormat device.id _).renumbered _) 1 rfl
    refine hRoom.draw fun id hid => ?_
    have hSame := DeviceTree.modifyDevice_ids (s.tree.storeFormat .blank "" false).2 device.id
      (fun d => { d with formatId := s.tree.ids.next }) fun _ => rfl
    rcases List.mem_append.mp hid with hTree | hAction
    · refine (DeviceTree.mem_storedIds_storeFormat (hSame.storedIds ▸ hTree)).imp_right fun hOld =>
        List.mem_append_left _ hOld
    · exact Or.inr (List.mem_append_right _ hAction)

theorem takesDown_destroyDevice (hStored : (s.tree.device? x).isSome)
    (hPresent : s.tree.contains x = true) (hLeaf : s.tree.isLeaf x = true)
    (hRoom : s.Room (n + 1)) :
    s.TakesDown [] [x] [(.destroyDevice, x)] 1 n (s.scheduleListed (.destroyDevice x)) := by
  obtain ⟨device, hd⟩ := Option.isSome_iff_exists.mp hStored
  obtain rfl : device.id = x := Arena.id_of_find? hd
  let p : Preparation := { device := device.id, operation := .destroyDevice, tree := s.tree }
  have hPrepare : s.tree.prepare (.destroyDevice device.id) = .ok p := by
    simp only [DeviceTree.prepare, DeviceTree.target, hd]
    rfl
  let left : DeviceTree := { (s.carryOut p).tree with
    order := s.tree.order.filter (· ≠ device.id)
    presence := s.tree.presence.erase device.id }
  have hRemove : (s.carryOut p).tree.remove device.id = .ok left := by
    have hThere : (s.carryOut p).tree.contains device.id = true := hPresent
    have hTop : (s.carryOut p).tree.isLeaf device.id = true := hLeaf
    simp only [DeviceTree.remove, hThere, hTop]
    rfl
  have hApply : (s.carryOut p).tree.applyRegistration (s.actionOf p)
      = .ok (left, { deleted := [device.id] }) := by
    show ((s.carryOut p).tree.remove device.id).map _ = _
    rw [hRemove]
    rfl
  have hCleared := ((DeviceTree.Cleared.refl s.tree []).renumbered s.tree.ids.take.2).trans
    (DeviceTree.cleared_remove hRemove)
  exact scheduleListed_of_room hPrepare hRoom hApply hCleared 0 (UInt64.add_zero _).symm

/-- **A present leaf can be taken down.** -/
theorem takesDown_tearDown (hStored : (s.tree.device? x).isSome)
    (hPresent : s.tree.contains x = true) (hLeaf : s.tree.isLeaf x = true)
    (hRoom : s.Room (n + s.tree.idsToTakeDown x)) :
    s.TakesDown [x] [x] (s.tree.demolition x) (s.tree.idsToTakeDown x) n (s.tearDown x) := by
  have hIds : s.tree.idsToTakeDown x = (if (s.tree.content? x).isSome then 2 else 0) + 1 := by
    unfold DeviceTree.idsToTakeDown
    split <;> rfl
  rw [hIds] at hRoom ⊢
  have hContent := takesDown_destroyContent (n := n + 1) hStored hPresent
    (by rwa [Nat.add_assoc, Nat.add_comm 1])
  have hThere := (hContent.tree.contains x).mpr ⟨hPresent, List.not_mem_nil⟩
  have hDevice := takesDown_destroyDevice (n := n) ((hContent.tree.stored x).trans hStored) hThere
    (hContent.tree.isLeaf hLeaf) hContent.room
  unfold tearDown
  rw [if_pos hContent.ok]
  exact hContent.trans (appends_scheduleListed _ _) hDevice

/-! ## Taking down the whole stack -/

theorem takesDown_of_leaf (hFiled : s.tree.Filed) (hMem : x ∈ s.tree.dependents d)
    (hLeaf : s.tree.isLeaf x = true)
    (hRoom : s.Room (n + s.tree.idsToTakeAllDown (s.tree.dependents d))) :
    s.TakesDown [x] [x] (s.tree.demolition x) (s.tree.idsToTakeDown x)
      (n + s.tree.idsToTakeAllDown ((s.tree.dependents d).filter (· ∉ [x]))) (s.tearDown x) := by
  have hPresent := (DeviceTree.mem_dependents.mp hMem).1
  refine takesDown_tearDown (hFiled.stored x hPresent) ((hFiled.inStep.contains_iff x).mpr hPresent)
    hLeaf ?_
  rwa [Nat.add_assoc, Nat.add_comm (s.tree.idsToTakeAllDown _),
    ← hFiled.idsToTakeAllDown_dependents hMem]

/-- **All that is built on a device can be taken down**, each device after the present devices of
which it is a parent. -/
theorem takesDown_tearDownAbove (d : ObjectId) (n : Nat) (s : Session) :
    s.tree.Acyclic → s.tree.Filed →
    s.Room (n + s.tree.idsToTakeAllDown (s.tree.dependents d)) →
    ∃ removed, removed.Perm (s.tree.dependents d) ∧
      removed.Pairwise (fun x y => ¬ s.tree.BuiltOn y x) ∧
      s.TakesDown removed removed (removed.flatMap s.tree.demolition)
        (s.tree.idsToTakeAllDown (s.tree.dependents d)) n (s.tearDownAbove d) := by
  refine tearDownAbove_induction (motive := fun s answer => s.tree.Acyclic → s.tree.Filed →
    s.Room (n + s.tree.idsToTakeAllDown (s.tree.dependents d)) →
    ∃ removed, removed.Perm (s.tree.dependents d) ∧
      removed.Pairwise (fun x y => ¬ s.tree.BuiltOn y x) ∧
      s.TakesDown removed removed (removed.flatMap s.tree.demolition)
        (s.tree.idsToTakeAllDown (s.tree.dependents d)) n answer) ?_ ?_ ?_ ?_ s
  · intro s hNone _ _ hRoom
    rw [hNone] at hRoom ⊢
    exact ⟨[], .nil, .nil, rfl, .refl _ _, rfl, (UInt64.add_zero _).symm, hRoom⟩
  · intro s hSome hStuck hAcyclic
    obtain ⟨x, hx, hLeaf⟩ := DeviceTree.exists_leaf hAcyclic hSome
    exact absurd (hLeaf.symm.trans (hStuck x hx)) (by decide)
  · intro s leaf hMem hLeaf _ ih hAcyclic hFiled hRoom
    have hFirst := takesDown_of_leaf hFiled hMem hLeaf hRoom
    have hDependents := hFirst.tree.dependents d
    have hOthers : ∀ x ∈ (s.tearDown leaf).2.tree.dependents d, x ∉ [leaf] := fun x hx => by
      rw [hDependents] at hx
      simpa using (List.mem_filter.mp hx).2
    obtain ⟨removed, hPerm, hAfter, hRest⟩ := ih (hFirst.tree.acyclic hAcyclic)
      (hFirst.tree.filed hFiled) (by
        rw [hFirst.tree.idsToTakeAllDown hOthers, hDependents]
        exact hFirst.room)
    have hSteps : removed.flatMap (s.tearDown leaf).2.tree.demolition
        = removed.flatMap s.tree.demolition := by
      refine List.flatMap_congr fun x hx => ?_
      exact hFirst.tree.demolition (hOthers x (hPerm.mem_iff.mp hx))
    rw [hFirst.tree.builtOn] at hAfter
    rw [hSteps, hFirst.tree.idsToTakeAllDown hOthers, hDependents] at hRest
    rw [hFiled.idsToTakeAllDown_dependents hMem]
    refine ⟨leaf :: removed, ?_, List.pairwise_cons.mpr ⟨fun x hx => ?_, hAfter⟩,
      hFirst.trans (appends_tearDownAbove _ d) hRest⟩
    · rw [hDependents] at hPerm
      exact (hPerm.cons leaf).trans (hFiled.perm_dependents hMem)
    · have hPresent := (DeviceTree.mem_dependents.mp (hPerm.mem_iff.mp hx)).1
      rw [hFirst.tree.order] at hPresent
      exact DeviceTree.isLeaf_iff.mp hLeaf x (List.mem_filter.mp hPresent).1
  · intro s leaf hMem hLeaf hRefused hAcyclic hFiled hRoom
    exact absurd (hRefused.symm.trans (takesDown_of_leaf hFiled hMem hLeaf hRoom).ok) (by decide)

theorem takesDown_tearDownStack (includeSelf : Bool) (hAcyclic : s.tree.Acyclic)
    (hFiled : s.tree.Filed) (hPresent : d ∈ s.tree.order)
    (hRoom : s.Room (s.tree.idsToTakeAllDown (s.tree.stack d includeSelf))) :
    ∃ removed, removed.Perm (s.tree.stack d includeSelf) ∧
      removed.Pairwise (fun x y => ¬ s.tree.BuiltOn y x) ∧
      s.TakesDown removed removed (removed.flatMap s.tree.demolition)
        (s.tree.idsToTakeAllDown (s.tree.stack d includeSelf)) 0
        (s.tearDownStack d includeSelf) := by
  cases includeSelf with
  | false =>
    have hStack : s.tree.stack d false = s.tree.dependents d := List.append_nil _
    rw [hStack] at hRoom ⊢
    obtain ⟨removed, hPerm, hAfter, hAbove⟩ :=
      takesDown_tearDownAbove d 0 s hAcyclic hFiled (by rwa [Nat.zero_add])
    refine ⟨removed, hPerm, hAfter, ?_⟩
    unfold tearDownStack
    simpa using hAbove
  | true =>
    have hStack : s.tree.stack d true = s.tree.dependents d ++ [d] := rfl
    have hIds : s.tree.idsToTakeAllDown (s.tree.stack d true)
        = s.tree.idsToTakeAllDown (s.tree.dependents d) + s.tree.idsToTakeDown d := by
      rw [hStack, DeviceTree.idsToTakeAllDown, List.map_append, List.sum_append]
      rfl
    obtain ⟨removed, hPerm, hAfter, hAbove⟩ :=
      takesDown_tearDownAbove d (s.tree.idsToTakeDown d) s hAcyclic hFiled
        (by rwa [Nat.add_comm, ← hIds])
    have hNotMem : d ∉ removed := fun hMem =>
      (DeviceTree.mem_dependents.mp (hPerm.mem_iff.mp hMem)).2.1 rfl
    -- nothing that is still present is built on the device
    have hLeaf : (s.tearDownAbove d).2.tree.isLeaf d = true := by
      rw [DeviceTree.isLeaf_iff, hAbove.tree.builtOn, hAbove.tree.order]
      intro y hy hBuilt
      obtain ⟨hy, hLeft⟩ := List.mem_filter.mp hy
      refine absurd (hPerm.mem_iff.mpr ?_) (of_decide_eq_true hLeft)
      exact (DeviceTree.mem_dependents_of_acyclic hAcyclic).mpr ⟨hy, .single hBuilt⟩
    have hOwn := takesDown_tearDown (n := 0)
      ((hAbove.tree.stored d).trans (hFiled.stored d hPresent))
      ((hAbove.tree.contains d).mpr ⟨(hFiled.inStep.contains_iff d).mpr hPresent, hNotMem⟩) hLeaf
      (by
        rw [hAbove.tree.idsToTakeDown hNotMem, Nat.zero_add]
        exact hAbove.room)
    rw [hAbove.tree.demolition hNotMem, hAbove.tree.idsToTakeDown hNotMem] at hOwn
    have hBoth := hAbove.trans (appends_tearDown _ d) hOwn
    refine ⟨removed ++ [d], hStack ▸ hPerm.append_right [d], ?_, ?_⟩
    · refine List.pairwise_append.mpr ⟨hAfter, List.pairwise_singleton _ _, fun x hx y hy => ?_⟩
      rw [List.mem_singleton.mp hy]
      have hStands := (DeviceTree.mem_dependents.mp (hPerm.mem_iff.mp hx)).2.2
      exact fun hBuilt => hAcyclic d (.head hBuilt hStands)
    · rw [List.flatMap_append, List.flatMap_singleton, hIds]
      unfold tearDownStack
      rw [if_pos ⟨hAbove.ok, rfl⟩]
      exact hBoth

/-- The devices of a stack are taken down one after the other, each by a step of its own after one
for its content, and after every present device that is above it. -/
def TakesInOrder (s : Session) (d : ObjectId) (includeSelf : Bool)
    (above : ObjectId → ObjectId → Prop) (answer : Answer (List ObjectId)) : Prop :=
  ∃ removed, removed.Perm (s.tree.stack d includeSelf) ∧
    answer.1.value.map answer.2.step? = (removed.flatMap s.tree.demolition).map some ∧
    ∀ before x after, removed = before ++ x :: after →
      ∀ y ∈ s.tree.order, above y x → y ∈ before

/-- The stack on a device was taken down, and nothing else. -/
structure Dismantles (s : Session) (d : ObjectId) (includeSelf : Bool)
    (answer : Answer (List ObjectId)) : Prop where
  ok : answer.1.ok = true
  order : answer.2.tree.order = s.tree.order.filter (· ∉ s.tree.stack d includeSelf)
  contains : ∀ x, answer.2.tree.contains x = true ↔
    s.tree.contains x = true ∧ x ∉ s.tree.stack d includeSelf
  device? : ∀ x ∉ s.tree.stack d includeSelf, answer.2.tree.device? x = s.tree.device? x
  format? : ∀ f format, s.tree.format? f = some format → answer.2.tree.format? f = some format
  next : answer.2.tree.ids.next
    = s.tree.ids.next + UInt64.ofNat (s.tree.idsToTakeAllDown (s.tree.stack d includeSelf))
  inOrder : s.TakesInOrder d includeSelf s.tree.RestsOn answer

/-- In a closed tree each device is taken down after all that stands on it. -/
theorem Dismantles.inOrder_of_closed {includeSelf : Bool} {answer : Answer (List ObjectId)}
    (h : s.Dismantles d includeSelf answer) (hClosed : s.tree.Closed) :
    s.TakesInOrder d includeSelf s.tree.StandsOn answer := by
  obtain ⟨removed, hPerm, hSteps, hAbove⟩ := h.inOrder
  refine ⟨removed, hPerm, hSteps, fun before x after hSplit y hy hStands => ?_⟩
  exact hAbove before x after hSplit y hy (hClosed.restsOn hy hStands)

theorem dismantles_removeStack (includeSelf : Bool) (hAcyclic : s.tree.Acyclic)
    (hFiled : s.tree.Filed) (hFresh : s.Fresh)
    (hRoom : s.tree.ids.next.toNat + s.tree.idsToTakeAllDown (s.tree.stack d includeSelf) ≤ 2 ^ 64)
    (hPresent : d ∈ s.tree.order) :
    s.Dismantles d includeSelf (s.removeStack d includeSelf) := by
  obtain ⟨removed, hPerm, hAfter, hDown⟩ := takesDown_tearDownStack includeSelf hAcyclic hFiled
    hPresent fun _ => ⟨hFresh.next_ne_zero, hFresh.lt_next, hRoom⟩
  unfold removeStack
  rw [if_neg (by simpa using (hFiled.inStep.contains_iff d).mpr hPresent)]
  exact {
    ok := hDown.ok
    order := hDown.tree.order.trans (List.filter_congr fun x _ => by simp only [hPerm.mem_iff])
    contains := fun x => (hDown.tree.contains x).trans (by rw [hPerm.mem_iff])
    device? := fun x hx => hDown.tree.device? x fun hMem => hx (hPerm.mem_iff.mp hMem)
    format? := hDown.tree.format?
    next := hDown.next
    inOrder := ⟨removed, hPerm, hDown.steps, fun before x after hSplit y hy hRests =>
      DeviceTree.mem_before_of_restsOn hAcyclic (fun y => hSplit ▸ hPerm.mem_iff)
        (hSplit ▸ hAfter) hy hRests⟩ }

/-! ## Runs -/

/-- **In every run the present devices are stored**, also after direct writes. -/
theorem filed_perform (h : s.tree.Filed) (command : Command) :
    (s.perform command).2.tree.Filed := by
  cases hOverwrites : command.overwrites with
  | true =>
    refine ⟨?_, inStep_perform h.inStep command⟩
    cases command with
    | editDevice device patch =>
      exact fun d hd => (DeviceTree.isSome_modifyDevice _ _ _ _ d).trans (h.stored d hd)
    | editFormat | setNextId => exact h.stored
    | _ => cases hOverwrites
  | false =>
    cases hPut : s.putBack? command with
    | none => exact h.edits (perform_edits hOverwrites hPut)
    | some member =>
      obtain ⟨_, a, _, _, _, hTree⟩ := perform_of_putBack hPut
      rw [hTree]
      exact h.undoConstruction a

theorem filed_performAll (h : s.tree.Filed) (commands : List Command) :
    (s.performAll commands).tree.Filed := by
  induction commands generalizing s with
  | nil => exact h
  | cons command commands ih => exact ih (filed_perform h command)

/-- **Exactly the stack is taken down.**  In every state that calls lead to, direct writes included,
the call appends to the plan what it answers, two actions for each present device and one more at
most, also when it is refused on the way.  When no device is its own ancestor and the ids that are
drawn are new, a present device is dismantled, and in a closed tree each device goes after all that
stands on it. -/
theorem removeStack_dismantles (commands : List Command) (d : ObjectId) (includeSelf : Bool) :
    let s := ({} : Session).performAll commands
    let answer := s.removeStack d includeSelf
    (s.Appends answer.1.value answer.2 ∧ answer.1.value.length ≤ 2 * s.tree.order.length + 1) ∧
    (s.tree.Acyclic → s.Fresh →
      s.tree.ids.next.toNat + s.tree.idsToTakeAllDown (s.tree.stack d includeSelf) ≤ 2 ^ 64 →
      d ∈ s.tree.order → s.Dismantles d includeSelf answer ∧
        (s.tree.Closed → s.TakesInOrder d includeSelf s.tree.StandsOn answer)) := by
  intro s answer
  have hFiled : s.tree.Filed := filed_performAll ⟨fun _ h => absurd h List.not_mem_nil,
    DeviceTree.inStep_empty⟩ commands
  refine ⟨⟨appends_removeStack s d includeSelf, removeStack_value hFiled.inStep d includeSelf⟩, ?_⟩
  intro hAcyclic hFresh hRoom hPresent
  have hDone := dismantles_removeStack includeSelf hAcyclic hFiled hFresh hRoom hPresent
  exact ⟨hDone, hDone.inOrder_of_closed⟩

/-- A physical volume is dismantled together with the group on it and the volume of the group; the
partition beside it stays. -/
theorem removeStack_dismantles_group :
    let commands : List Command := [
      .adoptDevice { name := "sda", kind := .disk, size := gibibytes 100 } "disklabel" "",
      .adoptDevice { name := "sda1", kind := .partition, size := gibibytes 10, parents := [2] }
        "ext4" "/boot",
      .adoptDevice { name := "sda2", kind := .partition, size := gibibytes 80, parents := [2] }
        "lvmpv" "",
      .adoptDevice { name := "vg", kind := .volumeGroup, parents := [8] } "" "",
      .adoptDevice { name := "root", kind := .logicalVolume, size := gibibytes 20, parents := [11] }
        "xfs" "/"]
    let s := ({} : Session).performAll commands
    let answer := s.removeStack 8 true
    (s.tree.Acyclic ∧ s.Fresh ∧
      s.tree.ids.next.toNat + s.tree.idsToTakeAllDown (s.tree.stack 8 true) ≤ 2 ^ 64 ∧
      8 ∈ s.tree.order ∧ s.tree.Closed) ∧
    s.Dismantles 8 true answer ∧ s.TakesInOrder 8 true s.tree.StandsOn answer ∧
    answer.1.value.map answer.2.step? = [
      some (.destroyFormat, 13), some (.destroyDevice, 13), some (.destroyDevice, 11),
      some (.destroyFormat, 8), some (.destroyDevice, 8)] := by
  intro commands s answer
  have hAcyclic : s.tree.Acyclic := by decide +kernel
  have hFresh : s.Fresh := by decide +kernel
  have hRoom : s.tree.ids.next.toNat + s.tree.idsToTakeAllDown (s.tree.stack 8 true) ≤ 2 ^ 64 := by
    decide +kernel
  have hPresent : 8 ∈ s.tree.order := by decide +kernel
  have hClosed : s.tree.Closed := by decide +kernel
  obtain ⟨hDone, hInOrder⟩ :=
    (removeStack_dismantles commands 8 true).2 hAcyclic hFresh hRoom hPresent
  exact ⟨⟨hAcyclic, hFresh, hRoom, hPresent, hClosed⟩, hDone, hInOrder hClosed, by decide +kernel⟩

/-- A volume depends on a partition through a group that was forced out of the tree.  The partition
counts as a leaf then, and as it was put back after the volume it goes first. -/
theorem removeStack_before_dependent_of_absent_group :
    let commands : List Command := [
      .adoptDevice { name := "sda", kind := .disk, size := gibibytes 100 } "" "",
      .adoptDevice { name := "sda1", kind := .partition, size := gibibytes 80, parents := [2] }
        "" "",
      .adoptDevice { name := "vg", kind := .volumeGroup, parents := [4] } "" "",
      .adoptDevice { name := "root", kind := .logicalVolume, size := gibibytes 20, parents := [6] }
        "" "",
      .removeDevice 6 true, .removeDevice 4 false, .addDevice 4]
    let s := ({} : Session).performAll commands
    let answer := s.removeStack 2 false
    (s.tree.Acyclic ∧ s.Fresh ∧
      s.tree.ids.next.toNat + s.tree.idsToTakeAllDown (s.tree.stack 2 false) ≤ 2 ^ 64 ∧
      2 ∈ s.tree.order) ∧
    answer.1.value.map answer.2.step? = [some (.destroyDevice, 4), some (.destroyDevice, 8)] ∧
    8 ∈ s.tree.dependents 4 ∧ ¬ s.TakesInOrder 2 false s.tree.StandsOn answer := by
  intro commands s answer
  have hSteps : answer.1.value.map answer.2.step?
      = [some (.destroyDevice, 4), some (.destroyDevice, 8)] := by decide +kernel
  have hDependent : 8 ∈ s.tree.dependents 4 := by decide +kernel
  refine ⟨by decide +kernel, hSteps, hDependent, ?_⟩
  rintro ⟨removed, hPerm, hRemoved, hAbove⟩
  have hStack : s.tree.stack 2 false = [8, 4] := by decide +kernel
  rw [hStack] at hPerm
  obtain ⟨first, second, rfl⟩ := List.length_eq_two.mp hPerm.length_eq
  have hFirst : first = 8 ∨ first = 4 := by simpa using hPerm.mem_iff.mp List.mem_cons_self
  rcases hFirst with rfl | rfl
  · have hDevice : s.tree.demolition 8 = [(.destroyDevice, 8)] := by decide +kernel
    rw [hSteps, List.flatMap_cons, hDevice] at hRemoved
    cases hRemoved
  · obtain ⟨hPresent, _, hStands⟩ := DeviceTree.mem_dependents.mp hDependent
    exact absurd (hAbove [] 4 [second] rfl 8 hPresent hStands) List.not_mem_nil

end Session

end StoragePlan

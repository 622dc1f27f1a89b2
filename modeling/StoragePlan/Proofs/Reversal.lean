import StoragePlan.Proofs.Closure

/-!
# Withdrawing in reverse order restores the start

Proposals are scheduled in turn, some of them refused, and then the scheduled actions are withdrawn,
the newest first.  Each withdrawal meets the session as its own scheduling left it, so nothing
stands in its way and it takes back all that the scheduling changed (`Restores`).

* `DeviceTree.undoRegistration_of_applied`: on a closed and linked tree **a registration can be
  taken back**.
* `Session.Restores.cancel`: so a scheduled action is withdrawn and leaves no trace.
* `Session.cancelAll_scheduleAll`: and likewise any number of them **in reverse order**.
-/

namespace StoragePlan

namespace DeviceTree

variable {t t' t'' : DeviceTree} {a b : Action} {id : ObjectId}

/-! ## Taking back a registration -/

theorem add_eq_ok {device : Device} (hDevice : t.device? id = some device)
    (hAbsent : t.contains id = false) (hParents : ∀ p ∈ device.parents, t.contains p = true)
    (hName : t.named? device.name = none) :
    t.add id
      = .ok { t with order := t.order ++ [id], presence := t.presence.insert id } := by
  have hAll : device.parents.all t.contains = true := List.all_eq_true.mpr hParents
  simp [add, hDevice, hAbsent, hAll, hName]

theorem remove_eq_ok (hPresent : t.contains id = true) (hLeaf : ∀ d ∈ t.order, id ∉ t.parentsOf d) :
    t.remove id
      = .ok { t with order := t.order.filter (· ≠ id), presence := t.presence.erase id } := by
  have hIsLeaf : t.isLeaf id = true := by simpa [isLeaf, children] using hLeaf
  simp [remove, hPresent, hIsLeaf]

theorem undoRegistration_of_kind (hCreate : a.kind ≠ .createDevice)
    (hDestroy : a.kind ≠ .destroyDevice) : t.undoRegistration a = .ok (t, {}) := by
  unfold Action.kind at hCreate hDestroy
  unfold undoRegistration
  cases hOp : a.operation <;> rw [hOp] at hCreate hDestroy <;>
    first | rfl | exact absurd rfl hCreate | exact absurd rfl hDestroy

theorem undoRegistration_createDevice (h : a.kind = .createDevice) :
    t.undoRegistration a
      = (t.remove a.device).map fun t => (t, { deleted := [a.device] }) := by
  simp only [undoRegistration, Action.operation_of_createDevice h]

theorem undoRegistration_destroyDevice (h : a.kind = .destroyDevice) :
    t.undoRegistration a
      = (t.add a.device).map fun t => (t, { created := [a.device] }) := by
  simp only [undoRegistration, Action.operation_of_destroyDevice h]

/-- A device that entered a closed tree is a leaf, so it can leave again. -/
theorem remove_of_add (hClosed : t.Closed) (hInStep : t.InStep) (hAdd : t.add id = .ok t')
    (hSame : t'.SameState t'') : ∃ t₃, t''.remove id = .ok t₃ ∧ t.SameState t₃ := by
  obtain ⟨_, hAbsent, hPresent, rfl⟩ := add_ok hAdd
  have hPresence : t''.presence = t.presence.insert id := hSame.presence
  have hNew : id ∉ t.order := (hInStep.contains_eq_false_iff id).mp hAbsent
  have hOrder : ∀ d, d ∈ t''.order ↔ d ∈ t.order ∨ d = id := by
    intro d
    rw [hSame.present, List.mem_append, List.mem_singleton]
  have hParents : ∀ d, t''.parentsOf d = t.parentsOf d := hSame.parentsOf
  have hLeaf : ∀ d ∈ t''.order, id ∉ t''.parentsOf d := by
    intro d hd hid
    rw [hParents] at hid
    rcases (hOrder d).mp hd with hd | rfl
    · exact hNew (hClosed d hd id hid)
    · exact Bool.false_ne_true (hAbsent.symm.trans (hPresent d hid))
  have hThere : t''.contains id = true := by simp [contains, hPresence]
  refine ⟨_, remove_eq_ok hThere hLeaf, hSame.devices, fun d => ?_, ?_, hSame.formats⟩
  · rw [List.mem_filter, hOrder, decide_eq_true_eq]
    constructor
    · exact fun h => h.1.resolve_right h.2
    · exact fun hd => ⟨Or.inl hd, fun hid => hNew (hid ▸ hd)⟩
  · rw [hPresence]
    exact IdSet.erase_insert hAbsent

/-- A device that left a closed tree finds its parents and its name as they were, so it can enter
again. -/
theorem add_of_remove (hClosed : t.Closed) (hLinked : t.Linked) (hRemove : t.remove id = .ok t')
    (hSame : t'.SameState t'') : ∃ t₃, t''.add id = .ok t₃ ∧ t.SameState t₃ := by
  obtain ⟨hThere, hLeaf, rfl⟩ := remove_ok hRemove
  have hPresent : id ∈ t.order := (hLinked.inStep.contains_iff id).mp hThere
  obtain ⟨device, hDevice⟩ := Option.isSome_iff_exists.mp (hLinked.stored id hPresent)
  have hPresence : t''.presence = t.presence.erase id := hSame.presence
  have hContains : ∀ d, t''.contains d = (d != id && t.contains d) := by
    intro d
    rw [contains, hPresence]
    exact t.presence.contains_erase id d
  have hOrder : ∀ d, d ∈ t''.order ↔ d ∈ t.order ∧ d ≠ id := by
    intro d
    rw [hSame.present, List.mem_filter, decide_eq_true_eq]
  have hStored : ∀ d, t''.device? d = t.device? d := hSame.device?
  have hParents : ∀ p ∈ device.parents, t''.contains p = true := by
    intro p hp
    rw [← parentsOf_eq hDevice] at hp
    rw [hContains, Bool.and_eq_true, bne_iff_ne]
    refine ⟨?_, (hLinked.inStep.contains_iff p).mpr (hClosed id hPresent p hp)⟩
    rintro rfl
    exact hLeaf p hPresent hp
  have hName : t''.named? device.name = none := by
    refine named?_eq_none_iff.mpr fun d hd stored hStored' hName => ?_
    obtain ⟨hd, hne⟩ := (hOrder d).mp hd
    rw [hStored] at hStored'
    refine hne (hLinked.names d hd id hPresent ?_)
    rw [nameOf, nameOf, hStored', hDevice, Option.map_some, Option.map_some, hName]
  have hAbsent : t''.contains id = false := by simp [hContains]
  refine ⟨_, add_eq_ok ((hStored id).trans hDevice) hAbsent hParents hName, hSame.devices,
    fun d => ?_, ?_, hSame.formats⟩
  · rw [List.mem_append, List.mem_singleton, hOrder]
    constructor
    · rintro (⟨hd, _⟩ | rfl)
      · exact hd
      · exact hPresent
    · intro hd
      by_cases hid : d = id
      · exact Or.inr hid
      · exact Or.inl ⟨hd, hid⟩
  · rw [hPresence]
    exact IdSet.insert_erase hThere

/-- **A registration can be taken back** from every tree in the same state. -/
theorem undoRegistration_of_applied (hClosed : a.kind = .createDevice ∨ a.kind = .destroyDevice →
      t.Closed ∧ t.Linked) {changes : Changes} (hApply : t.applyRegistration a = .ok (t', changes))
    (hSame : t'.SameState t'') (hDevice : b.device = a.device) (hKind : b.kind = a.kind) :
    ∃ t₃ undone, t''.undoRegistration b = .ok (t₃, undone) ∧ t.SameState t₃ := by
  rcases applyRegistration_ok hApply with ⟨hCreate, hAdd⟩ | ⟨hDestroy, hRemove⟩ |
    ⟨hCreate, hDestroy, rfl⟩
  · obtain ⟨hClosed, hLinked⟩ := hClosed (Or.inl hCreate)
    obtain ⟨t₃, hRemove, hState⟩ := remove_of_add hClosed hLinked.inStep hAdd hSame
    refine ⟨t₃, { deleted := [a.device] }, ?_, hState⟩
    rw [undoRegistration_createDevice (hKind.trans hCreate), hDevice, hRemove]
    rfl
  · obtain ⟨hClosed, hLinked⟩ := hClosed (Or.inr hDestroy)
    obtain ⟨t₃, hAdd, hState⟩ := add_of_remove hClosed hLinked hRemove hSame
    refine ⟨t₃, { created := [a.device] }, ?_, hState⟩
    rw [undoRegistration_destroyDevice (hKind.trans hDestroy), hDevice, hAdd]
    rfl
  · exact ⟨t'', _, undoRegistration_of_kind (hKind ▸ hCreate) (hKind ▸ hDestroy), hSame⟩

end DeviceTree

namespace Session

variable {s s' s'' : Session} {p : Preparation} {n : Nat}

/-- Schedule proposals in turn.  The value lists the actions of those that succeed. -/
def scheduleAll (s : Session) : List Proposal → List ObjectId × Session
  | [] => ([], s)
  | p :: rest =>
    let first := s.schedule p
    let others := first.2.scheduleAll rest
    (if first.1.ok then first.1.value :: others.1 else others.1, others.2)

/-- Withdraw actions in turn, and tell whether every withdrawal succeeds. -/
def cancelAll (s : Session) : List ObjectId → Bool × Session
  | [] => (true, s)
  | id :: rest =>
    let first := s.cancel id
    let others := first.2.cancelAll rest
    (first.1.ok && others.1, others.2)

/-- The tree is in the same state again, the registry is the same, and the actions of `s` are as
they were. -/
structure Restores (s s' : Session) : Prop where
  tree : s.tree.SameState s'.tree
  registry : s'.registry = s.registry
  actions : ∀ id a, s.action? id = some a → s'.action? id = some a

theorem Restores.refl (s : Session) : s.Restores s := ⟨.refl _, rfl, fun _ _ h => h⟩

theorem Restores.trans (h : s.Restores s') (h' : s'.Restores s'') : s.Restores s'' :=
  ⟨h.tree.trans h'.tree, h'.registry.trans h.registry,
    fun id a ha => h'.actions id a (h.actions id a ha)⟩

theorem Same.restores (h : s.Same s') : s.Restores s' :=
  ⟨h.tree ▸ .refl _, h.registry, fun id _ ha => (h.action? id).trans ha⟩

/-! ## One action -/

/-- An action whose registration was refused leaves no trace. -/
theorem restores_of_takenBack {actions : Arena Action} (hPrepares : s.tree.Prepares p)
    (hInsert : s.actions.insert? (s.actionOf p) = some actions)
    (hSame : ({ s with
      tree := ((s.carryOut p).tree.undoConstruction (s.actionOf p)).1, actions }.setState
        (s.actionOf p).id .cancelled).Same s') : s.Restores s' := by
  refine ⟨?_, hSame.registry, fun id b hb => ?_⟩
  · rw [hSame.tree]
    exact undo_carryOut hPrepares
  · rw [hSame.action?]
    exact action?_of_new hInsert rfl .cancelled hb

/-- **A scheduled action can be withdrawn, and leaves no trace**, as soon as all that came after it
is taken back. -/
theorem Restores.cancel (hBack : s'.Restores s'') (hLinked : s.Linked) (hListed : s.Listed)
    (hClosed : s.tree.Closed) {actions : Arena Action} {t : DeviceTree} {changes : Changes}
    (hPrepares : s.tree.Prepares p) (hInsert : s.actions.insert? (s.actionOf p) = some actions)
    (hApply : (s.carryOut p).tree.applyRegistration (s.actionOf p) = .ok (t, changes))
    (hSame : ({ s with tree := t, actions, registry := s.registry ++ [(s.actionOf p).id] }.setState
      (s.actionOf p).id .registered).Same s') :
    (s''.cancel (s.actionOf p).id).1.ok = true ∧
      s.Restores (s''.cancel (s.actionOf p).id).2 := by
  obtain ⟨a, hEq⟩ : ∃ a, s.actionOf p = a := ⟨_, rfl⟩
  have hDevice : a.device = p.device := hEq ▸ rfl
  have hOp : a.operation = p.operation := hEq ▸ rfl
  rw [hEq] at hInsert hApply hSame ⊢
  have ha : s''.action? a.id = some { a with state := .registered } :=
    hBack.actions a.id _ ((hSame.action? a.id).trans (action?_self_of_new hInsert rfl .registered))
  have hTree : t.SameState s''.tree := by
    have hAfter := hBack.tree
    rwa [hSame.tree] at hAfter
  -- the tree did not change before the device was moved
  have hStart : a.kind = .createDevice ∨ a.kind = .destroyDevice →
      (s.carryOut p).tree.Closed ∧ (s.carryOut p).tree.Linked := by
    intro hKind
    have hTreeEq : (s.carryOut p).tree = { s.tree with ids := p.tree.ids.take.2 } := by
      unfold Action.kind at hKind
      rw [hOp] at hKind
      show { p.tree with ids := p.tree.ids.take.2 } = _
      rw [hPrepares.tree_eq hKind]
    rw [hTreeEq]
    exact ⟨hClosed, hLinked.tree.of_keepsNames (fun d device hd => ⟨device, hd, rfl⟩) ⟨rfl, rfl⟩
      fun d p hp => Or.inl hp⟩
  obtain ⟨t₃, undone, hUndo, hState⟩ := DeviceTree.undoRegistration_of_applied
    (b := { a with state := .registered }) hStart hApply hTree rfl rfl
  obtain ⟨hOk, hAfter⟩ := cancel_of_registered ha rfl hUndo
  refine ⟨hOk, ?_, ?_, fun id b hb => ?_⟩
  · rw [hAfter.tree]
    have hPrepared : p.tree.SameState t₃ := 
      ⟨hState.devices, hState.present, hState.presence, hState.formats⟩
    exact hPrepares.undone hPrepared hDevice hOp
  · have hKept : s.registry.filter (· ≠ a.id) = s.registry := by
      refine List.filter_eq_self.mpr fun id hid => ?_
      obtain ⟨b, hb, _⟩ := (hListed.mem_iff id).mp hid
      rw [decide_eq_true_eq]
      exact ne_of_new hInsert hb
    have hRegistry : s''.registry = s.registry ++ [a.id] := hBack.registry.trans hSame.registry
    rw [hAfter.registry]
    show s''.registry.filter (· ≠ a.id) = s.registry
    rw [hRegistry, List.filter_append, hKept]
    simp
  · rw [hAfter.action?, action?_withdrawn s'' _ (ne_of_new hInsert hb)]
    exact hBack.actions id b
      ((hSame.action? id).trans (action?_of_new hInsert rfl .registered hb))

/-! ## Any number of actions -/

theorem Numbered.schedule (h : s.Numbered n) (p : Proposal) : (s.schedule p).2.Numbered n :=
  (numbered_kept n).schedule s p h

theorem Numbered.scheduleAll (h : s.Numbered n) (proposals : List Proposal) :
    (s.scheduleAll proposals).2.Numbered n := by
  induction proposals generalizing s with
  | nil => exact h
  | cons p rest ih => exact ih (h.schedule p)

theorem cancelAll_append (s : Session) (ids : List ObjectId) (id : ObjectId) :
    s.cancelAll (ids ++ [id])
      = ((s.cancelAll ids).1 && ((s.cancelAll ids).2.cancel id).1.ok,
        ((s.cancelAll ids).2.cancel id).2) := by
  induction ids generalizing s with
  | nil => simp [cancelAll]
  | cons other ids ih => simp [cancelAll, ih, Bool.and_assoc]

theorem restores_of_cancelAll (hLinked : s.Linked) (hListed : s.Listed) (hNumbered : s.Numbered n)
    (hClosed : s.tree.Closed) (proposals : List Proposal)
    (hFew : (s.scheduleAll proposals).2.storedIds.length < 2 ^ 64 - 1) :
    ((s.scheduleAll proposals).2.cancelAll (s.scheduleAll proposals).1.reverse).1 = true ∧
      s.Restores ((s.scheduleAll proposals).2.cancelAll (s.scheduleAll proposals).1.reverse).2 := by
  induction proposals generalizing s with
  | nil => exact ⟨rfl, Restores.refl s⟩
  | cons p rest ih =>
    have hAfter := hNumbered.schedule p
    have hFirst : (s.schedule p).2.storedIds.length < 2 ^ 64 - 1 :=
      ((hAfter.of_le (le_refl _)).scheduleAll rest).le.trans_lt hFew
    obtain ⟨hOthers, hRest⟩ := ih (linked_kept.schedule s p hLinked) (hListed.schedule p) hAfter
      (closed_schedule hNumbered hLinked.tree.inStep hClosed hFirst) hFew
    unfold Session.scheduleAll
    dsimp only
    cases scheduled s p with
    | refused hOk hSame =>
      rw [hOk]
      exact ⟨hOthers, hSame.restores.trans hRest⟩
    | dropped preparation hPrepares hTaken hOk hSame =>
      rw [storedIds, hSame.tree, hSame.actions] at hFirst
      exact absurd hTaken (hNumbered.stores hPrepares hFirst)
    | takenBack preparation actions cause hPrepares hInsert hApply hOk hSame =>
      rw [hOk]
      exact ⟨hOthers, (restores_of_takenBack hPrepares hInsert hSame).trans hRest⟩
    | registered preparation actions t changes hPrepares hInsert hApply hOk hValue hSame =>
      rw [hOk, if_pos rfl, hValue, List.reverse_cons, cancelAll_append, hOthers, Bool.true_and]
      exact hRest.cancel hLinked hListed hClosed hPrepares hInsert hApply hSame

/-- **Withdrawing what was scheduled in reverse order restores the start.**  From every session that
commands lead to without overwriting anything, and whose tree is closed under parents, each
withdrawal succeeds; afterwards the registry is the old one, the same devices are stored and
present, each as it was, and so is every format. -/
theorem cancelAll_scheduleAll (commands : List Command) (proposals : List Proposal)
    (hOverwrites : ∀ command ∈ commands, command.overwrites = false) :
    let s := ({} : Session).performAll commands
    let planned := (s.scheduleAll proposals).2
    let back := planned.cancelAll (s.scheduleAll proposals).1.reverse
    s.tree.Closed → planned.storedIds.length < 2 ^ 64 - 1 →
      back.1 = true ∧ back.2.registry = s.registry ∧ back.2.tree.devices = s.tree.devices ∧
        (∀ d, d ∈ back.2.tree.order ↔ d ∈ s.tree.order) ∧
        back.2.tree.presence = s.tree.presence ∧
        ∀ f format, s.tree.format? f = some format → back.2.tree.format? f = some format := by
  intro s planned back hClosed hFew
  have hLinked : s.Linked := linked_empty.performAll hOverwrites
  have hListed : s.Listed := listed_empty.performAll commands
  have hNumbered : s.Numbered 0 := numbered_empty.performAll hOverwrites
  obtain ⟨hOk, hRestores⟩ := restores_of_cancelAll hLinked hListed hNumbered hClosed proposals hFew
  exact ⟨hOk, hRestores.registry, hRestores.tree.devices, hRestores.tree.present,
    hRestores.tree.presence, hRestores.tree.formats⟩

/-- One action of each kind, and one that is refused, around a volume group that changes its only
member. -/
theorem cancelAll_scheduleAll_of_exchanged_member :
    let commands : List Command := [
      .adoptDevice { name := "sda", kind := .disk, size := gibibytes 100 } "" "",
      .adoptDevice { name := "sda1", kind := .partition, size := gibibytes 10, parents := [2] }
        "ext4" "/",
      .adoptDevice { name := "sda2", kind := .partition, size := gibibytes 10, parents := [2] }
        "lvmpv" "",
      .adoptDevice { name := "vg", kind := .volumeGroup, parents := [7] } "" "",
      .newDevice { name := "sda3", kind := .partition, size := gibibytes 10, parents := [2] },
      .newFormat "xfs" "/" false]
    let proposals : List Proposal := [.resizeFormat 4 (gibibytes 4), .createFormat 4 13,
      .destroyFormat 4, .resizeDevice 4 (gibibytes 5), .removeMember 10 7, .destroyDevice 7,
      .createDevice 12, .addMember 10 12, .destroyDevice 2]
    let s := ({} : Session).performAll commands
    let planned := (s.scheduleAll proposals).2
    let back := planned.cancelAll (s.scheduleAll proposals).1.reverse
    ((∀ command ∈ commands, command.overwrites = false) ∧ s.tree.Closed ∧
      planned.storedIds.length < 2 ^ 64 - 1 ∧
      (s.scheduleAll proposals).1 = [14, 15, 17, 18, 19, 20, 21, 22] ∧
      planned.tree.order = [2, 4, 10, 12] ∧ planned.tree.parentsOf 10 = [12]) ∧
    back.1 = true ∧ back.2.registry = s.registry ∧ back.2.tree.devices = s.tree.devices ∧
      (∀ d, d ∈ back.2.tree.order ↔ d ∈ s.tree.order) ∧
      back.2.tree.presence = s.tree.presence ∧
      ∀ f format, s.tree.format? f = some format → back.2.tree.format? f = some format := by
  intro commands proposals
  have hOverwrites : ∀ command ∈ commands, command.overwrites = false := by decide
  have hBack := cancelAll_scheduleAll commands proposals hOverwrites
  exact ⟨⟨hOverwrites, by decide +kernel, by decide +kernel, by decide +kernel⟩,
    hBack (by decide +kernel) (by decide +kernel)⟩

end Session

end StoragePlan

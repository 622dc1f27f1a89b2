import StoragePlan.Proofs.Phases
import StoragePlan.Proofs.Pruning

/-!
# Carrying out the plan

An executor goes through the sorted plan and creates and destroys devices one by one.  It can create
a device that is absent once all its parents are present, and destroy a device that is present once
nothing present is built on it (`DeviceTree.carryOut`, `Session.execute`).

* `Settled.execute_from`: from what was populated on, every prefix of the sorted plan can be carried
  out, and what is present then is what was populated without what the prefix destroys and with what
  it creates.
* `execute_prune_sort`: **after pruning, the sorted plan can be carried out, and it leads to the
  tree of the session**.
-/

namespace StoragePlan

/-- What is present once an action is carried out; `none` when it cannot be. -/
def DeviceTree.carryOut (t : DeviceTree) (present : Finset ObjectId) (a : Action) :
    Option (Finset ObjectId) :=
  match a.kind with
  | .createDevice =>
    if a.device ∉ present ∧ (t.parentsOf a.device).toFinset ⊆ present then
      some (insert a.device present)
    else none
  | .destroyDevice =>
    if a.device ∈ present ∧ present.filter (fun d => a.device ∈ t.parentsOf d) = ∅ then
      some (present.erase a.device)
    else none
  | _ => some present

namespace Session

/-- What is present once a list of actions is carried out in turn; `none` when one of them is
unknown or cannot be carried out. -/
def execute (s : Session) (present : Finset ObjectId) : List ObjectId → Option (Finset ObjectId)
  | [] => some present
  | id :: rest =>
    (s.action? id).bind fun a => (s.tree.carryOut present a).bind fun after => s.execute after rest

/-- The populated devices without what some actions destroy and with what they create. -/
def presentAfter (s : Session) (populated : Finset ObjectId) (ids : List ObjectId) :
    Finset ObjectId :=
  populated \ (ids.filterMap (s.deviceOf? .destroyDevice)).toFinset
    ∪ (ids.filterMap (s.deviceOf? .createDevice)).toFinset

variable {s : Session} {populated : List ObjectId} {start : Finset ObjectId}
  {l₁ l₂ ids : List ObjectId} {id d : ObjectId} {a : Action}

/-! ## What is present in between -/

theorem mem_presentAfter : d ∈ s.presentAfter start ids ↔
    (d ∈ start ∧ ∀ id ∈ ids, s.deviceOf? .destroyDevice id ≠ some d) ∨
    ∃ id ∈ ids, s.deviceOf? .createDevice id = some d := by
  unfold presentAfter
  rw [Finset.mem_union, Finset.mem_sdiff, List.mem_toFinset, List.mem_toFinset, List.mem_filterMap,
    List.mem_filterMap]
  simp only [not_exists, not_and]

theorem presentAfter_nil : s.presentAfter start [] = start := by
  simp [presentAfter]

theorem presentAfter_create (ha : s.action? id = some a) (hKind : a.kind = .createDevice) :
    s.presentAfter start (ids ++ [id]) = insert a.device (s.presentAfter start ids) := by
  unfold presentAfter
  simp [deviceOf?_of ha, hKind]

theorem presentAfter_destroy (ha : s.action? id = some a) (hKind : a.kind = .destroyDevice)
    (hNew : ∀ other ∈ ids, s.deviceOf? .createDevice other ≠ some a.device) :
    s.presentAfter start (ids ++ [id]) = (s.presentAfter start ids).erase a.device := by
  have hid : ∀ kind, s.deviceOf? kind id = if a.kind = kind then some a.device else none :=
    deviceOf?_of ha
  ext d
  rw [Finset.mem_erase, mem_presentAfter, mem_presentAfter]
  simp only [List.mem_append, List.mem_singleton, or_imp, forall_and, forall_eq, or_and_right,
    exists_or, exists_eq_left, hid, hKind, if_true, reduceCtorEq, if_false, or_false, ne_eq,
    Option.some_inj]
  constructor
  · rintro (⟨hStart, hOld, hne⟩ | ⟨other, hOther, hDevice⟩)
    · exact ⟨fun h => hne h.symm, Or.inl ⟨hStart, hOld⟩⟩
    · refine ⟨?_, Or.inr ⟨other, hOther, hDevice⟩⟩
      rintro rfl
      exact hNew other hOther hDevice
  · rintro ⟨hne, ⟨hStart, hOld⟩ | hCreated⟩
    · exact Or.inl ⟨hStart, hOld, fun h => hne h.symm⟩
    · exact Or.inr hCreated

theorem presentAfter_other (ha : s.action? id = some a) (hCreate : a.kind ≠ .createDevice)
    (hDestroy : a.kind ≠ .destroyDevice) :
    s.presentAfter start (ids ++ [id]) = s.presentAfter start ids := by
  unfold presentAfter
  simp [deviceOf?_of ha, hCreate, hDestroy]

/-! ## What the order of the plan tells -/

theorem requires_of_byKind {i j : ObjectId} {a b : Action} (ha : s.action? i = some a)
    (hb : s.action? j = some b) (hij : i ≠ j) (h : s.tree.requiresByKind a b = true) :
    s.requires i j = true := by
  have hId : a.id ≠ b.id := by
    rw [id_of_action? ha, id_of_action? hb]
    exact hij
  unfold requires
  rw [ha, hb]
  simp [DeviceTree.requires, hId, h]

theorem dependsOn_of_builtOn {t : DeviceTree} (ht : t.Acyclic) {d p : ObjectId}
    (h : p ∈ t.parentsOf d) : t.dependsOn d p = true := by
  refine DeviceTree.dependsOn_iff.mpr ⟨?_, .single h⟩
  rintro rfl
  exact ht d (.single h)

theorem Settled.sort_ok (h : Settled populated s) : s.sort.1.ok = true := by
  refine ok_sort_of_wellFormed h.sound.acyclic h.sound.oneDisk fun a ha container hOp => ?_
  have hMember := h.noMembership a.id a (mem_plan_iff.mp ha).2
  rw [Action.container?, hOp] at hMember
  cases hMember

section

variable (h : Settled populated s) (hValue : s.sort.1.value = l₁ ++ id :: l₂)

include h hValue

theorem Settled.registered {other : ObjectId} (hOther : other ∈ l₁ ∨ other = id) :
    other ∈ s.registry := by
  refine (sort_perm h.listed h.sort_ok).mem_iff.mp ?_
  rw [hValue]
  rcases hOther with hOther | rfl
  · exact List.mem_append_left _ hOther
  · exact List.mem_append_right _ List.mem_cons_self

theorem Settled.not_mem_before : id ∉ l₁ := by
  have hNodup := (sort_perm h.listed h.sort_ok).nodup_iff.mpr h.listed.nodup
  rw [hValue] at hNodup
  intro hid
  exact (List.nodup_append.mp hNodup).2.2 id hid id List.mem_cons_self rfl

/-- No earlier action is about the device of a creation or of a destruction in the same way. -/
theorem Settled.deviceOf?_before {kind : ActionKind} (hOnce : (s.devicesOf kind).Nodup)
    (hid : s.deviceOf? kind id = some d) {other : ObjectId} (hOther : other ∈ l₁) :
    s.deviceOf? kind other ≠ some d := by
  intro hSame
  have hEq := eq_of_deviceOf? (List.nodup_iff_count_le_one.mp hOnce d)
    (h.registered hValue (Or.inl hOther)) (h.registered hValue (Or.inr rfl)) hSame hid
  exact h.not_mem_before hValue (hEq ▸ hOther)

/-- What a placed action requires was placed before it. -/
theorem Settled.mem_before {other : ObjectId} {b : Action} (ha : s.action? id = some a)
    (hb : s.action? other = some b) (hOther : other ∈ s.registry) (hne : id ≠ other)
    (hReq : s.tree.requiresByKind a b = true) : other ∈ l₁ :=
  mem_of_requires h.listed h.sort_ok hValue hOther (requires_of_byKind ha hb hne hReq)

/-! ## Every action can be carried out in its turn -/

/-- A device to be created is absent and its parents are present. -/
theorem Settled.carryOut_create (ha : s.action? id = some a) (hKind : a.kind = .createDevice) :
    s.tree.carryOut (s.presentAfter populated.toFinset l₁) a
      = some (s.presentAfter populated.toFinset (l₁ ++ [id])) := by
  have hid : s.deviceOf? .createDevice id = some a.device :=
    deviceOf?_eq_some.mpr ⟨a, ha, hKind, rfl⟩
  have hCreated : a.device ∈ s.devicesOf .createDevice :=
    mem_devicesOf.mpr ⟨id, h.registered hValue (Or.inr rfl), hid⟩
  have hAbsent : a.device ∉ s.presentAfter populated.toFinset l₁ := by
    rw [mem_presentAfter, List.mem_toFinset]
    rintro (⟨hThere, _⟩ | ⟨other, hOther, hDevice⟩)
    · exact h.created_absent _ hCreated hThere
    · exact h.deviceOf?_before hValue h.created_nodup hid hOther hDevice
  have hParents : ∀ p ∈ s.tree.parentsOf a.device, p ∈ s.presentAfter populated.toFinset l₁ := by
    intro p hp
    have hDepends := dependsOn_of_builtOn h.sound.acyclic hp
    have hPresent := h.sound.closed a.device ((h.mem_order _).mpr (Or.inr hCreated)) p hp
    rw [mem_presentAfter, List.mem_toFinset]
    rcases (h.mem_order p).mp hPresent with ⟨hThere, hStays⟩ | hNew
    · refine Or.inl ⟨hThere, fun other hOther hDevice => hStays ?_⟩
      exact mem_devicesOf.mpr ⟨other, h.registered hValue (Or.inl hOther), hDevice⟩
    · obtain ⟨other, hOther, hDevice⟩ := mem_devicesOf.mp hNew
      obtain ⟨b, hb, hKind', rfl⟩ := deviceOf?_eq_some.mp hDevice
      refine Or.inr ⟨other, h.mem_before hValue ha hb hOther ?_ ?_, hDevice⟩
      · rintro rfl
        rw [ha, Option.some_inj] at hb
        exact (DeviceTree.dependsOn_iff.mp hDepends).1 (congrArg Action.device hb)
      · simp [DeviceTree.requiresByKind, hKind, hKind', hDepends]
  rw [presentAfter_create ha hKind, DeviceTree.carryOut, hKind]
  exact if_pos ⟨hAbsent, fun p hp => hParents p (List.mem_toFinset.mp hp)⟩

/-- A device to be destroyed is present and nothing present is built on it. -/
theorem Settled.carryOut_destroy (ha : s.action? id = some a) (hKind : a.kind = .destroyDevice) :
    s.tree.carryOut (s.presentAfter populated.toFinset l₁) a
      = some (s.presentAfter populated.toFinset (l₁ ++ [id])) := by
  have hid : s.deviceOf? .destroyDevice id = some a.device :=
    deviceOf?_eq_some.mpr ⟨a, ha, hKind, rfl⟩
  have hRegistered := h.registered hValue (Or.inr rfl)
  have hDestroyed : a.device ∈ s.devicesOf .destroyDevice :=
    mem_devicesOf.mpr ⟨id, hRegistered, hid⟩
  have hThere := h.destroyed_there _ hDestroyed
  have hPresent : a.device ∈ s.presentAfter populated.toFinset l₁ := by
    rw [mem_presentAfter, List.mem_toFinset]
    exact Or.inl ⟨hThere, fun other hOther =>
      h.deviceOf?_before hValue h.destroyed_nodup hid hOther⟩
  have hGone : a.device ∉ s.tree.order := by
    rw [h.mem_order]
    rintro (⟨_, hStays⟩ | hCreated)
    · exact hStays hDestroyed
    · exact h.created_absent _ hCreated hThere
  -- creations come after all destructions
  have hNoneCreated : ∀ other ∈ l₁, ∀ d, s.deviceOf? .createDevice other ≠ some d := by
    intro other hOther d hDevice
    obtain ⟨b, hb, hKind', _⟩ := deviceOf?_eq_some.mp hDevice
    have hLast := createsLast_of_sort_ok h.listed h.sort_ok id hRegistered other
      (h.registered hValue (Or.inl hOther)) (Or.inl (typeOf?_of ha hKind)) (typeOf?_of hb hKind')
    have hFirst : Precedence.Precedes s.sort.1.value other id := by
      rw [hValue]
      exact Precedence.precedes_append hOther List.mem_cons_self
    exact hLast.asymm ((sort_perm h.listed h.sort_ok).nodup_iff.mpr h.listed.nodup) hFirst
  have hLeaf : ∀ e ∈ s.presentAfter populated.toFinset l₁, a.device ∉ s.tree.parentsOf e := by
    intro e he hParent
    have hDepends := dependsOn_of_builtOn h.sound.acyclic hParent
    rw [mem_presentAfter, List.mem_toFinset] at he
    rcases he with ⟨hThere', hStays⟩ | ⟨other, hOther, hDevice⟩
    · by_cases hDestroyed' : e ∈ s.devicesOf .destroyDevice
      · obtain ⟨other, hOther, hDevice⟩ := mem_devicesOf.mp hDestroyed'
        obtain ⟨b, hb, hKind', rfl⟩ := deviceOf?_eq_some.mp hDevice
        refine hStays other (h.mem_before hValue ha hb hOther ?_ ?_) hDevice
        · rintro rfl
          rw [ha, Option.some_inj] at hb
          exact (DeviceTree.dependsOn_iff.mp hDepends).1 (congrArg Action.device hb).symm
        · simp [DeviceTree.requiresByKind, hKind, hKind', hDepends]
      · have hOrder : e ∈ s.tree.order := (h.mem_order e).mpr (Or.inl ⟨hThere', hDestroyed'⟩)
        exact hGone (h.sound.closed e hOrder _ hParent)
    · exact hNoneCreated other hOther e hDevice
  rw [presentAfter_destroy ha hKind fun other hOther => hNoneCreated other hOther _,
    DeviceTree.carryOut, hKind]
  exact if_pos ⟨hPresent, Finset.filter_eq_empty_iff.mpr fun e he => hLeaf e he⟩

/-- **Every action of the sorted plan can be carried out in its turn.** -/
theorem Settled.carryOut (ha : s.action? id = some a) :
    s.tree.carryOut (s.presentAfter populated.toFinset l₁) a
      = some (s.presentAfter populated.toFinset (l₁ ++ [id])) := by
  by_cases hCreate : a.kind = .createDevice
  · exact h.carryOut_create hValue ha hCreate
  by_cases hDestroy : a.kind = .destroyDevice
  · exact h.carryOut_destroy hValue ha hDestroy
  rw [presentAfter_other ha hCreate hDestroy, DeviceTree.carryOut]
  cases hKind : a.kind <;> first | rfl | contradiction

end

/-! ## The whole plan -/

theorem Settled.execute_from (h : Settled populated s) (hValue : s.sort.1.value = l₁ ++ l₂) :
    s.execute (s.presentAfter populated.toFinset l₁) l₂
      = some (s.presentAfter populated.toFinset s.sort.1.value) := by
  induction l₂ generalizing l₁ with
  | nil =>
    rw [hValue, List.append_nil]
    rfl
  | cons id l₂ ih =>
    obtain ⟨a, ha, _⟩ := (h.listed.mem_iff id).mp (h.registered hValue (Or.inr rfl))
    have hRest : s.sort.1.value = (l₁ ++ [id]) ++ l₂ := by
      rw [hValue]
      simp
    rw [execute, ha, Option.bind_some, h.carryOut hValue ha, Option.bind_some]
    exact ih hRest

theorem Settled.presentAfter_value (h : Settled populated s) :
    s.presentAfter populated.toFinset s.sort.1.value = s.tree.order.toFinset := by
  have hMem : ∀ {id}, id ∈ s.sort.1.value ↔ id ∈ s.registry :=
    (sort_perm h.listed h.sort_ok).mem_iff
  ext d
  rw [mem_presentAfter, List.mem_toFinset, List.mem_toFinset, h.mem_order, mem_devicesOf,
    mem_devicesOf]
  simp only [hMem, not_exists, not_and, ne_eq]

/-- **The plan can be carried out.**  Some devices are taken in, then devices and formats are made
and a plan is put together, by registering, cancelling and removing stacks in any order, without
membership actions.  If no device is created twice, the pruned plan can be sorted, and carrying out
its actions one by one leads from the devices that were taken in to those of the tree. -/
theorem execute_prune_sort (populating planning : List Command)
    (hPopulates : ∀ command ∈ populating, command.populates = true)
    (hPlans : ∀ command ∈ planning, command.plans = true) :
    let start := ({} : Session).performAll populating
    let s := start.performAll planning
    (s.devicesOf .createDevice).Nodup →
      s.prune.2.sort.1.ok = true ∧
      s.prune.2.execute start.tree.order.toFinset s.prune.2.sort.1.value
        = some s.prune.2.tree.order.toFinset := by
  intro start s hOnce
  have hStart : start.Unplanned := unplanned_empty.performAll hPopulates
  have hAccount : Account start.tree.order s := hStart.account.performAll hPlans
  have hSettled := hAccount.settled_prune hStart.sound.inStep.nodup hOnce
  refine ⟨hSettled.sort_ok, ?_⟩
  have hExecute := hSettled.execute_from (List.nil_append s.prune.2.sort.1.value).symm
  rwa [presentAfter_nil, hSettled.presentAfter_value] at hExecute

/-- The logical volume on a disk, its group and its partition go away, an encrypted partition takes
their place after a change of mind, and a partition that is only created and destroyed is pruned. -/
theorem execute_prune_sort_of_replaced_stack :
    let populating : List Command := [
      .adoptDevice { name := "sda", kind := .disk, size := gibibytes 100 } "disklabel" "",
      .adoptDevice { name := "sda1", kind := .partition, size := gibibytes 10, parents := [2] }
        "lvmpv" "",
      .adoptDevice { name := "vg", kind := .volumeGroup, parents := [5] } "" "",
      .adoptDevice { name := "root", kind := .logicalVolume, size := gibibytes 5, parents := [8] }
        "ext4" "/"]
    let planning : List Command := [
      .newDevice { name := "sda2", kind := .partition, size := gibibytes 10, parents := [2] },
      .newDevice { name := "sda3", kind := .partition, size := gibibytes 10, parents := [2] },
      .newDevice { name := "crypt", kind := .mapper, size := gibibytes 10, parents := [13] },
      .newFormat "luks" "" false,
      .schedule (.createDevice 13), .schedule (.createFormat 13 18),
      .schedule (.createDevice 17), .cancel 21, .schedule (.createDevice 17),
      .schedule (.createDevice 15), .schedule (.destroyDevice 15), .removeStack 5 true]
    let start := ({} : Session).performAll populating
    let s := start.performAll planning
    ((∀ command ∈ populating, command.populates = true) ∧
      (∀ command ∈ planning, command.plans = true) ∧ (s.devicesOf .createDevice).Nodup ∧
      start.tree.order = [2, 5, 8, 10] ∧ s.prune.2.tree.order = [2, 13, 17] ∧
      s.prune.2.sort.1.value = [26, 27, 28, 30, 31, 19, 20, 22]) ∧
    s.prune.2.sort.1.ok = true ∧
    s.prune.2.execute start.tree.order.toFinset s.prune.2.sort.1.value
      = some s.prune.2.tree.order.toFinset := by
  intro populating planning start s
  have hPopulates : ∀ command ∈ populating, command.populates = true := by decide +kernel
  have hPlans : ∀ command ∈ planning, command.plans = true := by decide +kernel
  have hOnce : (s.devicesOf .createDevice).Nodup := by decide +kernel
  exact ⟨⟨hPopulates, hPlans, hOnce, by decide +kernel, by decide +kernel, by decide +kernel⟩,
    execute_prune_sort populating planning hPopulates hPlans hOnce⟩

end Session

end StoragePlan

import StoragePlan.Proofs.Balance

/-!
# What pruning drops

Pruning drops actions in two ways: first all that concern a device which the plan both creates and
destroys, then actions that a registered action makes unnecessary (`Pruned`).  Neither touches the
only creation of a device that stays, nor the destruction of a device that is there
(`not_outdone_of_create`, `not_outdone_of_destroy`).

* `Account.settled_prune`: after pruning **the plan creates what is missing and destroys what is
  there**, and this is the whole difference between the populated devices and the tree.
-/

namespace StoragePlan

namespace DeviceTree

variable {t : DeviceTree} {a b : Action}

theorem container?_eq_none (h : a.object ≠ .container) : a.container? = none := by
  unfold Action.object Action.kind at h
  unfold Action.container?
  cases hOp : a.operation <;> rw [hOp] at h <;>
    simp [Operation.kind, ActionKind.object, Operation.container?] at h ⊢

/-- Only a destruction of its device or a later creation of it makes a creation unnecessary. -/
theorem obsoletes_create (hb : b.kind = .createDevice) (h : t.obsoletes a b = true) :
    b.device = a.device ∧ (a.kind = .destroyDevice ∨ a.kind = .createDevice ∧ b.id ≠ a.id) := by
  have hContainer : b.container? = none :=
    container?_eq_none (by simp [Action.object, hb, ActionKind.object])
  unfold obsoletes at h
  cases ha : a.kind <;> simp only [ha, hb, Bool.false_eq_true] at h
  case createDevice =>
    simp only [Bool.and_eq_true, beq_iff_eq, decide_eq_true_eq] at h
    exact ⟨h.1, Or.inr ⟨rfl, fun hId => UInt64.lt_irrefl a.id (hId ▸ h.2)⟩⟩
  case destroyDevice =>
    refine ⟨?_, Or.inl rfl⟩
    unfold destroyObsoletes at h
    split at h
    · cases h
    · split at h
      · simp only [Bool.and_eq_true, beq_iff_eq] at h
        exact h.1.1
      · rw [Bool.and_eq_true] at h
        simpa [Action.concerns, hContainer] using h.1
  case destroyFormat => simp [Action.object, hb, ActionKind.object] at h

/-- Nothing makes the destruction of a device that is there unnecessary. -/
theorem not_obsoletes_destroy {device : Device} (hb : b.kind = .destroyDevice)
    (hDevice : t.device? b.device = some device) (hMedia : device.onMedia = true) :
    t.obsoletes a b = false := by
  have hContainer : b.container? = none :=
    container?_eq_none (by simp [Action.object, hb, ActionKind.object])
  by_contra h
  rw [Bool.not_eq_false] at h
  unfold obsoletes at h
  cases ha : a.kind <;> simp only [ha, hb, Bool.false_eq_true] at h
  case destroyDevice =>
    unfold destroyObsoletes at h
    split at h
    · cases h
    · rename_i other hOther
      split at h
      · simp [Action.type, hb, ActionKind.type] at h
      · rename_i hProposed
        rw [Bool.and_eq_true] at h
        have hSame : b.device = a.device := by
          simpa [Action.concerns, hContainer] using h.1
        rw [← hSame, hDevice, Option.some_inj] at hOther
        exact hProposed (hOther ▸ hMedia)
  case destroyFormat => simp [Action.object, hb, ActionKind.object] at h

end DeviceTree

namespace Session

/-- `s'` is `s₀` without some actions that a registered action of `s₀` made unnecessary. -/
structure Pruned (s₀ s' : Session) : Prop where
  tree : s'.tree = s₀.tree
  actions : s₀.SameActions s'
  registry : s'.registry.Sublist s₀.registry
  reason : ∀ id ∈ s₀.registry, id ∉ s'.registry → s₀.Outdone id

variable {s s₀ s' : Session} {populated : List ObjectId}

/-- A relation between actions that does not look at their states stays between the same actions. -/
theorem SameActions.related (h : s₀.SameActions s') {related : Action → Action → Bool}
    (hCore : ∀ x y, related x.core y.core = related x y) (a b : ObjectId) :
    (match s'.action? a, s'.action? b with
      | some x, some y => related x y
      | _, _ => false) =
    (match s₀.action? a, s₀.action? b with
      | some x, some y => related x y
      | _, _ => false) := by
  have hSame : ∀ s : Session,
      (match s.action? a, s.action? b with
        | some x, some y => related x y
        | _, _ => false) =
      (match (s.action? a).map Action.core, (s.action? b).map Action.core with
        | some x, some y => related x y
        | _, _ => false) := by
    intro s
    cases s.action? a <;> cases s.action? b <;> simp [hCore]
  rw [hSame, hSame, h a, h b]

theorem SameActions.obsoletes (h : s₀.SameActions s') (hTree : s'.tree = s₀.tree)
    (a b : ObjectId) : s'.obsoletes a b = s₀.obsoletes a b := by
  unfold Session.obsoletes
  rw [hTree]
  exact h.related (fun _ _ => rfl) a b

theorem SameActions.requires (h : s₀.SameActions s') (hTree : s'.tree = s₀.tree)
    (a b : ObjectId) : s'.requires a b = s₀.requires a b := by
  unfold Session.requires
  rw [hTree]
  exact h.related (fun _ _ => rfl) a b

theorem Pruned.refl (s : Session) : Pruned s s :=
  ⟨rfl, fun _ => rfl, List.Sublist.refl _, fun _ h h' => absurd h h'⟩

theorem Pruned.pruneAction (h : Pruned s₀ s') (reason : String) {id : ObjectId}
    (hid : s₀.Outdone id) : Pruned s₀ (s'.pruneAction reason id) where
  tree := h.tree
  actions := h.actions.trans (sameActions_drop s' id .pruned)
  registry := List.Sublist.trans List.filter_sublist h.registry
  reason := by
    intro other hOther hDropped
    by_cases hSame : other = id
    · rw [hSame]
      exact hid
    · refine h.reason other hOther fun hMem => hDropped ?_
      exact List.mem_filter.mpr ⟨hMem, by simpa using hSame⟩

theorem Pruned.outdone (h : Pruned s₀ s') {id : ObjectId} (hid : s'.Outdone id) :
    s₀.Outdone id := by
  obtain ⟨other, hOther, hObsoletes⟩ := hid
  refine ⟨other, h.registry.subset hOther, ?_⟩
  rwa [h.actions.obsoletes h.tree] at hObsoletes

theorem pruned_pruneObsolete (s : Session) : Pruned s s.pruneObsolete.2 :=
  pruneObsolete_preserves (Q := s.Outdone) (fun _ reason _ h hid => h.pruneAction reason hid)
    (fun _ _ h _ hid => h.outdone hid) (Pruned.refl s)

/-! ## Devices that are created and destroyed -/

theorem registry_pruneAll (s : Session) (reason : String) (ids : List ObjectId) :
    (s.pruneAll reason ids).registry = s.registry.filter fun id => id ∉ ids := by
  unfold pruneAll
  induction ids generalizing s with
  | nil => simp
  | cons id ids ih =>
    rw [List.foldl_cons, ih]
    change (s.registry.filter (· ≠ id)).filter _ = _
    rw [List.filter_filter]
    refine List.filter_congr fun other _ => ?_
    simp [Bool.and_comm]

theorem pruneAll_same (s : Session) (reason : String) (ids : List ObjectId) :
    (s.pruneAll reason ids).tree = s.tree ∧ s.SameActions (s.pruneAll reason ids) :=
  pruneAll_preserves (P := fun s' => s'.tree = s.tree ∧ s.SameActions s') (Q := fun _ => True)
    (fun s' _ id h _ => ⟨h.1, h.2.trans (sameActions_drop s' id .pruned)⟩)
    ⟨rfl, fun _ => rfl⟩ reason ids fun _ _ => trivial

/-- The session after the first pass of pruning. -/
def withoutTransient (s : Session) : Session :=
  s.pruneAll "device is created and destroyed" s.transientActions

theorem mem_transientActions {id : ObjectId} {a : Action} (ha : s.action? id = some a)
    (hid : id ∈ s.registry) (hMember : a.container? = none) :
    id ∈ s.transientActions ↔
      a.device ∈ s.devicesOf .createDevice ∧ a.device ∈ s.devicesOf .destroyDevice := by
  obtain rfl := id_of_action? ha
  have hPlan : a ∈ s.plan := mem_plan_iff.mpr ⟨hid, ha⟩
  have hConcerns : ∀ d, a.concerns d = true ↔ a.device = d := by
    intro d
    simp [Action.concerns, hMember]
  have hDevices : ∀ d, d ∈ s.transientDevices ↔
      d ∈ s.devicesOf .createDevice ∧ d ∈ s.devicesOf .destroyDevice := by
    intro d
    rw [transientDevices, List.mem_filter, List.contains_iff_mem, and_comm]
  rw [← hDevices, transientActions, List.mem_map]
  constructor
  · rintro ⟨b, hb, hId⟩
    obtain ⟨hb, hAny⟩ := List.mem_filter.mp hb
    obtain rfl := eq_of_mem_plan hb hPlan hId
    obtain ⟨d, hd, hb⟩ := List.any_eq_true.mp hAny
    exact (hConcerns d).mp hb ▸ hd
  · intro hd
    refine ⟨a, List.mem_filter.mpr ⟨hPlan, ?_⟩, rfl⟩
    exact List.any_eq_true.mpr ⟨a.device, hd, (hConcerns _).mpr rfl⟩

/-- The first pass keeps an action that concerns no device which the plan creates. -/
theorem mem_withoutTransient {a : Action} (ha : a ∈ s.plan)
    (hUncreated : ∀ d, a.concerns d = true → d ∉ s.devicesOf .createDevice) :
    a.id ∈ s.withoutTransient.registry := by
  rw [withoutTransient, registry_pruneAll, List.mem_filter, decide_eq_true_eq]
  refine ⟨(mem_plan_iff.mp ha).1, fun hTransient => ?_⟩
  obtain ⟨b, hb, hId⟩ := List.mem_map.mp hTransient
  obtain ⟨hb, hAny⟩ := List.mem_filter.mp hb
  obtain rfl := eq_of_mem_plan hb ha hId
  obtain ⟨d, hd, hConcerns⟩ := List.any_eq_true.mp hAny
  exact hUncreated d hConcerns (List.contains_iff_mem.mp (List.mem_filter.mp hd).2)

theorem mem_registry_withoutTransient {id : ObjectId} {a : Action} (ha : s.action? id = some a)
    (hMember : a.container? = none) :
    id ∈ s.withoutTransient.registry ↔ id ∈ s.registry ∧
      ¬ (a.device ∈ s.devicesOf .createDevice ∧ a.device ∈ s.devicesOf .destroyDevice) := by
  rw [withoutTransient, registry_pruneAll, List.mem_filter, decide_eq_true_eq]
  exact and_congr_right fun hid => not_congr (mem_transientActions ha hid hMember)

/-! ## What stays in the plan -/

/-- A plan that creates what is missing and destroys what is there, each device once. -/
structure Settled (populated : List ObjectId) (s : Session) : Prop where
  listed : s.Listed
  sound : s.tree.Sound
  noMembership : ∀ id a, s.action? id = some a → a.container? = none
  created_nodup : (s.devicesOf .createDevice).Nodup
  destroyed_nodup : (s.devicesOf .destroyDevice).Nodup
  created_absent : ∀ d ∈ s.devicesOf .createDevice, d ∉ populated
  destroyed_there : ∀ d ∈ s.devicesOf .destroyDevice, d ∈ populated
  mem_order : ∀ d, d ∈ s.tree.order ↔
    (d ∈ populated ∧ d ∉ s.devicesOf .destroyDevice) ∨ d ∈ s.devicesOf .createDevice

theorem Account.created_absent (h : Account populated s) {d : ObjectId}
    (hd : d ∈ s.devicesOf .createDevice) : d ∉ populated := by
  intro hThere
  obtain ⟨id, _, hid⟩ := mem_devicesOf.mp hd
  obtain ⟨a, ha, hKind, rfl⟩ := deviceOf?_eq_some.mp hid
  obtain ⟨device, hDevice, hMedia⟩ := h.proposed id a ha hKind
  obtain ⟨device', hDevice', hMedia'⟩ := h.there a.device hThere
  rw [hDevice, Option.some_inj] at hDevice'
  rw [hDevice', hMedia'] at hMedia
  cases hMedia

/-- With every device created at most once, no device is present and destroyed, and none is
destroyed twice. -/
theorem Account.nodup (h : Account populated s) (hPopulated : populated.Nodup)
    (hOnce : (s.devicesOf .createDevice).Nodup) :
    (s.tree.order ++ s.devicesOf .destroyDevice).Nodup := by
  refine h.balance.nodup_iff.mpr (List.nodup_append.mpr ⟨hPopulated, hOnce, ?_⟩)
  rintro d hd _ hd' rfl
  exact h.created_absent hd' hd

theorem not_outdone_of_create {id d : ObjectId} (hOnce : (s.devicesOf .createDevice).count d ≤ 1)
    (hid : id ∈ s.registry) (hd : s.deviceOf? .createDevice id = some d)
    (hStays : d ∉ s.devicesOf .destroyDevice) : ¬ s.Outdone id := by
  rintro ⟨other, hOther, hObsoletes⟩
  obtain ⟨x, y, hx, hy, hxy⟩ := exists_of_obsoletes hObsoletes
  obtain ⟨y', hy', hKind, rfl⟩ := deviceOf?_eq_some.mp hd
  obtain rfl : y = y' := Option.some.inj (hy ▸ hy')
  obtain ⟨hDevice, hDestroy | ⟨hCreate, hne⟩⟩ := DeviceTree.obsoletes_create hKind hxy
  · refine hStays (mem_devicesOf.mpr ⟨other, hOther, ?_⟩)
    exact deviceOf?_eq_some.mpr ⟨x, hx, hDestroy, hDevice.symm⟩
  · have hSame : id = other := eq_of_deviceOf? hOnce hid hOther hd
      (deviceOf?_eq_some.mpr ⟨x, hx, hCreate, hDevice.symm⟩)
    rw [id_of_action? hx, id_of_action? hy] at hne
    exact hne hSame

theorem Account.not_outdone_of_destroy (h : Account populated s) {id d : ObjectId}
    (hd : s.deviceOf? .destroyDevice id = some d) (hThere : d ∈ populated) : ¬ s.Outdone id := by
  rintro ⟨other, _, hObsoletes⟩
  obtain ⟨x, y, _, hy, hxy⟩ := exists_of_obsoletes hObsoletes
  obtain ⟨y', hy', hKind, rfl⟩ := deviceOf?_eq_some.mp hd
  obtain rfl : y = y' := Option.some.inj (hy ▸ hy')
  obtain ⟨device, hDevice, hMedia⟩ := h.there y.device hThere
  rw [DeviceTree.not_obsoletes_destroy hKind hDevice hMedia] at hxy
  cases hxy

section

variable (s)

theorem prune_tree : s.prune.2.tree = s.tree :=
  (pruned_pruneObsolete s.withoutTransient).tree.trans (pruneAll_same s _ _).1

theorem sameActions_prune : s.SameActions s.prune.2 :=
  (pruneAll_same s _ _).2.trans (pruned_pruneObsolete s.withoutTransient).actions

theorem registry_prune_sublist : s.prune.2.registry.Sublist s.withoutTransient.registry :=
  (pruned_pruneObsolete s.withoutTransient).registry

theorem registry_withoutTransient_sublist : s.withoutTransient.registry.Sublist s.registry := by
  rw [withoutTransient, registry_pruneAll]
  exact List.filter_sublist

end

/-- What the first pass keeps, the sweeps drop only if a registered action makes it unnecessary. -/
theorem mem_registry_prune {id : ObjectId} (hid : id ∈ s.withoutTransient.registry)
    (hStays : ¬ s.Outdone id) : id ∈ s.prune.2.registry := by
  by_contra hDropped
  have hPruned := pruned_pruneObsolete s.withoutTransient
  obtain ⟨other, hOther, hObsoletes⟩ := hPruned.reason id hid hDropped
  have hSame := pruneAll_same s "device is created and destroyed" s.transientActions
  refine hStays ⟨other, (registry_withoutTransient_sublist s).subset hOther, ?_⟩
  rwa [withoutTransient, hSame.2.obsoletes hSame.1] at hObsoletes

theorem SameActions.devicesOf_sublist (h : s₀.SameActions s')
    (hRegistry : s'.registry.Sublist s₀.registry) (kind : ActionKind) :
    (s'.devicesOf kind).Sublist (s₀.devicesOf kind) := by
  rw [devicesOf_eq, devicesOf_eq, List.filterMap_congr fun id _ => h.deviceOf? kind id]
  exact hRegistry.filterMap _

/-- The first pass drops the devices of a kind of action that is no membership action as far as the
plan creates and destroys them. -/
theorem of_mem_devicesOf_withoutTransient {kind : ActionKind} (hKind : kind.object ≠ .container)
    {d : ObjectId} (hd : d ∈ s.withoutTransient.devicesOf kind) : d ∈ s.devicesOf kind ∧
      ¬ (d ∈ s.devicesOf .createDevice ∧ d ∈ s.devicesOf .destroyDevice) := by
  obtain ⟨id, hKept, hDevice⟩ := mem_devicesOf.mp hd
  rw [withoutTransient, (pruneAll_same s _ _).2.deviceOf?] at hDevice
  obtain ⟨a, ha, rfl, rfl⟩ := deviceOf?_eq_some.mp hDevice
  obtain ⟨hid, hNot⟩ :=
    (mem_registry_withoutTransient ha (DeviceTree.container?_eq_none hKind)).mp hKept
  exact ⟨mem_devicesOf.mpr ⟨id, hid, hDevice⟩, hNot⟩

theorem of_mem_devicesOf_prune {kind : ActionKind} (hKind : kind.object ≠ .container)
    {d : ObjectId} (hd : d ∈ s.prune.2.devicesOf kind) : d ∈ s.devicesOf kind ∧
      ¬ (d ∈ s.devicesOf .createDevice ∧ d ∈ s.devicesOf .destroyDevice) := by
  have hSweeps := pruned_pruneObsolete s.withoutTransient
  exact of_mem_devicesOf_withoutTransient hKind
    ((hSweeps.actions.devicesOf_sublist hSweeps.registry kind).subset hd)

theorem devicesOf_prune_sublist (s : Session) (kind : ActionKind) :
    (s.prune.2.devicesOf kind).Sublist (s.devicesOf kind) :=
  (sameActions_prune s).devicesOf_sublist
    ((registry_prune_sublist s).trans (registry_withoutTransient_sublist s)) kind

/-- Once is enough: the first pass leaves no device that the plan both creates and destroys. -/
theorem transientDevices_withoutTransient (s : Session) :
    s.withoutTransient.transientDevices = [] := by
  refine List.eq_nil_iff_forall_not_mem.mpr fun d hd => ?_
  obtain ⟨hDestroyed, hCreated⟩ := List.mem_filter.mp hd
  obtain ⟨hDestroyed, hApart⟩ := of_mem_devicesOf_withoutTransient (by decide) hDestroyed
  obtain ⟨hCreated, _⟩ :=
    of_mem_devicesOf_withoutTransient (by decide) (List.contains_iff_mem.mp hCreated)
  exact hApart ⟨hCreated, hDestroyed⟩

theorem mem_created_prune {d : ObjectId} (hOnce : (s.devicesOf .createDevice).count d ≤ 1) :
    d ∈ s.prune.2.devicesOf .createDevice ↔
      d ∈ s.devicesOf .createDevice ∧ d ∉ s.devicesOf .destroyDevice := by
  constructor
  · intro hd
    obtain ⟨hd, hNot⟩ := of_mem_devicesOf_prune (by decide) hd
    exact ⟨hd, fun hDestroyed => hNot ⟨hd, hDestroyed⟩⟩
  · rintro ⟨hd, hStays⟩
    obtain ⟨id, hid, hDevice⟩ := mem_devicesOf.mp hd
    obtain ⟨a, ha, hKind, rfl⟩ := deviceOf?_eq_some.mp hDevice
    have hMember : a.container? = none :=
      DeviceTree.container?_eq_none (by simp [Action.object, hKind, ActionKind.object])
    refine mem_devicesOf.mpr ⟨id, mem_registry_prune ?_ ?_, ?_⟩
    · exact (mem_registry_withoutTransient ha hMember).mpr ⟨hid, fun hBoth => hStays hBoth.2⟩
    · exact not_outdone_of_create hOnce hid hDevice hStays
    · rw [(sameActions_prune s).deviceOf?, hDevice]

theorem Account.mem_destroyed_prune (h : Account populated s) {d : ObjectId} :
    d ∈ s.prune.2.devicesOf .destroyDevice ↔
      d ∈ s.devicesOf .destroyDevice ∧ d ∉ s.devicesOf .createDevice := by
  constructor
  · intro hd
    obtain ⟨hd, hNot⟩ := of_mem_devicesOf_prune (by decide) hd
    exact ⟨hd, fun hCreated => hNot ⟨hCreated, hd⟩⟩
  · rintro ⟨hd, hStays⟩
    obtain ⟨id, hid, hDevice⟩ := mem_devicesOf.mp hd
    obtain ⟨a, ha, _, rfl⟩ := deviceOf?_eq_some.mp hDevice
    have hThere : a.device ∈ populated := by
      have hMem := h.balance.mem_iff.mp (List.mem_append_right s.tree.order hd)
      exact (List.mem_append.mp hMem).resolve_right hStays
    refine mem_devicesOf.mpr ⟨id, mem_registry_prune ?_ ?_, ?_⟩
    · exact (mem_registry_withoutTransient ha (h.noMembership id a ha)).mpr
        ⟨hid, fun hBoth => hStays hBoth.1⟩
    · exact h.not_outdone_of_destroy hDevice hThere
    · rw [(sameActions_prune s).deviceOf?, hDevice]

/-- **What pruning leaves of a plan creates what is missing and destroys what is there.** -/
theorem Account.settled_prune (h : Account populated s) (hPopulated : populated.Nodup)
    (hOnce : (s.devicesOf .createDevice).Nodup) : Settled populated s.prune.2 := by
  have hNodup := List.nodup_append.mp (h.nodup hPopulated hOnce)
  have hCreated : ∀ d, d ∈ s.prune.2.devicesOf .createDevice ↔
      d ∈ s.devicesOf .createDevice ∧ d ∉ s.devicesOf .destroyDevice :=
    fun d => mem_created_prune (List.nodup_iff_count_le_one.mp hOnce d)
  have hMem : ∀ d, d ∈ s.tree.order ∨ d ∈ s.devicesOf .destroyDevice ↔
      d ∈ populated ∨ d ∈ s.devicesOf .createDevice := by
    intro d
    rw [← List.mem_append, ← List.mem_append]
    exact h.balance.mem_iff
  have hApart : ∀ d, d ∈ s.tree.order → d ∉ s.devicesOf .destroyDevice :=
    fun d hd hd' => hNodup.2.2 d hd d hd' rfl
  refine ⟨?_, ?_, ?_, hOnce.sublist (devicesOf_prune_sublist s _),
    hNodup.2.1.sublist (devicesOf_prune_sublist s _), ?_, ?_, ?_⟩
  · exact prune_preserves (fun _ reason id h => h.pruneAction reason id) h.listed
  · rw [prune_tree]
    exact h.sound
  · intro id a ha
    obtain ⟨b, hb, hCore⟩ := (sameActions_prune s).exists_core ha
    exact (congrArg Action.container? hCore).symm.trans (h.noMembership id b hb)
  · intro d hd
    exact h.created_absent ((hCreated d).mp hd).1
  · intro d hd
    rw [h.mem_destroyed_prune] at hd
    exact ((hMem d).mp (Or.inr hd.1)).resolve_right hd.2
  · intro d
    have hAbsent : d ∈ s.devicesOf .createDevice → d ∉ populated := h.created_absent
    have := hMem d
    have := hApart d
    rw [prune_tree, hCreated, h.mem_destroyed_prune]
    tauto

end Session

end StoragePlan

import StoragePlan.Proofs.Dismantling
import StoragePlan.Proofs.Stability

/-!
# What the check of a session finds

The check goes once through the present devices with the names that it has come across.  It is
compared with `DeviceTree.faults`, which says of one device what is wrong with it, given the devices
before it, and looks at cycles through the transitive closure of the parent edges.

* `DeviceTree.issuesFrom_eq`: the check finds **the faults of every device, in tree order**.
* `DeviceTree.issuesFrom_eq_nil_iff`: it finds none exactly in a tree without faults.
* `Session.validate_exact`: after every run the check reports these and the devices that are created
  and destroyed, and it has errors exactly when the tree is damaged.
-/

namespace StoragePlan

open Relation

namespace DeviceTree

variable {t : DeviceTree} {device : Device} {devices : List Device} {earlier : List String}

-- the parents are run through, not all ids
instance (t : DeviceTree) (d x : ObjectId) : Decidable (t.StandsOn d x) :=
  decidable_of_iff (((t.parentsOf d).any fun p => p == x || t.dependsOn p x) = true) <| by
    rw [standsOn_iff, List.any_eq_true]
    refine exists_congr fun p => and_congr_right fun _ => ?_
    rw [Bool.or_eq_true, beq_iff_eq, dependsOn_iff]
    tauto

/-- What is wrong with a present device, given the devices before it in the tree: one of them has
its name, it has parents outside the tree, it reaches itself over parent edges, or its format is not
stored. -/
def faults (t : DeviceTree) (before : List Device) (device : Device) : List Issue :=
  (if ∃ other ∈ before, other.name = device.name then [.duplicateName device.id device.name]
    else [])
    ++ (device.parents.filter fun parent => parent ∉ t.order).map
      (fun _ => .parentNotInTree device.id device.name)
    ++ (if t.StandsOn device.id device.id then [.parentCycle device.id device.name] else [])
    ++ (if t.format? device.formatId = none then [.formatMissing device.id device.name] else [])

/-! ## Issues are faults -/

theorem deviceIssues_eq (hInStep : t.InStep) (h : t.device? device.id = some device)
    (before : List Device) :
    t.deviceIssues (before.map Device.name) device = t.faults before device := by
  have hName : device.name ∈ before.map Device.name ↔ ∃ other ∈ before, other.name = device.name :=
    List.mem_map
  have hOut : (fun parent => !t.contains parent) = fun parent => decide (parent ∉ t.order) := by
    funext parent
    rw [Bool.eq_iff_iff, Bool.not_eq_true', hInStep.contains_eq_false_iff, decide_eq_true_eq]
  simp only [deviceIssues, faults, hName, hOut, onCycle_iff h, Option.isNone_iff_eq_none]

/-- **The check finds the faults of every device, in tree order.** -/
theorem issuesFrom_eq (hInStep : t.InStep)
    (hStored : ∀ device ∈ devices, t.device? device.id = some device) (before : List Device) :
    t.issuesFrom (before.map Device.name) devices
      = (devices.mapIdx fun i device => t.faults (before ++ devices.take i) device).flatten := by
  induction devices generalizing before with
  | nil => rfl
  | cons device devices ih =>
    have hRest := ih (fun other hOther => hStored other (List.mem_cons_of_mem _ hOther))
      (before ++ [device])
    rw [List.map_append, List.map_singleton] at hRest
    simp only [List.append_assoc, List.singleton_append] at hRest
    rw [issuesFrom, hRest, deviceIssues_eq hInStep (hStored device List.mem_cons_self),
      List.mapIdx_cons, List.flatten_cons]
    simp only [List.take_zero, List.append_nil, List.take_succ_cons]

/-! ## A tree without faults -/

theorem deviceIssues_eq_nil_iff (hInStep : t.InStep) (h : t.device? device.id = some device) :
    t.deviceIssues earlier device = [] ↔
      device.name ∉ earlier ∧ (∀ p ∈ device.parents, p ∈ t.order) ∧
      ¬ t.StandsOn device.id device.id ∧ (t.format? device.formatId).isSome := by
  have hNone : ∀ (P : Prop) (x : Issue), (∀ issue, ¬ (P ∧ issue = x)) ↔ ¬ P := fun P x =>
    ⟨fun hAll hP => hAll x ⟨hP, rfl⟩, fun hP _ hIssue => hP hIssue.1⟩
  rw [List.eq_nil_iff_forall_not_mem]
  simp only [mem_deviceIssues, not_or, forall_and, hNone, onCycle_iff h]
  simp [hInStep.contains_iff, Option.isSome_iff_ne_none]

/-- The check carries the names that it has come across.  It finds nothing exactly when these and
those to come are different and no device has a fault of its own. -/
theorem issuesFrom_eq_nil_iff (hInStep : t.InStep)
    (hStored : ∀ device ∈ devices, t.device? device.id = some device) (hEarlier : earlier.Nodup) :
    t.issuesFrom earlier devices = [] ↔
      (earlier ++ devices.map Device.name).Nodup ∧
      ∀ device ∈ devices, (∀ p ∈ device.parents, p ∈ t.order) ∧
        ¬ t.StandsOn device.id device.id ∧ (t.format? device.formatId).isSome := by
  induction devices generalizing earlier with
  | nil => simpa [issuesFrom] using hEarlier
  | cons device devices ih =>
    rw [issuesFrom, List.append_eq_nil_iff,
      deviceIssues_eq_nil_iff hInStep (hStored device List.mem_cons_self), List.forall_mem_cons]
    by_cases hUsed : device.name ∈ earlier
    · refine iff_of_false (fun h => h.1.1 hUsed) fun h => ?_
      exact (List.nodup_append.mp h.1).2.2 _ hUsed _ List.mem_cons_self rfl
    · have hMore : (earlier ++ [device.name]).Nodup := by
        rw [← List.concat_eq_append]
        exact hEarlier.concat hUsed
      rw [ih (fun other hOther => hStored other (List.mem_cons_of_mem _ hOther)) hMore,
        List.append_assoc, List.singleton_append, List.map_cons]
      tauto

theorem severity_of_mem_issuesFrom {issue : Issue} (h : issue ∈ t.issuesFrom earlier devices) :
    issue.severity = .error := by
  induction devices generalizing earlier with
  | nil => cases h
  | cons device devices ih =>
    rcases List.mem_append.mp h with h | h
    · rcases mem_deviceIssues.mp h with ⟨_, rfl⟩ | ⟨_, rfl⟩ | ⟨_, rfl⟩ | ⟨_, rfl⟩ <;> rfl
    · exact ih h

end DeviceTree

theorem Issue.anyError_eq_false_iff {issues : List Issue} :
    Issue.anyError issues = false ↔ ∀ issue ∈ issues, issue.severity ≠ .error := by
  unfold Issue.anyError Severity.anyError
  rw [List.contains_eq_mem, decide_eq_false_iff_not, List.mem_map]
  exact ⟨fun h issue hIssue hError => h ⟨issue, hIssue, hError⟩,
    fun h ⟨issue, hIssue, hError⟩ => h issue hIssue hError⟩

namespace Session

variable {s : Session}

/-- **One warning for each registered destruction of a device that the plan creates too.** -/
theorem pendingIssues_eq (s : Session) :
    s.pendingIssues = (s.plan.filter fun a => a.kind = .destroyDevice ∧
      ∃ b ∈ s.plan, b.kind = .createDevice ∧ b.device = a.device).map
        fun a => .createDestroyPending a.device := by
  have hCreated := s.planWhere_kind .createDevice
  have hDestroyed := s.planWhere_kind .destroyDevice
  simp only [ActionKind.type, ActionKind.object] at hCreated hDestroyed
  unfold pendingIssues
  simp only [hCreated, hDestroyed, devicesOf, List.filter_map, List.filter_filter, List.map_map]
  refine congrArg (List.map _) (List.filter_congr fun a _ => ?_)
  rw [Bool.eq_iff_iff]
  simp only [Function.comp_apply, Bool.and_eq_true, List.contains_iff_mem, List.mem_map,
    List.mem_filter, beq_iff_eq, decide_eq_true_eq, and_assoc]
  exact and_comm

/-- With the registry in order, an error of the check is a fault of the tree. -/
theorem Listed.anyError_iff (h : s.Listed) :
    Issue.anyError s.validate = false ↔ s.tree.issuesFrom [] s.tree.present = [] := by
  unfold validate
  rw [Issue.anyError_eq_false_iff, h.stateIssues, List.append_nil]
  constructor
  · intro hNone
    refine List.eq_nil_iff_forall_not_mem.mpr fun issue hIssue => ?_
    exact hNone issue (List.mem_append_left _ hIssue) (DeviceTree.severity_of_mem_issuesFrom hIssue)
  · intro hNone issue hIssue
    rw [hNone, List.nil_append] at hIssue
    obtain ⟨d, _, rfl⟩ := List.mem_map.mp hIssue
    simp [Issue.severity]

/-- **The check is sound and complete.**  In every state that calls lead to, whatever was written
straight into devices and formats on the way, the check reports the faults of every present device,
in tree order, then one warning for each registered destruction of a device whose creation is
registered too, in the order of the registry, and nothing else.  It has errors unless the names in
the tree are different, the parents of what is present are present, no present device reaches itself
over parent edges, and every present device has a stored format. -/
theorem validate_exact (commands : List Command) :
    let s := ({} : Session).performAll commands
    s.tree.present.map Device.id = s.tree.order ∧
    s.validate
      = (s.tree.present.mapIdx fun i device => s.tree.faults (s.tree.present.take i) device).flatten
        ++ (s.plan.filter fun a => a.kind = .destroyDevice ∧
            ∃ b ∈ s.plan, b.kind = .createDevice ∧ b.device = a.device).map
          (fun a => .createDestroyPending a.device) ∧
    (Issue.anyError s.validate = false ↔
      (s.tree.present.map Device.name).Nodup ∧ s.tree.Closed ∧
      (∀ device ∈ s.tree.present, ¬ s.tree.StandsOn device.id device.id) ∧
      ∀ device ∈ s.tree.present, (s.tree.format? device.formatId).isSome) := by
  intro s
  have hListed : s.Listed := listed_empty.performAll commands
  have hFiled : s.tree.Filed := filed_performAll ⟨fun _ h => absurd h List.not_mem_nil,
    DeviceTree.inStep_empty⟩ commands
  have hStored : ∀ device ∈ s.tree.present, s.tree.device? device.id = some device :=
    fun device hDevice => (DeviceTree.mem_present.mp hDevice).2
  refine ⟨DeviceTree.map_id_present hFiled.stored, ?_, ?_⟩
  · have hTree := DeviceTree.issuesFrom_eq hFiled.inStep hStored []
    simp only [List.map_nil, List.nil_append] at hTree
    unfold validate
    rw [hListed.stateIssues, List.append_nil, hTree, pendingIssues_eq]
  · rw [hListed.anyError_iff,
      DeviceTree.issuesFrom_eq_nil_iff hFiled.inStep hStored List.nodup_nil, List.nil_append,
      DeviceTree.closed_iff_present]
    simp only [forall_and]

/-- Two arrays are built on each other, one of them outside the tree, and a disk took the name of
another one and lost its format. -/
example :
    let s := ({} : Session).performAll [
      .adoptDevice { name := "sda", kind := .disk } "" "",
      .adoptDevice { name := "sdb", kind := .disk } "" "",
      .adoptDevice { name := "md0", kind := .raidArray, parents := [2] } "" "",
      .newDevice { name := "md1", kind := .raidArray, parents := [6] },
      .editDevice 6 { parents := some [8] },
      .editDevice 4 { name := some "sda", formatId := some 0 }]
    s.validate = [.duplicateName 4 "sda", .formatMissing 4 "sda",
      .parentNotInTree 6 "md0", .parentCycle 6 "md0"] := by
  decide +kernel

end Session

end StoragePlan

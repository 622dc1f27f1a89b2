import StoragePlan.Proofs.Presence
import StoragePlan.Proofs.Pruning

/-!
# Devices that are created anew

Pruning takes a device that the plan both creates and destroys for one that comes and goes, and
drops all that concerns it.  A device that was created, destroyed and created again is taken for one
as well, and then it is present without any action that creates it.

* `Proposing.count_created_prune`: what pruning leaves of the creations of a device.
* `createdOnce_along_iff`: **after every pruning the proposed devices that are present are the ones
  with one creation each, exactly when no pruning meets a device that was created anew**.
-/

namespace StoragePlan

/-- Whether a call stores a proposed device or a format, schedules or withdraws an action, or
prunes. -/
def Command.revises : Command → Bool
  | newDevice draft => !draft.onMedia
  | newFormat .. | schedule _ | cancel _ | prune => true
  | _ => false

namespace Session

/-- The proposed devices that are present are those that one registered action creates. -/
def CreatedOnce (s : Session) : Prop :=
  ∀ device ∈ s.tree.devices.items, device.onMedia = false →
    (device.id ∈ s.tree.order ↔ (s.devicesOf .createDevice).count device.id = 1)

/-- No proposed device that is present is destroyed by the plan: none was created again after its
destruction. -/
def NoneRecreated (s : Session) : Prop :=
  ∀ device ∈ s.tree.devices.items, device.onMedia = false →
    device.id ∈ s.tree.order → device.id ∉ s.devicesOf .destroyDevice

instance (s : Session) : Decidable s.CreatedOnce :=
  inferInstanceAs (Decidable (∀ device ∈ s.tree.devices.items, device.onMedia = false →
    (device.id ∈ s.tree.order ↔ (s.devicesOf .createDevice).count device.id = 1)))

instance (s : Session) : Decidable s.NoneRecreated :=
  inferInstanceAs (Decidable (∀ device ∈ s.tree.devices.items, device.onMedia = false →
    device.id ∈ s.tree.order → device.id ∉ s.devicesOf .destroyDevice))

/-- A plan that creates each device that is not there once more than it destroys it, if the device
is present, and otherwise as often. -/
structure Proposing (s : Session) : Prop where
  linked : s.Linked
  listed : s.Listed
  tally : ∀ d, s.tree.isThere d = false → s.tally d = 0

variable {s s' : Session} {d : ObjectId}

/-! ## Calls that drop nothing -/

theorem Proposing.of_tallied (h : s.Proposing) (hLinked : s'.Linked)
    (hThere : s'.tree.isThere = s.tree.isThere) (hTallied : Tallied s.tally s') :
    s'.Proposing := by
  refine ⟨hLinked, hTallied.listed, fun d hd => ?_⟩
  rw [hTallied.tally]
  exact h.tally d (hThere ▸ hd)

theorem Proposing.tallied (h : s.Proposing) : Tallied s.tally s :=
  ⟨h.listed, h.linked.tree.inStep, fun _ => rfl⟩

/-- Everything but pruning keeps the balance of creations and destructions. -/
theorem Proposing.perform (h : s.Proposing) {command : Command}
    (hRevises : command.revises = true) (hDrops : command ≠ .prune) :
    (s.perform command).2.Proposing := by
  have hOverwrites : command.overwrites = false := by
    cases command <;> first | rfl | cases hRevises
  have hLinked := h.linked.perform hOverwrites
  cases command with
  | newDevice draft =>
    have hProposed : draft.onMedia = false := Bool.not_eq_true' _ ▸ hRevises
    exact h.of_tallied hLinked (s.isThere_newDevice_of_proposed hProposed)
      (h.tallied.newDevice draft)
  | newFormat typeName mountPoint onMedia =>
    exact h.of_tallied hLinked (s.isThere_newFormat typeName mountPoint onMedia)
      (h.tallied.newFormat typeName mountPoint onMedia)
  | schedule p => exact h.of_tallied hLinked (s.isThere_schedule p) (h.tallied.schedule p)
  | cancel id => exact h.of_tallied hLinked (s.isThere_cancel id) (h.tallied.cancel id)
  | prune => exact absurd rfl hDrops
  | _ => cases hRevises

/-! ## Pruning -/

section

variable (h : s.Proposing) (hThere : s.tree.isThere d = false)

include h hThere

theorem Proposing.count_le_one (hStays : d ∉ s.devicesOf .destroyDevice) :
    (s.devicesOf .createDevice).count d = s.tree.order.count d ∧
      (s.devicesOf .createDevice).count d ≤ 1 := by
  have hTally := h.tally d hThere
  have hPresent := List.nodup_iff_count_le_one.mp h.linked.tree.inStep.nodup d
  have hDestroyed := List.count_eq_zero.mpr hStays
  unfold Session.tally at hTally
  omega

/-- A device that is not there is destroyed only if it is created as well. -/
theorem Proposing.mem_created (hGoes : d ∈ s.devicesOf .destroyDevice) :
    d ∈ s.devicesOf .createDevice := by
  have hTally := h.tally d hThere
  have hDestroyed := List.count_pos_iff.mpr hGoes
  unfold Session.tally at hTally
  exact List.count_pos_iff.mp (by omega)

/-- **Pruning drops all creations of a device that the plan destroys, and none of another one.** -/
theorem Proposing.count_created_prune :
    (s.prune.2.devicesOf .createDevice).count d
      = if d ∈ s.devicesOf .destroyDevice then 0 else (s.devicesOf .createDevice).count d := by
  split
  · rename_i hGoes
    refine List.count_eq_zero.mpr fun hd => ?_
    exact (of_mem_devicesOf_prune (by decide) hd).2 ⟨h.mem_created hThere hGoes, hGoes⟩
  · rename_i hStays
    obtain ⟨_, hOnce⟩ := h.count_le_one hThere hStays
    refine Nat.le_antisymm ((devicesOf_prune_sublist s _).count_le d) ?_
    rcases Nat.eq_zero_or_pos ((s.devicesOf .createDevice).count d) with hZero | hPos
    · rw [hZero]
      exact Nat.zero_le _
    · have hKept := (mem_created_prune hOnce).mpr ⟨List.count_pos_iff.mp hPos, hStays⟩
      exact hOnce.trans (List.count_pos_iff.mpr hKept)

theorem Proposing.count_destroyed_prune :
    (s.prune.2.devicesOf .destroyDevice).count d = 0 := by
  refine List.count_eq_zero.mpr fun hd => ?_
  obtain ⟨hGoes, hNot⟩ := of_mem_devicesOf_prune (by decide) hd
  exact hNot ⟨h.mem_created hThere hGoes, hGoes⟩

/-- A device that is not there is present with one creation after pruning exactly when it was not
created anew. -/
theorem Proposing.created_prune_iff :
    (d ∈ s.tree.order ↔ (s.prune.2.devicesOf .createDevice).count d = 1) ↔
      (d ∈ s.tree.order → d ∉ s.devicesOf .destroyDevice) := by
  rw [h.count_created_prune hThere]
  split
  · rename_i hGoes
    simp [hGoes]
  · rename_i hStays
    obtain ⟨hSame, hOnce⟩ := h.count_le_one hThere hStays
    have hPresent : d ∈ s.tree.order ↔ (s.devicesOf .createDevice).count d = 1 := by
      rw [← List.count_pos_iff]
      omega
    simp [hStays, hPresent]

end

theorem isThere_of_mem {device : Device} (hd : device ∈ s.tree.devices.items) :
    s.tree.isThere device.id = device.onMedia :=
  DeviceTree.isThere_of_device? ((Arena.mem_iff_find? _ device).mp hd)

theorem Proposing.createdOnce_prune_iff (h : s.Proposing) :
    s.prune.2.CreatedOnce ↔ s.NoneRecreated := by
  unfold CreatedOnce NoneRecreated
  rw [prune_tree]
  refine forall₃_congr fun device hd hMedia => ?_
  exact h.created_prune_iff ((isThere_of_mem hd).trans hMedia)

theorem Proposing.prune (h : s.Proposing) (hNone : s.NoneRecreated) : s.prune.2.Proposing := by
  have hLinked : (s.perform .prune).2.Linked := h.linked.perform rfl
  refine ⟨hLinked, h.listed.perform .prune, fun d hThere => ?_⟩
  rw [prune_tree] at hThere
  unfold Session.tally
  rw [h.count_created_prune hThere, h.count_destroyed_prune hThere, prune_tree]
  split
  · rename_i hGoes
    -- a device that was not created anew is gone with its creations
    have hAbsent : d ∉ s.tree.order := by
      intro hd
      obtain ⟨device, hDevice⟩ := Option.isSome_iff_exists.mp (h.linked.tree.stored d hd)
      obtain rfl : device.id = d := Arena.id_of_find? hDevice
      rw [DeviceTree.isThere_of_device? hDevice] at hThere
      exact hNone device (Arena.mem_of_find? hDevice) hThere hd hGoes
    rw [List.count_eq_zero.mpr hAbsent]
    rfl
  · rename_i hStays
    obtain ⟨hSame, _⟩ := h.count_le_one hThere hStays
    omega

/-! ## Runs -/

theorem Unplanned.proposing (h : s.Unplanned) (hLinked : s.Linked) (hListed : s.Listed) :
    s.Proposing := by
  refine ⟨hLinked, hListed, fun d hd => ?_⟩
  have hAbsent : d ∉ s.tree.order := by
    intro hPresent
    obtain ⟨device, hDevice, hMedia⟩ := h.there hPresent
    rw [DeviceTree.isThere_of_device? hDevice, hMedia] at hd
    cases hd
  rw [(Tallied.of_registry_nil h.registry hListed h.sound.inStep).tally,
    List.count_eq_zero.mpr hAbsent]
  rfl

/-- **Pruning keeps the creation of every device that was created once.**  A session is populated,
and then proposed devices and formats are stored, actions are scheduled and withdrawn, and the plan
is pruned, in any order.  After every pruning the proposed devices that are present are those that
one registered action creates, exactly when no pruning meets a proposed device that is present and
destroyed by the plan, that is, one that was created again after its destruction. -/
theorem createdOnce_along_iff (populating planning : List Command)
    (hPopulates : ∀ command ∈ populating, command.populates = true)
    (hRevises : ∀ command ∈ planning, command.revises = true) :
    let start := ({} : Session).performAll populating
    start.Along (fun s command => command = .prune → (s.perform command).2.CreatedOnce) planning ↔
      start.Along (fun s command => command = .prune → s.NoneRecreated) planning := by
  intro start
  have hOverwrites : ∀ command ∈ populating, command.overwrites = false :=
    fun command hCommand => Command.overwrites_of_populates (hPopulates command hCommand)
  have hStart : start.Proposing := (unplanned_empty.performAll hPopulates).proposing
    (linked_empty.performAll hOverwrites) (listed_empty.performAll populating)
  refine along_iff Proposing (fun s command hCommand h => ?_) hStart
    (along_of_forall hRevises start)
  by_cases hPrune : command = .prune
  · subst hPrune
    exact ⟨imp_congr_right fun _ => h.createdOnce_prune_iff, fun hNone => h.prune (hNone rfl)⟩
  · exact ⟨iff_of_true (fun h => absurd h hPrune) (fun h => absurd h hPrune),
      fun _ => h.perform hCommand hPrune⟩

/-- A partition is made and given up, and after a pruning it is made again, next to a second one. -/
theorem createdOnce_along_of_second_attempt :
    let populating : List Command := [.adoptDevice { name := "sda", kind := .disk } "" ""]
    let planning : List Command := [
      .newDevice { name := "sda1", kind := .partition, parents := [2] },
      .schedule (.createDevice 4), .schedule (.destroyDevice 4), .prune,
      .schedule (.createDevice 4), .newFormat "ext4" "/" false, .schedule (.createFormat 4 8),
      .newDevice { name := "sda2", kind := .partition, parents := [2] },
      .schedule (.createDevice 11), .prune, .cancel 9, .cancel 7, .prune]
    let start := ({} : Session).performAll populating
    ((∀ command ∈ populating, command.populates = true) ∧
      (∀ command ∈ planning, command.revises = true) ∧
      start.Along (fun s command => command = .prune → s.NoneRecreated) planning ∧
      (start.performAll planning).tree.order = [2, 11]) ∧
    start.Along (fun s command => command = .prune → (s.perform command).2.CreatedOnce)
      planning := by
  intro populating planning start
  have hPopulates : ∀ command ∈ populating, command.populates = true := by decide
  have hRevises : ∀ command ∈ planning, command.revises = true := by decide
  have hNone : start.Along (fun s command => command = .prune → s.NoneRecreated) planning := by
    decide +kernel
  exact ⟨⟨hPopulates, hRevises, hNone, by decide +kernel⟩,
    (createdOnce_along_iff populating planning hPopulates hRevises).mpr hNone⟩

/-- A partition that was created, destroyed and created again is present, and pruning drops all
three actions. -/
theorem not_createdOnce_of_recreated :
    let s := ({} : Session).performAll [
      .adoptDevice { name := "sda", kind := .disk } "" "",
      .newDevice { name := "sda1", kind := .partition, parents := [2] },
      .schedule (.createDevice 4), .schedule (.destroyDevice 4), .schedule (.createDevice 4)]
    s.registry = [5, 6, 7] ∧ s.prune.2.registry = [] ∧ s.prune.2.tree.order = [2, 4] ∧
      s.prune.2.tree.isThere 4 = false ∧ ¬ s.prune.2.CreatedOnce := by
  decide +kernel

end Session

end StoragePlan

import StoragePlan.Proofs.Links

/-!
# Parent lists without duplicates and cycles

An addition is refused when the member is in the container already, or when the container would come
to stand on itself.  The withdrawal of a removal puts the member back without these checks.

* `DeviceTree.Dag.edit`: **checked changes keep parent lists free of duplicates and cycles**.
* `DeviceTree.Dag.join_iff`: one more member keeps them so exactly when it could be added.
* `Session.dag_along_iff`: a run therefore passes through such trees only **exactly when every
  member that it puts back could be added**.
-/

namespace StoragePlan

open Relation

namespace DeviceTree

variable {t t' : DeviceTree} {c d m p x : ObjectId}

/-- Every parent list names each parent once, and no device is its own ancestor. -/
structure Dag (t : DeviceTree) : Prop where
  nodup : ∀ d, (t.parentsOf d).Nodup
  acyclic : t.Acyclic

theorem nodup_parentsOf_iff :
    (∀ d, (t.parentsOf d).Nodup) ↔ ∀ device ∈ t.devices.items, device.parents.Nodup := by
  constructor
  · intro h device hd
    have hFind : t.device? device.id = some device := (Arena.mem_iff_find? _ device).mp hd
    exact parentsOf_eq hFind ▸ h device.id
  · intro h d
    cases hd : t.device? d with
    | none => simp [parentsOf, hd]
    | some device =>
      rw [parentsOf_eq hd]
      exact h device (Arena.mem_of_find? hd)

instance (t : DeviceTree) : Decidable t.Dag :=
  decidable_of_iff ((∀ device ∈ t.devices.items, device.parents.Nodup) ∧ t.Acyclic)
    ⟨fun h => ⟨nodup_parentsOf_iff.mpr h.1, h.2⟩, fun h => ⟨nodup_parentsOf_iff.mp h.1, h.2⟩⟩

theorem dag_empty : ({} : DeviceTree).Dag :=
  ⟨fun _ => List.nodup_nil, acyclic_iff_onCycle.mpr fun _ h => absurd h List.not_mem_nil⟩

theorem Dag.of_builtOn (h : t.Dag) (hNodup : ∀ d, (t'.parentsOf d).Nodup)
    (hEdges : ∀ d p, t'.BuiltOn d p → t.BuiltOn d p) : t'.Dag :=
  ⟨hNodup, fun d hd => h.acyclic d (TransGen.mono hEdges _ _ hd)⟩

/-! ## One more member -/

/-- The parent edges, and one from `c` to `m`. -/
def BuiltOnWith (t : DeviceTree) (c m d p : ObjectId) : Prop := t.BuiltOn d p ∨ d = c ∧ p = m

/-- A chain of edges of which one is new either avoids the new edge or goes through it. -/
theorem standsOn_of_edge (h : TransGen (t.BuiltOnWith c m) d x) :
    t.StandsOn d x ∨ ReflTransGen t.BuiltOn d c ∧ ReflTransGen t.BuiltOn m x := by
  induction h with
  | single h =>
    rcases h with h | ⟨rfl, rfl⟩
    · exact Or.inl (.single h)
    · exact Or.inr ⟨.refl, .refl⟩
  | tail _ h ih =>
    rcases h with h | ⟨rfl, rfl⟩
    · exact ih.imp (fun hOld => hOld.tail h) fun ⟨hd, hm⟩ => ⟨hd, hm.tail h⟩
    · exact Or.inr ⟨ih.elim TransGen.to_reflTransGen And.left, .refl⟩

/-- The edges of an acyclic tree stay acyclic with a new one exactly when no chain leads back along
it. -/
theorem Acyclic.edge_iff (h : t.Acyclic) :
    (∀ d, ¬ TransGen (t.BuiltOnWith c m) d d) ↔ c ≠ m ∧ ¬ t.StandsOn m c := by
  have hNew : t.BuiltOnWith c m c m := Or.inr ⟨rfl, rfl⟩
  constructor
  · intro h'
    refine ⟨?_, fun hBack => ?_⟩
    · rintro rfl
      exact h' c (.single hNew)
    · have hBack' : TransGen (t.BuiltOnWith c m) m c :=
        TransGen.mono (fun d p hp => Or.inl hp) _ _ hBack
      exact h' c (.head hNew hBack')
  · rintro ⟨hne, hBack⟩ d hd
    rcases standsOn_of_edge hd with hd | ⟨hdc, hmd⟩
    · exact h d hd
    · -- the chain goes through the new edge, and its rest leads from `m` to `c`
      rcases reflTransGen_iff_eq_or_transGen.mp (hmd.trans hdc) with hEq | hBack'
      · exact hne hEq
      · exact hBack hBack'

/-- One more member is one more edge. -/
theorem builtOn_join (hc : (t.device? c).isSome) {change : List ObjectId → List ObjectId}
    (hChange : (change (t.parentsOf c)).Perm (m :: t.parentsOf c)) :
    (t.changeParents c change).BuiltOn = t.BuiltOnWith c m := by
  funext d p
  unfold BuiltOnWith BuiltOn
  rw [parentsOf_changeParents hc change]
  by_cases hdc : d = c
  · subst hdc
    rw [if_pos rfl, hChange.mem_iff, List.mem_cons]
    simp [or_comm]
  · simp [hdc]

/-- One more member keeps a tree free of duplicates and cycles exactly when it is a new one and does
not stand on its container. -/
theorem Dag.join_iff (h : t.Dag) (hc : (t.device? c).isSome)
    {change : List ObjectId → List ObjectId}
    (hChange : (change (t.parentsOf c)).Perm (m :: t.parentsOf c)) :
    (t.changeParents c change).Dag ↔ c ≠ m ∧ ¬ t.StandsOn m c ∧ m ∉ t.parentsOf c := by
  have hParents := parentsOf_changeParents hc change
  have hAcyclic : (t.changeParents c change).Acyclic ↔ c ≠ m ∧ ¬ t.StandsOn m c := by
    rw [← h.acyclic.edge_iff, ← builtOn_join hc hChange]
    rfl
  have hNodup : (∀ d, ((t.changeParents c change).parentsOf d).Nodup) ↔ m ∉ t.parentsOf c := by
    constructor
    · intro hAll
      have hOwn := hAll c
      rw [hParents, if_pos rfl] at hOwn
      exact (List.nodup_cons.mp (hChange.nodup_iff.mp hOwn)).1
    · intro hm d
      rw [hParents]
      split
      · exact hChange.nodup_iff.mpr (List.nodup_cons.mpr ⟨hm, h.nodup c⟩)
      · exact h.nodup d
  constructor
  · intro h'
    obtain ⟨hne, hBack⟩ := hAcyclic.mp h'.acyclic
    exact ⟨hne, hBack, hNodup.mp h'.nodup⟩
  · rintro ⟨hne, hBack, hm⟩
    exact ⟨hNodup.mpr hm, hAcyclic.mpr ⟨hne, hBack⟩⟩

theorem isOk_addMember_iff (hc : (t.device? c).isSome) (hm : (t.device? m).isSome) :
    (t.prepare (.addMember c m)).isOk = true ↔ c ≠ m ∧ ¬ t.StandsOn m c ∧ m ∉ t.parentsOf c := by
  obtain ⟨container, hc⟩ := Option.isSome_iff_exists.mp hc
  obtain ⟨member, hm⟩ := Option.isSome_iff_exists.mp hm
  obtain rfl : container.id = c := Arena.id_of_find? hc
  obtain rfl : member.id = m := Arena.id_of_find? hm
  have hPrepare : t.prepare (.addMember container.id member.id)
      = t.prepareAddMember container member := by
    simp only [prepare, target, hc, hm]
    rfl
  rw [hPrepare, prepareAddMember, parentsOf_eq hc]
  by_cases hne : container.id = member.id
  · simp [hne, Except.isOk, Except.toBool]
  · have hDepends := dependsOn_iff (t := t) (d := member.id) (x := container.id)
    by_cases hBack : t.dependsOn member.id container.id = true
    · simp [hBack, Except.isOk, Except.toBool, (hDepends.mp hBack).2]
    · have hFree : ¬ t.StandsOn member.id container.id :=
        fun h => hBack (hDepends.mpr ⟨Ne.symm hne, h⟩)
      by_cases hNew : member.id ∈ container.parents <;>
        simp [hne, hBack, hNew, hFree, Except.isOk, Except.toBool]

/-! ## Checked changes -/

/-- Storing a device adds edges out of it only, and none leads to it. -/
theorem standsOn_storeDevice {draft : DeviceDraft} {name : String} {number : Int}
    (hLinked : t.Linked) (hStored : ∀ p ∈ draft.parents, (t.device? p).isSome)
    (h : (t.storeDevice draft name number).2.StandsOn d x) :
    (t.device? x).isSome ∧ ((t.device? d).isSome → t.StandsOn d x) := by
  induction h with
  | single h =>
    rcases builtOn_storeDevice h with h | ⟨hNone, hp⟩
    · exact ⟨hLinked.parents _ _ h, fun _ => .single h⟩
    · exact ⟨hStored _ hp, fun hd => absurd hd (by simp [hNone])⟩
  | tail _ h ih =>
    rcases builtOn_storeDevice h with h | ⟨hNone, _⟩
    · exact ⟨hLinked.parents _ _ h, fun hd => (ih.2 hd).tail h⟩
    · exact absurd ih.1 (by simp [hNone])

theorem Dag.storeDevice (h : t.Dag) (hLinked : t.Linked) {draft : DeviceDraft}
    (hStored : ∀ p ∈ draft.parents, (t.device? p).isSome) (hNodup : draft.parents.Nodup)
    (name : String) (number : Int) : (t.storeDevice draft name number).2.Dag := by
  refine ⟨nodup_parentsOf_iff.mpr fun device hd => ?_, fun d hd => ?_⟩
  · obtain ⟨new, hSuits, hDevices⟩ := storeDevice_devices t draft name number
    have hFind := (Arena.mem_iff_find? _ device).mp hd
    rw [hDevices] at hFind
    rcases Arena.of_find?_insert hFind with hFind | ⟨rfl, _⟩
    · exact nodup_parentsOf_iff.mp h.nodup device (Arena.mem_of_find? hFind)
    · rw [hSuits.parents]
      exact hNodup
  · obtain ⟨hThere, hOld⟩ := standsOn_storeDevice hLinked hStored hd
    exact h.acyclic d (hOld hThere)

/-- **Checked changes keep parent lists free of duplicates and cycles.** -/
theorem Dag.edit (h : t.Dag) (hLinked : t.Linked) (hEdit : t.Edit t') : t'.Dag := by
  cases hEdit with
  | layout hLayout =>
    refine h.of_builtOn (fun d => ?_) fun d p hp => hLayout.builtOn_iff.mp hp
    rw [hLayout.parentsOf]
    exact h.nodup d
  | gain hc hm hne hFree hNew =>
    refine (h.join_iff hc (List.perm_append_singleton _ _)).mpr ⟨hne, fun hBack => ?_, hNew⟩
    rw [dependsOn_iff.mpr ⟨Ne.symm hne, hBack⟩] at hFree
    cases hFree
  | lose hSub =>
    exact h.of_builtOn (fun d => (h.nodup d).sublist (parentsOf_sublist hSub d)) fun d p hp =>
      (parentsOf_sublist hSub d).subset hp
  | store hStored hNodup => exact h.storeDevice hLinked hStored hNodup _ _
  | add hAdd =>
    obtain ⟨_, _, _, rfl⟩ := add_ok hAdd
    exact h.of_builtOn h.nodup fun _ _ hp => hp
  | remove hRemove =>
    rw [(remove_eq hRemove).2]
    exact h.of_builtOn h.nodup fun _ _ hp => hp

theorem Dag.edits (h : t.Dag) (hLinked : t.Linked) (hEdits : t.Edits t') : t'.Dag := by
  have hBoth : t'.Dag ∧ t'.Linked := by
    induction hEdits with
    | refl => exact ⟨h, hLinked⟩
    | tail _ hEdit ih => exact ⟨ih.1.edit ih.2 hEdit, ih.2.edit hEdit⟩
  exact hBoth.1

theorem insertAt_perm (position : Nat) (x : ObjectId) (l : List ObjectId) :
    (insertAt position x l).Perm (x :: l) :=
  List.perm_insertIdx _ _ (Nat.min_le_right position l.length)

end DeviceTree

namespace Session

variable {s : Session} {command : Command}

/-- A member that a command puts back into its container could be added to it. -/
def putBackAccepted (s : Session) (command : Command) : Bool :=
  (s.putBack? command).all fun (c, m) => (s.tree.prepare (.addMember c m)).isOk

/-! ## Runs -/

theorem dag_perform_iff (hLinked : s.Linked) (hDag : s.tree.Dag)
    (hOverwrites : command.overwrites = false) :
    (s.perform command).2.tree.Dag ↔ s.putBackAccepted command = true := by
  unfold putBackAccepted
  cases hPut : s.putBack? command with
  | none =>
    have hEdits := perform_edits hOverwrites hPut
    exact iff_of_true (hDag.edits hLinked.tree hEdits) rfl
  | some removal =>
    obtain ⟨hc, hm, position, hTree⟩ := hLinked.perform_of_putBack hPut
    rw [hTree, Option.all_some, hDag.join_iff hc (DeviceTree.insertAt_perm _ _ _),
      DeviceTree.isOk_addMember_iff hc hm]

/-- **A run passes through trees without duplicates and cycles only exactly when every member that
it puts back could be added.** -/
theorem dag_along_iff (commands : List Command)
    (hOverwrites : ∀ command ∈ commands, command.overwrites = false) :
    ({} : Session).Along (fun s command => (s.perform command).2.tree.Dag) commands ↔
    ({} : Session).Along (fun s command => s.putBackAccepted command = true) commands :=
  along_good_iff Linked (fun s => s.tree.Dag) (fun _ _ hCommand h => h.perform hCommand)
    (fun _ _ hCommand hLinked hDag => dag_perform_iff hLinked hDag hCommand)
    linked_empty DeviceTree.dag_empty (along_of_forall hOverwrites _)

/-- The members of a volume group change places, and a mapping is put under an array that it could
stand on. -/
theorem dag_along_of_exchanged_members :
    let commands : List Command := [
      .adoptDevice { name := "sda", kind := .disk } "" "",
      .adoptDevice { name := "sda1", kind := .partition, parents := [2] } "lvmpv" "",
      .adoptDevice { name := "sda2", kind := .partition, parents := [2] } "lvmpv" "",
      .adoptDevice { name := "vg", kind := .volumeGroup, parents := [4, 7] } "" "",
      .schedule (.removeMember 10 4), .schedule (.removeMember 10 7), .cancel 11,
      .schedule (.addMember 10 7), .cancel 13, .cancel 12,
      .propose (.removeMember 10 7), .register 14, .registerOrCancel 14]
    ((∀ command ∈ commands, command.overwrites = false) ∧
      ({} : Session).Along (fun s command => s.putBackAccepted command = true) commands) ∧
    ({} : Session).Along (fun s command => (s.perform command).2.tree.Dag) commands := by
  intro commands
  have hOverwrites : ∀ command ∈ commands, command.overwrites = false := by decide
  have hAccepted : ({} : Session).Along (fun s command => s.putBackAccepted command = true)
      commands := by decide +kernel
  exact ⟨⟨hOverwrites, hAccepted⟩, (dag_along_iff commands hOverwrites).mpr hAccepted⟩

/-- A member that was removed and added again is in its container twice once the removal is
withdrawn; an array that was built on another one while its own place in it was given up stands on
itself. -/
theorem not_dag_of_withdrawn_removal :
    let again : List Command := [
      .adoptDevice { name := "sda", kind := .disk } "" "",
      .adoptDevice { name := "sda1", kind := .partition, parents := [2] } "lvmpv" "",
      .adoptDevice { name := "sda2", kind := .partition, parents := [2] } "lvmpv" "",
      .adoptDevice { name := "vg", kind := .volumeGroup, parents := [4, 7] } "" "",
      .schedule (.removeMember 10 4), .schedule (.addMember 10 4), .cancel 11]
    let turned : List Command := [
      .adoptDevice { name := "sda", kind := .disk } "" "",
      .adoptDevice { name := "md0", kind := .raidArray, parents := [2] } "" "",
      .adoptDevice { name := "md1", kind := .raidArray, parents := [4] } "" "",
      .schedule (.removeMember 6 4), .schedule (.addMember 4 6), .cancel 7]
    (({} : Session).performAll again).tree.parentsOf 10 = [4, 7, 4] ∧
    ¬ (({} : Session).performAll again).tree.Dag ∧
    ¬ (({} : Session).performAll turned).tree.Acyclic := by
  decide +kernel

end Session

end StoragePlan

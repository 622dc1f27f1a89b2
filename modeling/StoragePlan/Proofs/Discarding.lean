import StoragePlan.Proofs.Sorting
import StoragePlan.Proofs.Sweeping

/-!
# What pruning reports

Pruning drops actions at three places: in its first pass, in the turns of the sweeps, and an action
that cancels out drops itself.  The lists of what goes are gathered before any of it is dropped, so
they could name an action twice, or one that is gone.  They do not: each turn starts from the
registry as it is, and what it gathers is part of it.

* `Discards`: all that may differ between a session and the one after some actions are dropped.
* `Discards.trans`: dropping some and then others is dropping both; so the steps of pruning add up.
* `registry_length_sweep`: a sweep that drops something shortens the registry, so
  `sweptOut_pruneObsolete`, the sweeps come to an end.
* `prune_reports`: **what pruning reports is what it did, and nothing else changes.**
-/

namespace StoragePlan

/-- An action after those with some ids are dropped. -/
def Action.discarded (ids : List ObjectId) (a : Action) : Action :=
  if a.id ∈ ids then { a with state := .pruned } else a

@[simp] theorem Action.discarded_id (ids : List ObjectId) (a : Action) :
    (a.discarded ids).id = a.id := by
  unfold discarded
  split <;> rfl

@[simp] theorem Action.discarded_core (ids : List ObjectId) (a : Action) :
    (a.discarded ids).core = a.core := by
  unfold discarded
  split <;> rfl

theorem Action.discarded_discarded (ids ids' : List ObjectId) (a : Action) :
    (a.discarded ids).discarded ids' = a.discarded (ids ++ ids') := by
  by_cases h : a.id ∈ ids <;> by_cases h' : a.id ∈ ids' <;> simp [discarded, h, h']

namespace Session

/-- Some records tell that some actions were pruned: one record for each, in order. -/
structure TellsPruned (s : Session) (ids : List ObjectId) (records : List LogRecord) : Prop where
  actions : records.map LogRecord.action = ids
  numbers : records.map LogRecord.sequence = List.range' s.nextSequence ids.length
  pruned : ∀ record ∈ records, record.level = .info ∧ record.event = .prune ∧
    ∃ reason, record.message = s.describe record.action ++ " (" ++ reason ++ ")"

/-- `s'` is `s` after some registered actions are dropped, each once and in this order. -/
structure Discards (s : Session) (ids : List ObjectId) (s' : Session) : Prop where
  nodup : ids.Nodup
  registered : ids ⊆ s.registry
  registry : s'.registry = s.registry.filter fun id => id ∉ ids
  actions : s'.actions.items = s.actions.items.map (Action.discarded ids)
  tree : s'.tree = s.tree
  serial : s'.nextSerial = s.nextSerial
  sequence : s'.nextSequence = s.nextSequence + ids.length
  log : ∃ records, s'.log = s.log ++ records ∧ s.TellsPruned ids records

variable {s s' s'' : Session} {id : ObjectId} {ids ids' : List ObjectId} {a : Action}

/-! ## Dropping adds up -/

theorem Discards.refl (s : Session) : s.Discards [] s where
  nodup := List.nodup_nil
  registered := List.nil_subset _
  registry := by simp
  actions := (List.map_id'' (fun a => by simp [Action.discarded]) _).symm
  tree := rfl
  serial := rfl
  sequence := rfl
  log := ⟨[], by simp, rfl, rfl, by simp⟩

theorem Discards.action? (h : s.Discards ids s') (id : ObjectId) :
    s'.action? id = (s.action? id).map (Action.discarded ids) :=
  Arena.find?_of_map h.actions (Action.discarded_id ids) id

theorem Discards.sameActions (h : s.Discards ids s') : s.SameActions s' := by
  intro id
  rw [h.action?, Option.map_map]
  exact Option.map_congr fun a _ => a.discarded_core ids

/-- The text of an action does not depend on its state. -/
theorem Discards.describe (h : s.Discards ids s') (id : ObjectId) :
    s'.describe id = s.describe id := by
  unfold Session.describe
  rw [h.action?, h.tree, Option.map_map]
  refine congrArg (Option.getD · _) (Option.map_congr fun a _ => ?_)
  simp only [Function.comp, Action.discarded]
  split <;> rfl

theorem Discards.mem_registry (h : s.Discards ids s') :
    id ∈ s'.registry ↔ id ∈ s.registry ∧ id ∉ ids := by
  rw [h.registry, List.mem_filter, decide_eq_true_eq]

theorem Discards.mem_iff (h : s.Discards ids s') :
    id ∈ ids ↔ id ∈ s.registry ∧ id ∉ s'.registry := by
  rw [h.mem_registry, not_and, not_not]
  exact ⟨fun hid => ⟨h.registered hid, fun _ => hid⟩, fun hid => hid.2 hid.1⟩

theorem TellsPruned.append {records records' : List LogRecord} (h : s.TellsPruned ids records)
    (h' : s'.TellsPruned ids' records') (hDiscards : s.Discards ids s') :
    s.TellsPruned (ids ++ ids') (records ++ records') where
  actions := by rw [List.map_append, h.actions, h'.actions]
  numbers := by
    rw [List.map_append, h.numbers, h'.numbers, hDiscards.sequence, List.length_append,
      List.range'_append_1]
  pruned := by
    intro record hRecord
    rcases List.mem_append.mp hRecord with hRecord | hRecord
    · exact h.pruned record hRecord
    · simpa only [hDiscards.describe] using h'.pruned record hRecord

theorem Discards.trans (h : s.Discards ids s') (h' : s'.Discards ids' s'') :
    s.Discards (ids ++ ids') s'' where
  nodup := List.nodup_append.mpr ⟨h.nodup, h'.nodup, fun _ hid _ hid' hSame =>
    (h.mem_registry.mp (h'.registered hid')).2 (hSame ▸ hid)⟩
  registered := List.append_subset.mpr
    ⟨h.registered, fun _ hid => (h.mem_registry.mp (h'.registered hid)).1⟩
  registry := by
    rw [h'.registry, h.registry, List.filter_filter]
    refine List.filter_congr fun id _ => ?_
    simp [Bool.and_comm]
  actions := by
    rw [h'.actions, h.actions, List.map_map]
    exact List.map_congr_left fun a _ => a.discarded_discarded ids ids'
  tree := h'.tree.trans h.tree
  serial := h'.serial.trans h.serial
  sequence := by rw [h'.sequence, h.sequence, List.length_append, Nat.add_assoc]
  log := by
    obtain ⟨records, hLog, hTells⟩ := h.log
    obtain ⟨records', hLog', hTells'⟩ := h'.log
    exact ⟨records ++ records', by rw [hLog', hLog, List.append_assoc], hTells.append hTells' h⟩

theorem Discards.nodup_registry (h : s.Discards ids s') (hs : s.registry.Nodup) :
    s'.registry.Nodup := by
  rw [h.registry]
  exact hs.filter _

/-- What is dropped and what is left make up the registry. -/
theorem Discards.length (h : s.Discards ids s') (hs : s.registry.Nodup) :
    ids.length + s'.registry.length = s.registry.length := by
  have hPerm : (ids ++ s'.registry).Perm s.registry := by
    refine (List.perm_ext_iff_of_nodup ?_ hs).mpr fun id => ?_
    · refine List.nodup_append.mpr ⟨h.nodup, h.nodup_registry hs, fun id hid _ hid' hSame => ?_⟩
      exact (h.mem_iff.mp hid).2 (hSame ▸ hid')
    · rw [List.mem_append, h.mem_registry]
      refine ⟨fun hid => hid.elim (fun hid => h.registered hid) And.left, fun hid => ?_⟩
      by_cases hDropped : id ∈ ids
      · exact Or.inl hDropped
      · exact Or.inr ⟨hid, hDropped⟩
  rw [← hPerm.length_eq, List.length_append]

/-! ## The steps of pruning -/

theorem discards_pruneAction (reason : String) (hid : id ∈ s.registry) :
    s.Discards [id] (s.pruneAction reason id) where
  nodup := List.nodup_singleton id
  registered := List.cons_subset.mpr ⟨hid, List.nil_subset _⟩
  registry := by
    show s.registry.filter _ = _
    simp
  actions := by
    show s.actions.items.map _ = _
    refine List.map_congr_left fun a _ => ?_
    simp [Action.discarded, Identified.id]
  tree := rfl
  serial := rfl
  sequence := rfl
  log := by
    refine ⟨_, rfl, rfl, rfl, fun record hRecord => ?_⟩
    obtain rfl := List.mem_singleton.mp hRecord
    exact ⟨rfl, rfl, reason, rfl⟩

theorem discards_pruneAll (reason : String) (hNodup : ids.Nodup) (hIds : ids ⊆ s.registry) :
    s.Discards ids (s.pruneAll reason ids) := by
  unfold pruneAll
  induction ids generalizing s with
  | nil => exact Discards.refl s
  | cons id ids ih =>
    obtain ⟨hNew, hNodup⟩ := List.nodup_cons.mp hNodup
    obtain ⟨hid, hIds⟩ := List.cons_subset.mp hIds
    have hFirst := discards_pruneAction reason hid
    refine hFirst.trans (ih hNodup fun other hOther => hFirst.mem_registry.mpr ⟨hIds hOther, ?_⟩)
    rw [List.mem_singleton]
    exact fun hSame => hNew (hSame ▸ hOther)

/-- What is gathered from the plan is part of the registry. -/
theorem ids_plan_sublist (s : Session) : (s.plan.map Action.id).Sublist s.registry := by
  unfold plan
  induction s.registry with
  | nil => exact List.Sublist.refl _
  | cons id ids ih =>
    cases ha : s.action? id with
    | none =>
      rw [List.filterMap_cons_none ha]
      exact ih.cons id
    | some a =>
      rw [List.filterMap_cons_some ha, List.map_cons, id_of_action? ha]
      exact ih.cons_cons id

theorem discards_pruneWhere (hs : s.registry.Nodup) (reason : String) (p : Action → Bool) :
    s.Discards ((s.plan.filter p).map Action.id)
      (s.pruneAll reason ((s.plan.filter p).map Action.id)) := by
  have hSublist := ((List.filter_sublist (p := p)).map Action.id).trans s.ids_plan_sublist
  exact discards_pruneAll reason (hs.sublist hSublist) hSublist.subset

theorem discards_withoutTransient (hs : s.registry.Nodup) :
    s.Discards s.transientActions s.withoutTransient :=
  discards_pruneWhere hs _ _

theorem discards_pruneFor (hs : s.registry.Nodup) (ha : a ∈ s.plan) :
    s.Discards (s.pruneFor a).1 (s.pruneFor a).2 := by
  have hOthers := discards_pruneWhere hs ("obsoleted by " ++ a.displayId)
    fun b => b.id != a.id && s.tree.obsoletes a b
  unfold pruneFor
  dsimp only
  split
  · refine hOthers.trans (discards_pruneAction _ (hOthers.mem_registry.mpr ?_))
    exact ⟨(mem_plan_iff.mp ha).1, fun hid => ((mem_ids_obsoletedBy ha).mp hid).2.1 rfl⟩
  · exact hOthers

theorem discards_sweepOver (hs : s.registry.Nodup) (ids : List ObjectId) :
    s.Discards (s.sweepOver ids).1 (s.sweepOver ids).2 := by
  induction ids generalizing s with
  | nil => exact Discards.refl s
  | cons id ids ih =>
    unfold sweepOver
    split
    · exact ih hs
    · rename_i a hTurn
      have hFirst := discards_pruneFor hs (mem_plan_of_turn hTurn).1
      exact hFirst.trans (ih (hFirst.nodup_registry hs))

theorem discards_sweep (hs : s.registry.Nodup) : s.Discards s.sweep.1 s.sweep.2 :=
  discards_sweepOver hs _

/-! ## The sweeps come to an end -/

/-- Every sweep shortens the registry by what it drops. -/
theorem registry_length_sweep (hs : s.registry.Nodup) :
    s.sweep.1.length + s.sweep.2.registry.length = s.registry.length :=
  (discards_sweep hs).length hs

/-- Sweeps repeated as long as they drop something, with all that they drop. -/
inductive SweptOut : Session → List ObjectId → Session → Prop
  | done {s : Session} (hNone : s.sweep.1 = []) : SweptOut s s.sweep.1 s.sweep.2
  | again {s s' : Session} {ids : List ObjectId} (hSome : s.sweep.1 ≠ [])
    (rest : SweptOut s.sweep.2 ids s') : SweptOut s (s.sweep.1 ++ ids) s'

/-- The sweeps come to an end: the length of the registry tells whether one has dropped anything. -/
theorem sweptOut_pruneObsolete (hs : s.registry.Nodup) :
    s.SweptOut s.pruneObsolete.1 s.pruneObsolete.2 := by
  refine pruneObsolete_induction (motive := fun s answer =>
    s.registry.Nodup → s.SweptOut answer.1 answer.2) (fun s hStays hs => ?_)
    (fun s hShrinks ih hs => ?_) s hs
  · have hLength := registry_length_sweep hs
    exact .done (List.length_eq_zero_iff.mp (by omega))
  · have hLength := registry_length_sweep hs
    refine .again (fun hNone => ?_) (ih ((discards_sweep hs).nodup_registry hs))
    rw [hNone, List.length_nil] at hLength
    omega

theorem SweptOut.discards (h : SweptOut s ids s') (hs : s.registry.Nodup) :
    s.Discards ids s' := by
  induction h with
  | done _ => exact discards_sweep hs
  | again _ _ ih =>
    have hFirst := discards_sweep hs
    exact hFirst.trans (ih (hFirst.nodup_registry hs))

theorem discards_prune (hs : s.registry.Nodup) : s.Discards s.prune.1.value s.prune.2 := by
  have hFirst := discards_withoutTransient hs
  have hNodup := hFirst.nodup_registry hs
  exact hFirst.trans ((sweptOut_pruneObsolete hNodup).discards hNodup)

/-! ## Sorting afterwards -/

theorem Discards.waitsOn (h : s.Discards ids s') {a b : ObjectId} (hab : s'.WaitsOn a b) :
    s.WaitsOn a b := by
  obtain ⟨ha, hb, hne, hRequires⟩ := hab
  rw [h.sameActions.requires h.tree] at hRequires
  exact ⟨(h.mem_registry.mp ha).1, (h.mem_registry.mp hb).1, hne, hRequires⟩

/-- What is left of a plan can be sorted if the plan could. -/
theorem sort_ok_prune (hs : s.Listed) (h : s.sort.1.ok = true) : s.prune.2.sort.1.ok = true := by
  rw [sort_ok_iff hs] at h
  rw [sort_ok_iff hs.prune]
  have hPrune := discards_prune hs.nodup
  exact fun a hCycle => h a (Relation.TransGen.mono (fun _ _ => hPrune.waitsOn) a a hCycle)

/-- An action is dropped exactly when its state becomes pruned. -/
theorem Discards.mem_iff_state (h : s.Discards ids s') (hs : s.Listed) : id ∈ ids ↔
    ∃ a, s.action? id = some a ∧ a.state ≠ .pruned ∧
      s'.action? id = some { a with state := .pruned } := by
  constructor
  · intro hid
    obtain ⟨a, ha, hState⟩ := (hs.mem_iff id).mp (h.registered hid)
    refine ⟨a, ha, by simp [hState], ?_⟩
    rw [h.action?, ha, Option.map_some, Action.discarded, id_of_action? ha, if_pos hid]
  · rintro ⟨a, ha, hState, hAfter⟩
    by_contra hid
    rw [h.action?, ha, Option.map_some, Action.discarded, id_of_action? ha, if_neg hid,
      Option.some_inj] at hAfter
    exact hState (congrArg Action.state hAfter)

/-! ## The report -/

/-- **What pruning reports is what it did.**  Pruning comes to an end and succeeds: after the first
pass nothing is left for a second one, and the sweeps go on only until one drops nothing.  Its value
lists exactly the actions that left the registry, each once; exactly these change their state, to
pruned, and are the updated ids; one record tells of each of them, in the same order.  The rest of
the registry keeps its order, the tree with every device and format stays as it is, and a plan that
could be sorted still can. -/
theorem prune_reports (commands : List Command) :
    let s := ({} : Session).performAll commands
    let pruned := s.prune.1.value
    let after := s.prune.2
    (s.withoutTransient.transientDevices = [] ∧
      ∃ swept, s.withoutTransient.SweptOut swept after ∧ pruned = s.transientActions ++ swept) ∧
    s.prune.1.ok = true ∧
    s.prune.1.changes = { updated := pruned } ∧
    s.Discards pruned after ∧
    (∀ id, id ∈ pruned ↔ id ∈ s.registry ∧ id ∉ after.registry) ∧
    (∀ id, id ∈ pruned ↔ ∃ a, s.action? id = some a ∧ a.state ≠ .pruned ∧
      after.action? id = some { a with state := .pruned }) ∧
    (s.sort.1.ok = true → after.sort.1.ok = true) := by
  intro s pruned after
  have hs : s.Listed := listed_empty.performAll commands
  have hDiscards : s.Discards pruned after := discards_prune hs.nodup
  have hNodup := (discards_withoutTransient hs.nodup).nodup_registry hs.nodup
  exact ⟨⟨s.transientDevices_withoutTransient, _, sweptOut_pruneObsolete hNodup, rfl⟩, rfl, rfl,
    hDiscards, fun _ => hDiscards.mem_iff, fun _ => hDiscards.mem_iff_state hs, sort_ok_prune hs⟩

/-- A partition is planned and given up again, another one gets a second filesystem instead of the
first, and a filesystem goes for good. -/
theorem prune_reports_of_second_thoughts :
    let s := ({} : Session).performAll [
      .adoptDevice { name := "sda", kind := .disk, size := gibibytes 100 } "disklabel" "",
      .adoptDevice { name := "sda1", kind := .partition, size := gibibytes 10, parents := [2] }
        "ext4" "/",
      .newDevice { name := "sda2", kind := .partition, size := gibibytes 10, parents := [2] },
      .newDevice { name := "sda3", kind := .partition, size := gibibytes 10, parents := [2] },
      .newFormat "ext4" "/home" false, .newFormat "swap" "" false,
      .schedule (.createDevice 8), .schedule (.createDevice 10), .schedule (.createFormat 10 11),
      .schedule (.destroyDevice 8), .schedule (.createFormat 10 12), .schedule (.destroyFormat 5)]
    (s.registry = [13, 14, 15, 16, 17, 19] ∧ s.prune.1.value = [13, 16, 15] ∧
      s.prune.2.registry = [14, 17, 19] ∧ s.sort.1.ok = true) ∧
    s.Discards s.prune.1.value s.prune.2 ∧
    s.prune.2.sort.1.ok = true := by
  intro s
  have hOk : s.sort.1.ok = true := by decide +kernel
  obtain ⟨_, _, _, hDiscards, _, _, hSort⟩ := prune_reports _
  exact ⟨⟨by decide +kernel, by decide +kernel, by decide +kernel, hOk⟩, hDiscards, hSort hOk⟩

end Session

end StoragePlan

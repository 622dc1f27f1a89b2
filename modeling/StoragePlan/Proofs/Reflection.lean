import StoragePlan.Proofs.Replay

/-!
# The tree reflects the plan

The slots of the tree hold what the effects of the registered actions make of the starting state, in
the order of registration (`Reflects`), as long as an action is withdrawn only if it passes all newer
ones.  A withdrawn action writes back what its slot held when it was constructed; a newer action that
replaced the content or the size is overwritten by this, although it is still registered.

* `Reflects.schedule`: **a scheduled action takes effect on top of the plan**.
* `Reflects.cancel`: **a free action is withdrawn from the plan and from the tree**.
* `read_performAll_eq_replay`: the two together, for every run.
-/

namespace StoragePlan.Session

open Function

variable {s s' : Session} {start : Slot → Reading} {a : Action} {id : ObjectId}

/-- Whether an action is registered and passes all newer registered ones. -/
def isFree (s : Session) (id : ObjectId) : Bool :=
  match s.plan.dropWhile (·.id ≠ id) with
  | [] => false
  | a :: newer => newer.all a.passes

/-- A call that succeeds in scheduling an action, or in withdrawing a free one. -/
def inOrder (s : Session) : Command → Bool
  | .schedule p => (s.schedule p).1.ok
  | .cancel id => (s.cancel id).1.ok && s.isFree id
  | _ => false

/-- The slots of the tree hold what the plan makes of the start, and the plan remembers what every
action displaced. -/
structure Reflects (start : Slot → Reading) (s : Session) : Prop where
  linked : s.Linked
  listed : s.Listed
  reads : s.tree.read = replay start s.plan
  remembers : Remembers start s.plan
  formats : ∀ a ∈ s.plan, ∀ f ∈ a.resized?, (s.tree.format? f).isSome

/-! ## The plan after a call -/

theorem plan_of_registered (hListed : s.Listed) {actions : Arena Action} {t : DeviceTree}
    (hInsert : s.actions.insert? a = some actions)
    (hSame : ({ s with tree := t, actions, registry := s.registry ++ [a.id] }.setState a.id
      .registered).Same s') : s'.plan = s.plan ++ [{ a with state := .registered }] := by
  rw [hSame.plan]
  unfold plan
  show (s.registry ++ [a.id]).filterMap _ = _
  rw [List.filterMap_append]
  congr 1
  · refine List.filterMap_congr fun id hid => ?_
    obtain ⟨b, hb, _⟩ := (hListed.mem_iff id).mp hid
    rw [hb]
    exact action?_of_new hInsert rfl .registered hb
  · rw [List.filterMap_cons_some (action?_self_of_new hInsert rfl .registered), List.filterMap_nil]

theorem plan_withdrawn (s : Session) (t : DeviceTree) (id : ObjectId) :
    ({ s.drop id .cancelled with tree := t }.setState id .cancelled).plan
      = s.plan.filter (·.id ≠ id) := by
  unfold plan
  show (s.registry.filter (· ≠ id)).filterMap _ = _
  rw [List.filterMap_filter, List.filter_filterMap]
  refine List.filterMap_congr fun other _ => ?_
  have hFilter : (s.action? other).filter (·.id ≠ id)
      = if other = id then none else s.action? other := by
    cases ha : s.action? other with
    | none => simp
    | some a =>
      by_cases hne : other = id <;> simp [Option.filter, id_of_action? ha, hne]
  rw [hFilter]
  by_cases hne : other = id
  · simp [hne]
  · rw [action?_withdrawn s t hne]
    simp [hne]

/-- A free action, and the plan before and after it. -/
theorem exists_of_isFree (hFree : s.isFree id = true) :
    ∃ a before after, s.action? id = some a ∧ s.plan = before ++ a :: after ∧
      ∀ b ∈ after, a.passes b = true := by
  unfold isFree at hFree
  cases hDrop : s.plan.dropWhile (·.id ≠ id) with
  | nil =>
    rw [hDrop] at hFree
    cases hFree
  | cons a after =>
    rw [hDrop] at hFree
    have hPlan : s.plan = s.plan.takeWhile (·.id ≠ id) ++ a :: after := by
      rw [← hDrop, List.takeWhile_append_dropWhile]
    have hId : a.id = id := by
      have hHead := List.head_dropWhile_not (fun b : Action => decide (b.id ≠ id)) (l := s.plan)
        (hDrop ▸ List.cons_ne_nil a after)
      simpa only [hDrop, List.head_cons, decide_eq_false_iff_not, ne_eq, not_not] using hHead
    have hIn : a ∈ s.plan := by
      rw [hPlan]
      exact List.mem_append_right _ List.mem_cons_self
    exact ⟨a, _, after, hId ▸ (mem_plan_iff.mp hIn).2, hPlan, List.all_eq_true.mp hFree⟩

theorem Listed.filter_plan (hListed : s.Listed) {before after : List Action}
    (hPlan : s.plan = before ++ a :: after) : s.plan.filter (·.id ≠ a.id) = before ++ after := by
  have hNodup : (s.plan.map Action.id).Nodup := hListed.ids_plan ▸ hListed.nodup
  rw [hPlan, List.map_append, List.map_cons] at hNodup
  have hKept : ∀ b ∈ before ++ after, b.id ≠ a.id := by
    obtain ⟨_, hRest, hApart⟩ := List.nodup_append.mp hNodup
    intro b hb
    rcases List.mem_append.mp hb with hb | hb
    · exact hApart b.id (List.mem_map_of_mem hb) a.id List.mem_cons_self
    · intro hId
      exact (List.nodup_cons.mp hRest).1 (hId ▸ List.mem_map_of_mem hb)
  rw [hPlan, List.filter_append, List.filter_cons_of_neg (by simp), ← List.filter_append,
    List.filter_eq_self]
  intro b hb
  exact decide_eq_true (hKept b hb)

/-! ## Scheduling and withdrawing -/

theorem reflects_of_plan_nil (hLinked : s.Linked) (hListed : s.Listed) (hPlan : s.plan = []) :
    Reflects s.tree.read s := by
  refine ⟨hLinked, hListed, ?_, ?_, ?_⟩ <;> rw [hPlan]
  · rfl
  · trivial
  · exact fun a ha => absurd ha List.not_mem_nil

/-- **A scheduled action takes effect on top of the plan.** -/
theorem Reflects.schedule (h : Reflects start s) {p : Proposal}
    (hOk : (s.schedule p).1.ok = true) : Reflects start (s.schedule p).2 := by
  have hLinked := linked_kept.schedule s p h.linked
  have hListed := h.listed.schedule p
  cases scheduled s p with
  | refused hRefused hSame => simp [hRefused] at hOk
  | dropped preparation hPrepares hTaken hRefused hSame => simp [hRefused] at hOk
  | takenBack preparation actions cause hPrepares hInsert hApply hRefused hSame =>
    simp [hRefused] at hOk
  | registered preparation actions t changes hPrepares hInsert hApply _ hValue hSame =>
    have hPlan := plan_of_registered h.listed hInsert hSame
    have hCarried : (s.carryOut preparation).tree.read = preparation.tree.read := rfl
    have hRead : t.read = act s.tree.read (s.actionOf preparation) :=
      hPrepares.read_registered rfl rfl hCarried hApply
    have hTree : (s.schedule p).2.tree = t := hSame.tree
    refine ⟨hLinked, hListed, ?_, ?_, ?_⟩
    · rw [hTree, hPlan, replay_append, hRead, h.reads]
      rfl
    · rw [hPlan]
      refine remembers_append.mpr ⟨h.remembers, ?_, trivial⟩
      have hRecords := carryOut_records (s := s) hPrepares
      rw [← h.reads]
      exact hPrepares.restorable rfl rfl hRecords hApply
    · have hIds := DeviceTree.moves_ids (DeviceTree.applyRegistration_ok hApply)
      intro a ha f hf
      rw [hTree, hIds.isSome_format]
      rw [hPlan] at ha
      rcases List.mem_append.mp ha with ha | ha
      · exact hPrepares.isSome_format (h.formats a ha f hf)
      · rw [List.mem_singleton.mp ha] at hf
        exact hPrepares.isSome_format (hPrepares.isSome_resized rfl f hf)

/-- **A free action is withdrawn from the plan and from the tree.** -/
theorem Reflects.cancel (h : Reflects start s) (hOk : (s.cancel id).1.ok = true)
    (hFree : s.isFree id = true) : Reflects start (s.cancel id).2 := by
  have hLinked := h.linked.cancel id
  have hListed := h.listed.cancel id
  obtain ⟨a, before, after, ha, hPlan, hPasses⟩ := exists_of_isFree hFree
  have hIn : a ∈ s.plan := by simp [hPlan]
  have hId : a.id = id := id_of_action? ha
  cases cancelled s id with
  | refused hRefused hSame => simp [hRefused] at hOk
  | constructed b hb hState _ hSame =>
    rw [ha, Option.some_inj] at hb
    exact absurd (mem_plan_iff.mp hIn).1 (h.listed.notMem_of_state (hId.symm ▸ ha)
      (by simp [hb, hState]))
  | registered b t changes hb hState hUndo _ hSame =>
    obtain rfl : a = b := Option.some.inj (ha.symm.trans hb)
    have hAfter : (s.cancel id).2.plan = before ++ after := by
      rw [hSame.plan, plan_withdrawn, ← hId]
      exact h.listed.filter_plan hPlan
    have hRead := DeviceTree.read_undone (h.linked.device id a ha) (h.linked.container id a ha)
      (h.formats a hIn) hUndo
    have hRemembers := h.remembers
    rw [hPlan] at hRemembers
    obtain ⟨hLeft, hRest⟩ := hRemembers.withdraw hPasses
    refine ⟨hLinked, hListed, ?_, hAfter ▸ hRest, ?_⟩
    · rw [hAfter, hSame.tree, ← hLeft, ← hPlan, ← h.reads]
      exact hRead
    · have hMoves := DeviceTree.moves_ids (DeviceTree.undoRegistration_ok hUndo)
      intro b hb f hf
      rw [hAfter] at hb
      have hThere : b ∈ s.plan := by
        rw [hPlan]
        rcases List.mem_append.mp hb with hb | hb
        · exact List.mem_append_left _ hb
        · exact List.mem_append_right _ (List.mem_cons_of_mem a hb)
      rw [hSame.tree]
      exact (t.undoConstruction_ids a).isSome_format.mpr
        (hMoves.isSome_format.mpr (h.formats b hThere f hf))

theorem Reflects.perform (h : Reflects start s) {command : Command}
    (hInOrder : s.inOrder command = true) : Reflects start (s.perform command).2 := by
  cases command with
  | schedule p => exact h.schedule hInOrder
  | cancel id =>
    obtain ⟨hOk, hFree⟩ := Bool.and_eq_true_iff.mp hInOrder
    exact h.cancel hOk hFree
  | _ => cases hInOrder

/-! ## Runs -/

theorem perform_registry_of_makes {command : Command} (h : command.makes = true) (s : Session) :
    (s.perform command).2.registry = s.registry := by
  cases command with
  | newDevice draft => exact answerTree_registry s _ _
  | newFormat typeName mountPoint onMedia => exact answerTree_registry s _ _
  | adoptDevice draft typeName mountPoint =>
    obtain ⟨t, hTree⟩ := adoptDevice_snd s draft typeName mountPoint
    show (s.adoptDevice draft typeName mountPoint).2.registry = s.registry
    rw [hTree]
  | _ => cases h

theorem performAll_registry_of_makes {commands : List Command}
    (hMakes : ∀ command ∈ commands, command.makes = true) (s : Session) :
    (s.performAll commands).registry = s.registry :=
  (along_of_forall hMakes s).performAll (I := fun s' => s'.registry = s.registry)
    (fun s' _ hCommand h => (perform_registry_of_makes hCommand s').trans h) rfl

/-- **The tree reflects the plan.**  Devices and formats are taken in and made, and then actions are
scheduled and withdrawn.  As long as every call succeeds and only free actions are withdrawn, the
present devices, the format, target size and parents of every device and the target size of every
format are what the effects of the registered actions, in the order of registration, make of the
start. -/
theorem read_performAll_eq_replay (making planning : List Command)
    (hMakes : ∀ command ∈ making, command.makes = true) :
    let start := ({} : Session).performAll making
    let s := start.performAll planning
    start.Along (fun s command => s.inOrder command = true) planning →
      s.tree.read = replay start.tree.read s.plan := by
  intro start s hInOrder
  have hLinked : start.Linked := linked_empty.performAll fun command hCommand =>
    Command.overwrites_eq_false (Or.inl (hMakes command hCommand))
  have hPlan : start.plan = [] := by
    rw [plan, performAll_registry_of_makes hMakes]
    rfl
  have hStart := reflects_of_plan_nil hLinked (listed_empty.performAll making) hPlan
  exact (hInOrder.performAll (I := Reflects start.tree.read)
    (fun _ _ hCommand h => h.perform hCommand) hStart).reads

/-- A change of mind about a format, and a member that goes back into its group although another one
was added after it. -/
theorem read_performAll_of_second_thoughts :
    let making : List Command := [
      .adoptDevice { name := "sda", kind := .disk, size := gibibytes 100 } "" "",
      .adoptDevice { name := "sda1", kind := .partition, size := gibibytes 10, parents := [2] }
        "ext4" "/",
      .adoptDevice { name := "sda2", kind := .partition, size := gibibytes 10, parents := [2] }
        "lvmpv" "",
      .adoptDevice { name := "vg", kind := .volumeGroup, parents := [7] } "" "",
      .newFormat "xfs" "/" false, .newFormat "swap" "" false]
    let planning : List Command := [.schedule (.resizeFormat 4 (gibibytes 4)),
      .schedule (.resizeDevice 4 (gibibytes 5)), .schedule (.createFormat 4 11),
      .schedule (.removeMember 10 7), .schedule (.addMember 10 4), .schedule (.createFormat 4 12),
      .cancel 16, .cancel 18, .schedule (.destroyFormat 7), .cancel 13]
    let start := ({} : Session).performAll making
    let s := start.performAll planning
    ((∀ command ∈ making, command.makes = true) ∧
      start.Along (fun s command => s.inOrder command = true) planning ∧
      s.plan.map Action.id = [14, 15, 17, 20] ∧ s.tree.parentsOf 10 = [7, 4]) ∧
    s.tree.read = replay start.tree.read s.plan := by
  intro making planning
  have hMakes : ∀ command ∈ making, command.makes = true := by decide
  have hRead := read_performAll_eq_replay making planning hMakes
  exact ⟨⟨hMakes, by decide +kernel, by decide +kernel⟩, hRead (by decide +kernel)⟩

/-- Two formats are put on a partition, and the first of them is withdrawn: the plan still puts the
second one there, but the tree shows the format that the partition had at the start. -/
theorem read_ne_replay_of_older_withdrawn :
    let making : List Command := [
      .adoptDevice { name := "sda", kind := .disk, size := gibibytes 100 } "" "",
      .adoptDevice { name := "sda1", kind := .partition, size := gibibytes 10, parents := [2] }
        "ext4" "/",
      .newFormat "xfs" "/" false, .newFormat "swap" "" false]
    let planning : List Command := [.schedule (.createFormat 4 6), .schedule (.createFormat 4 7)]
    let start := ({} : Session).performAll making
    let planned := start.performAll planning
    let s := (planned.cancel 8).2
    planned.registry = [8, 9] ∧ (planned.cancel 8).1.ok = true ∧ s.registry = [9] ∧
      s.tree.read (.content 4) = .object (some 5) ∧
      replay start.tree.read s.plan (.content 4) = .object (some 7) := by
  decide +kernel

end StoragePlan.Session

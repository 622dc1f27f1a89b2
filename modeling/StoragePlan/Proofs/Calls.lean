import StoragePlan.Session.Command

/-!
# What the calls of a session do

Each call either leaves the session as it was, up to its log, or makes one change that can be
written down.  The theorems `propose_cases`, `register_cases`, `cancel_cases` and so on list the
possibilities, refusals included, so that no later proof opens the calls again.

Scheduling, taking down a stack, pruning and taking in the demonstration layout are made of other
calls: `schedule_preserves`, `removeStack_preserves`, `prune_preserves` and `adoptDemo_preserves`
say that they keep what those calls keep.  `Kept.perform` says so of the commands.
-/

namespace StoragePlan

/-- Whether a command writes values straight into what is stored, or replaces the counter from which
ids are drawn. -/
def Command.overwrites : Command → Bool
  | editDevice .. | editFormat .. | setNextId _ => true
  | _ => false

/-- Whether a command writes values straight into what is stored. -/
def Command.edits : Command → Bool
  | editDevice .. | editFormat .. => true
  | _ => false

/-- Whether a command replaces the counter from which ids are drawn. -/
def Command.renumbers : Command → Bool
  | setNextId _ => true
  | _ => false

/-- Whether a command takes in or makes a device or a format. -/
def Command.makes : Command → Bool
  | newDevice _ | newFormat .. | adoptDevice .. => true
  | _ => false

/-- Whether a command schedules or withdraws an action. -/
def Command.schedules : Command → Bool
  | schedule _ | cancel _ => true
  | _ => false

/-- Whether a command may withdraw an action by itself. -/
def Command.withdraws : Command → Bool
  | cancel _ | registerOrCancel _ => true
  | _ => false

theorem Command.overwrites_eq_false {command : Command}
    (h : command.makes = true ∨ command.schedules = true) : command.overwrites = false := by
  cases command <;> first | rfl | (rcases h with h | h <;> cases h)

theorem Command.edits_of_overwrites {command : Command} (h : command.overwrites = false) :
    command.edits = false := by
  cases command <;> first | rfl | cases h

theorem Command.renumbers_of_overwrites {command : Command} (h : command.overwrites = false) :
    command.renumbers = false := by
  cases command <;> first | rfl | cases h

namespace Session

/-! ## The arena of actions -/

theorem action?_setState (s : Session) (id : ObjectId) (state : ActionState) (other : ObjectId) :
    (s.setState id state).action? other
      = (s.action? other).map fun a => if other = id then { a with state } else a :=
  Arena.find?_modify s.actions id (fun a => { a with state }) (fun _ => rfl) other

theorem action?_drop (s : Session) (id : ObjectId) (state : ActionState) (other : ObjectId) :
    (s.drop id state).action? other
      = (s.action? other).map fun a => if other = id then { a with state } else a :=
  action?_setState { s with registry := s.registry.filter (· ≠ id) } id state other

theorem id_of_action? {s : Session} {id : ObjectId} {a : Action} (h : s.action? id = some a) :
    a.id = id :=
  Arena.id_of_find? h

theorem mem_plan_iff {s : Session} {a : Action} :
    a ∈ s.plan ↔ a.id ∈ s.registry ∧ s.action? a.id = some a := by
  rw [plan, List.mem_filterMap]
  constructor
  · rintro ⟨id, hid, ha⟩
    obtain rfl := id_of_action? ha
    exact ⟨hid, ha⟩
  · exact fun h => ⟨a.id, h⟩

theorem eq_of_mem_plan {s : Session} {a b : Action} (ha : a ∈ s.plan) (hb : b ∈ s.plan)
    (h : a.id = b.id) : a = b := by
  have ha := (mem_plan_iff.mp ha).2
  have hb := (mem_plan_iff.mp hb).2
  rw [h, hb] at ha
  exact (Option.some.inj ha).symm

/-- A relation that holds of two ids is one of the actions with these ids. -/
theorem exists_of_related {s : Session} {related : Action → Action → Bool} {a b : ObjectId}
    (h : (match s.action? a, s.action? b with
      | some x, some y => related x y
      | _, _ => false) = true) :
    ∃ x y, s.action? a = some x ∧ s.action? b = some y ∧ related x y = true := by
  cases hA : s.action? a with
  | none => simp [hA] at h
  | some x =>
    cases hB : s.action? b with
    | none => simp [hA, hB] at h
    | some y => exact ⟨x, y, rfl, rfl, by simpa [hA, hB] using h⟩

theorem exists_of_requires {s : Session} {a b : ObjectId} (h : s.requires a b = true) :
    ∃ x y, s.action? a = some x ∧ s.action? b = some y ∧ s.tree.requires x y = true :=
  exists_of_related h

theorem exists_of_obsoletes {s : Session} {a b : ObjectId} (h : s.obsoletes a b = true) :
    ∃ x y, s.action? a = some x ∧ s.action? b = some y ∧ s.tree.obsoletes x y = true :=
  exists_of_related h

/-! ## Constructing -/

theorem construct_cases (s : Session) (p : Preparation) :
    (s.actions.insert? (s.actionOf p) = none ∧ (s.construct p).2 = s.carryOut p) ∨
    ∃ actions message, s.actions.insert? (s.actionOf p) = some actions ∧
      (s.construct p).2 = ({ s.carryOut p with actions }).record .info .construct
        (s.actionOf p).id message := by
  have hActions : (s.carryOut p).actions = s.actions := rfl
  unfold construct
  simp only [hActions]
  cases h : s.actions.insert? (s.actionOf p) with
  | none => exact Or.inl ⟨rfl, rfl⟩
  | some actions => exact Or.inr ⟨actions, _, rfl, rfl⟩

/-- A proposal changes nothing, or its preparation is carried out, with the action or, when the id
of the action is taken, without it. -/
theorem propose_cases (s : Session) (p : Proposal) :
    (s.propose p).2 = s ∨
    ∃ preparation, s.tree.prepare p = .ok preparation ∧
      ((s.actions.insert? (s.actionOf preparation) = none ∧
        (s.propose p).2 = s.carryOut preparation) ∨
      ∃ actions message, s.actions.insert? (s.actionOf preparation) = some actions ∧
        (s.propose p).2 = ({ s.carryOut preparation with actions }).record .info .construct
          (s.actionOf preparation).id message) := by
  unfold propose
  cases h : s.tree.prepare p with
  | error cause => exact Or.inl rfl
  | ok preparation => exact Or.inr ⟨preparation, rfl, construct_cases s preparation⟩

/-! ## Registering and withdrawing -/

theorem register_cases (s : Session) (id : ObjectId) :
    (s.register id).2 = s ∨
    (∃ message, (s.register id).2 = s.record .warning .reject id message) ∨
    ∃ a t changes message, s.action? id = some a ∧ a.state = .constructed ∧
      s.tree.applyRegistration a = .ok (t, changes) ∧
      (s.register id).2
        = ({ s with tree := t, registry := s.registry ++ [id] }.setState id .registered).record
          .info .register id message := by
  unfold register
  cases ha : s.action? id with
  | none => exact Or.inl rfl
  | some a =>
    by_cases hState : a.state = .constructed
    · cases hApply : s.tree.applyRegistration a with
      | error cause =>
        simp only [hState, ne_eq, not_true_eq_false, if_false, hApply]
        exact Or.inr (Or.inl ⟨_, rfl⟩)
      | ok result =>
        simp only [hState, ne_eq, not_true_eq_false, if_false, hApply]
        exact Or.inr (Or.inr ⟨a, result.1, result.2, _, rfl, hState, hApply, rfl⟩)
    · simp only [hState, ne_eq, not_false_eq_true, if_true]
      exact Or.inr (Or.inl ⟨_, rfl⟩)

theorem cancel_cases (s : Session) (id : ObjectId) :
    (s.cancel id).2 = s ∨
    (∃ message, (s.cancel id).2 = s.record .warning .reject id message) ∨
    (∃ a message, s.action? id = some a ∧ a.state = .constructed ∧
      (s.cancel id).2
        = ({ s with tree := (s.tree.undoConstruction a).1 }.setState id .cancelled).record
          .info .cancel id message) ∨
    ∃ a t changes message, s.action? id = some a ∧ a.state = .registered ∧
      s.tree.undoRegistration a = .ok (t, changes) ∧
      (s.cancel id).2
        = ({ s.drop id .cancelled with tree := (t.undoConstruction a).1 }.setState id
          .cancelled).record .info .cancel id message := by
  unfold cancel
  cases ha : s.action? id with
  | none => exact Or.inl rfl
  | some a =>
    obtain rfl := id_of_action? ha
    cases hState : a.state with
    | constructed =>
      simp only [hState]
      exact Or.inr (Or.inr (Or.inl ⟨a, _, rfl, hState, rfl⟩))
    | registered =>
      cases hUndo : s.tree.undoRegistration a with
      | error cause =>
        simp only [hState, hUndo]
        exact Or.inr (Or.inl ⟨_, rfl⟩)
      | ok result =>
        simp only [hState, hUndo]
        exact Or.inr (Or.inr (Or.inr ⟨a, result.1, result.2, _, rfl, hState, hUndo, rfl⟩))
    | cancelled | pruned =>
      simp only [hState]
      exact Or.inr (Or.inl ⟨_, rfl⟩)

/-! ## Sorting -/

theorem sort_cases (s : Session) :
    ∃ level message, s.sort.2 = s.record level .sort 0 message := by
  unfold sort
  split
  split
  · exact ⟨_, _, rfl⟩
  · exact ⟨_, _, rfl⟩

/-! ## Calls made of other calls -/

section

variable {P : Session → Prop}

theorem registerOrCancel_preserves (hRegister : ∀ s id, P s → P (s.register id).2)
    (hCancel : ∀ s id, P s → P (s.cancel id).2) {s : Session} (h : P s) (id : ObjectId) :
    P (s.registerOrCancel id).2 := by
  have hAfter := hRegister s id h
  unfold registerOrCancel
  cases hRefusal : (s.register id).1.refusal with
  | none => simpa only [hRefusal] using hAfter
  | some cause => simpa only [hRefusal] using hCancel _ id hAfter

theorem schedule_preserves {p : Proposal} (hPropose : ∀ s, P s → P (s.propose p).2)
    (hRegister : ∀ s id, P s → P (s.register id).2) (hCancel : ∀ s id, P s → P (s.cancel id).2)
    {s : Session} (h : P s) : P (s.schedule p).2 := by
  have hAfter := hPropose s h
  unfold schedule Answer.andThen
  split
  · exact registerOrCancel_preserves hRegister hCancel hAfter _
  · exact hAfter

theorem scheduleListed_snd (s : Session) (p : Proposal) :
    (s.scheduleListed p).2 = (s.schedule p).2 := by
  unfold scheduleListed
  cases h : (s.schedule p).1.refusal with
  | none => simp only [h]
  | some cause => simp only [h]

/-- What holds of an answer with nothing to take down, and is kept by taking down one leaf first,
holds of taking down all that is built on a device. -/
theorem tearDownAbove_induction {id : ObjectId} {motive : Session → Answer (List ObjectId) → Prop}
    (hDone : ∀ s, s.tree.dependents id = [] → motive s ({ value := [] }, s))
    (hStuck : ∀ s, s.tree.dependents id ≠ [] →
      (∀ x ∈ s.tree.dependents id, s.tree.isLeaf x = false) →
      motive s (.refused .noRemovableLeaf, s))
    (hStep : ∀ s, ∀ leaf ∈ s.tree.dependents id, s.tree.isLeaf leaf = true →
      (s.tearDown leaf).1.ok = true →
      motive (s.tearDown leaf).2 ((s.tearDown leaf).2.tearDownAbove id) →
      motive s ({ ((s.tearDown leaf).2.tearDownAbove id).1 with
          value := (s.tearDown leaf).1.value ++ ((s.tearDown leaf).2.tearDownAbove id).1.value },
        ((s.tearDown leaf).2.tearDownAbove id).2))
    (hFail : ∀ s, ∀ leaf ∈ s.tree.dependents id, s.tree.isLeaf leaf = true →
      (s.tearDown leaf).1.ok = false → motive s (s.tearDown leaf))
    (s : Session) : motive s (s.tearDownAbove id) := by
  have hFound : ∀ {s : Session} {leaf : ObjectId},
      (s.tree.dependents id).reverse.find? s.tree.isLeaf = some leaf →
      leaf ∈ s.tree.dependents id ∧ s.tree.isLeaf leaf = true := fun h =>
    ⟨List.mem_reverse.mp (List.mem_of_find?_eq_some h), List.find?_some h⟩
  induction s using tearDownAbove.induct id with
  | case1 s hNone =>
    rw [tearDownAbove, if_pos hNone]
    exact hDone s hNone
  | case2 s hSome hLeaf =>
    rw [tearDownAbove, if_neg hSome, hLeaf]
    exact hStuck s hSome fun x hx => by
      simpa using List.find?_eq_none.mp hLeaf x (List.mem_reverse.mpr hx)
  | case3 s hSome leaf hLeaf first hOk ih =>
    rw [tearDownAbove, if_neg hSome, hLeaf]
    simp only
    rw [if_pos hOk]
    exact hStep s leaf (hFound hLeaf).1 (hFound hLeaf).2 hOk ih
  | case4 s hSome leaf hLeaf first hOk =>
    rw [tearDownAbove, if_neg hSome, hLeaf]
    simp only
    rw [if_neg hOk]
    exact hFail s leaf (hFound hLeaf).1 (hFound hLeaf).2 (Bool.eq_false_iff.mpr hOk)

section

variable (hFormat : ∀ s id, P s → P (s.schedule (.destroyFormat id)).2)
  (hDevice : ∀ s id, P s → P (s.schedule (.destroyDevice id)).2)

include hFormat hDevice

theorem tearDown_preserves {s : Session} (h : P s) (id : ObjectId) : P (s.tearDown id).2 := by
  have hContent : P (s.destroyContent id).2 := by
    unfold destroyContent
    split
    · rw [scheduleListed_snd]
      exact hFormat s id h
    · exact h
  unfold tearDown
  dsimp only
  split
  · rw [scheduleListed_snd]
    exact hDevice _ id hContent
  · exact hContent

theorem tearDownAbove_preserves {s : Session} (h : P s) (id : ObjectId) :
    P (s.tearDownAbove id).2 :=
  tearDownAbove_induction (motive := fun s answer => P s → P answer.2) (fun _ _ h => h)
    (fun _ _ _ h => h)
    (fun _ leaf _ _ _ ih h => ih (tearDown_preserves hFormat hDevice h leaf))
    (fun _ leaf _ _ _ h => tearDown_preserves hFormat hDevice h leaf) s h

theorem removeStack_preserves {s : Session} (h : P s) (id : ObjectId) (includeSelf : Bool) :
    P (s.removeStack id includeSelf).2 := by
  have hAbove := tearDownAbove_preserves hFormat hDevice h id
  unfold removeStack
  split
  · exact h
  · show P (s.tearDownStack id includeSelf).2
    unfold tearDownStack
    dsimp only
    split
    · exact tearDown_preserves hFormat hDevice hAbove id
    · exact hAbove

end

theorem andThen_preserves {α : Type} {answer : Answer α} {next : α → Session → Answer α}
    (h : P answer.2) (hNext : ∀ x s, P s → P (next x s).2) : P (answer.andThen next).2 := by
  unfold Answer.andThen
  split
  · exact hNext _ _ h
  · exact h

theorem adoptDemo_preserves
    (hAdopt : ∀ s draft typeName mountPoint, P s → P (s.adoptDevice draft typeName mountPoint).2)
    (hRecord : ∀ s message, P s → P (s.record .info .populate 0 message))
    {s : Session} (h : P s) : P s.adoptDemo.2 := by
  have hPartition : ∀ s name disk size typeName mountPoint, P s →
      P (s.demoPartition name disk size typeName mountPoint).2 :=
    fun s _ _ _ _ _ h => hAdopt s _ _ _ h
  have hGroup : ∀ s members, P s → P (s.demoGroup members).2 := by
    intro s members h
    refine andThen_preserves (hAdopt s _ _ _ h) fun group s h => ?_
    refine andThen_preserves (hAdopt s _ _ _ h) fun _ s h => ?_
    exact andThen_preserves (hAdopt s _ _ _ h) fun _ s h => hRecord s _ h
  refine andThen_preserves (hAdopt s _ _ _ h) fun sda s h => ?_
  refine andThen_preserves (hAdopt s _ _ _ h) fun sdb s h => ?_
  refine andThen_preserves (hAdopt s _ _ _ h) fun _ s h => ?_
  refine andThen_preserves (hAdopt s _ _ _ h) fun _ s h => ?_
  refine andThen_preserves (hAdopt s _ _ _ h) fun _ s h => ?_
  have hBoth := hPartition _ "sdb1" sdb (mebibytes 102399) "lvmpv" ""
    (hPartition s "sda2" sda (mebibytes 101888) "lvmpv" "" h)
  dsimp only
  split
  · exact hBoth
  · split
    · exact hBoth
    · exact hGroup _ _ hBoth

/-! ## Pruning -/

/-- A registered action makes this one unnecessary; it may be the action itself. -/
def Outdone (s : Session) (id : ObjectId) : Prop :=
  ∃ other ∈ s.registry, s.obsoletes other id = true

theorem obsoletes_of_plan {s : Session} {a b : Action} (ha : a ∈ s.plan) (hb : b ∈ s.plan) :
    s.obsoletes a.id b.id = s.tree.obsoletes a b := by
  unfold obsoletes
  rw [(mem_plan_iff.mp ha).2, (mem_plan_iff.mp hb).2]

theorem outdone_of_plan {s : Session} {a b : Action} (ha : a ∈ s.plan) (hb : b ∈ s.plan)
    (h : s.tree.obsoletes a b = true) : s.Outdone b.id :=
  ⟨a.id, (mem_plan_iff.mp ha).1, (obsoletes_of_plan ha hb).trans h⟩

/-- What holds of a sweep that leaves the registry as long as it was, and is kept by one more sweep
before, holds of sweeping until nothing is removed any more. -/
theorem pruneObsolete_induction {motive : Session → List ObjectId × Session → Prop}
    (hLast : ∀ s, ¬ s.sweep.2.registry.length < s.registry.length → motive s s.sweep)
    (hAgain : ∀ s, s.sweep.2.registry.length < s.registry.length →
      motive s.sweep.2 s.sweep.2.pruneObsolete →
      motive s (s.sweep.1 ++ s.sweep.2.pruneObsolete.1, s.sweep.2.pruneObsolete.2))
    (s : Session) : motive s s.pruneObsolete := by
  induction s using pruneObsolete.induct with
  | case1 s pruned after hSweep hShrinks _ _ _ ih =>
    obtain ⟨rfl, rfl⟩ : s.sweep.1 = pruned ∧ s.sweep.2 = after := by simp [hSweep]
    rw [pruneObsolete]
    simp only [hShrinks, if_true]
    exact hAgain s hShrinks ih
  | case2 s pruned after hSweep hStays =>
    obtain ⟨rfl, rfl⟩ : s.sweep.1 = pruned ∧ s.sweep.2 = after := by simp [hSweep]
    rw [pruneObsolete]
    simp only [hStays, if_false]
    exact hLast s hStays

/-- An entry has its turn in a sweep when it is the id of a registered action. -/
theorem mem_plan_of_turn {s : Session} {id : ObjectId} {a : Action}
    (h : ((s.action? id).filter fun a => s.isRegistered a.id) = some a) : a ∈ s.plan ∧ a.id = id := by
  obtain ⟨ha, hRegistered⟩ := Option.filter_eq_some_iff.mp h
  obtain rfl := id_of_action? ha
  exact ⟨mem_plan_iff.mpr ⟨by simpa [isRegistered] using hRegistered, ha⟩, rfl⟩

section

variable {Q : ObjectId → Prop}
  (hPrune : ∀ s reason id, P s → Q id → P (s.pruneAction reason id))

include hPrune

theorem pruneAll_preserves {s : Session} (h : P s) (reason : String) (ids : List ObjectId)
    (hIds : ∀ id ∈ ids, Q id) : P (s.pruneAll reason ids) := by
  unfold pruneAll
  induction ids generalizing s with
  | nil => exact h
  | cons id ids ih =>
    exact ih (hPrune s reason id h (hIds id List.mem_cons_self)) fun other hOther =>
      hIds other (List.mem_cons_of_mem id hOther)

variable (hOutdone : ∀ s id, P s → id ∈ s.registry → s.Outdone id → Q id)

include hOutdone

theorem pruneFor_preserves {s : Session} (h : P s) {a : Action} (ha : a ∈ s.plan) :
    P (s.pruneFor a).2 := by
  have hObsoleted : ∀ b ∈ s.obsoletedBy a, b ∈ s.plan ∧ s.tree.obsoletes a b = true := by
    intro b hb
    obtain ⟨hb, hObsoletes⟩ := List.mem_filter.mp hb
    rw [Bool.and_eq_true] at hObsoletes
    exact ⟨hb, hObsoletes.2⟩
  have hOthers : P (s.pruneAll ("obsoleted by " ++ a.displayId)
      ((s.obsoletedBy a).map Action.id)) := by
    refine pruneAll_preserves hPrune h _ _ fun id hid => ?_
    obtain ⟨b, hb, rfl⟩ := List.mem_map.mp hid
    have hPlan := (hObsoleted b hb).1
    exact hOutdone s b.id h (mem_plan_iff.mp hPlan).1
      (outdone_of_plan ha hPlan (hObsoleted b hb).2)
  unfold pruneFor
  dsimp only
  split
  · rename_i hToo
    refine hPrune _ _ _ hOthers (hOutdone s a.id h (mem_plan_iff.mp ha).1 ?_)
    unfold goesToo at hToo
    rcases Bool.or_eq_true_iff.mp hToo with hSelf | hInTurn
    · exact outdone_of_plan ha ha hSelf
    · obtain ⟨b, hb, hObsoletes⟩ := List.any_eq_true.mp hInTurn
      exact outdone_of_plan (hObsoleted b hb).1 ha hObsoletes
  · exact hOthers

theorem sweepOver_preserves {s : Session} (h : P s) (ids : List ObjectId) :
    P (s.sweepOver ids).2 := by
  induction ids generalizing s with
  | nil => exact h
  | cons id ids ih =>
    unfold sweepOver
    split
    · exact ih h
    · rename_i a hTurn
      exact ih (pruneFor_preserves hPrune hOutdone h (mem_plan_of_turn hTurn).1)

theorem pruneObsolete_preserves {s : Session} (h : P s) : P s.pruneObsolete.2 :=
  pruneObsolete_induction (motive := fun s answer => P s → P answer.2)
    (fun s _ h => sweepOver_preserves hPrune hOutdone h s.registry.reverse)
    (fun s _ ih h => ih (sweepOver_preserves hPrune hOutdone h s.registry.reverse)) s h

end

/-- What the dropping of the registered actions keeps is kept by pruning. -/
theorem prune_preserves_of_registered {Q : ObjectId → Prop}
    (hPrune : ∀ s reason id, P s → Q id → P (s.pruneAction reason id))
    (hRegistered : ∀ s id, P s → id ∈ s.registry → Q id) {s : Session} (h : P s) :
    P s.prune.2 := by
  refine pruneObsolete_preserves hPrune (fun s id h hid _ => hRegistered s id h hid) ?_
  refine pruneAll_preserves hPrune h _ _ fun id hid => ?_
  obtain ⟨a, ha, rfl⟩ := List.mem_map.mp hid
  exact hRegistered s a.id h (mem_plan_iff.mp (List.mem_filter.mp ha).1).1

theorem prune_preserves (hPrune : ∀ s reason id, P s → P (s.pruneAction reason id)) {s : Session}
    (h : P s) : P s.prune.2 :=
  prune_preserves_of_registered (Q := fun _ => True) (fun s reason id h _ => hPrune s reason id h)
    (fun _ _ _ _ => trivial) h

end

/-! ## Commands -/

/-- What the basic calls keep, apart from the withdrawal of an action. -/
structure Kept (P : Session → Prop) : Prop where
  log : ∀ s log number, P s → P { s with log, nextSequence := number }
  newDevice : ∀ s draft, P s → P (s.newDevice draft).2
  newFormat : ∀ s typeName mountPoint onMedia,
    P s → P (s.newFormat typeName mountPoint onMedia).2
  addDevice : ∀ s id, P s → P (s.addDevice id).2
  removeDevice : ∀ s id force, P s → P (s.removeDevice id force).2
  adoptDevice : ∀ s draft typeName mountPoint,
    P s → P (s.adoptDevice draft typeName mountPoint).2
  propose : ∀ s p, P s → P (s.propose p).2
  register : ∀ s id, P s → P (s.register id).2
  schedule : ∀ s p, P s → P (s.schedule p).2
  pruneAction : ∀ s reason id, P s → P (s.pruneAction reason id)

/-- A command that overwrites nothing and withdraws nothing keeps what the basic calls keep. -/
theorem Kept.perform {P : Session → Prop} (hP : Kept P) {s : Session} (hs : P s) {command : Command}
    (hOverwrites : command.overwrites = false) (hWithdraws : command.withdraws = false) :
    P (s.perform command).2 := by
  cases command with
  | editDevice | editFormat | setNextId => cases hOverwrites
  | cancel | registerOrCancel => cases hWithdraws
  | newDevice draft => exact hP.newDevice s draft hs
  | newFormat typeName mountPoint onMedia => exact hP.newFormat s typeName mountPoint onMedia hs
  | addDevice device => exact hP.addDevice s device hs
  | removeDevice device force => exact hP.removeDevice s device force hs
  | adoptDevice draft typeName mountPoint => exact hP.adoptDevice s draft typeName mountPoint hs
  | adoptDemo =>
    exact adoptDemo_preserves hP.adoptDevice (fun s _ h => hP.log s _ _ h) hs
  | propose p => exact hP.propose s p hs
  | schedule p => exact hP.schedule s p hs
  | register action => exact hP.register s action hs
  | removeStack device includeSelf =>
    exact removeStack_preserves (fun s _ h => hP.schedule s _ h) (fun s _ h => hP.schedule s _ h) hs
      device includeSelf
  | prune => exact prune_preserves hP.pruneAction hs
  | sort =>
    obtain ⟨level, message, h⟩ := sort_cases s
    show P s.sort.2
    rw [h]
    exact hP.log s _ _ hs
  | clearLog => exact hP.log s _ _ hs

/-- What withdrawing keeps as well is kept by every command that overwrites nothing. -/
theorem Kept.perform_of_cancel {P : Session → Prop} (hP : Kept P)
    (hCancel : ∀ s id, P s → P (s.cancel id).2) {s : Session} (hs : P s) {command : Command}
    (hOverwrites : command.overwrites = false) : P (s.perform command).2 := by
  cases hWithdraws : command.withdraws with
  | false => exact hP.perform hs hOverwrites hWithdraws
  | true =>
    cases command with
    | cancel action => exact hCancel s action hs
    | registerOrCancel action => exact registerOrCancel_preserves hP.register hCancel hs action
    | _ => cases hWithdraws

end Session

end StoragePlan

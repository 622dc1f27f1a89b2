import StoragePlan.Proofs.Calls

/-!
# The registry lists the registered actions

In every session that commands lead to, direct writes into devices and formats and a replaced id
counter included, the registry names exactly the actions in the state `registered`, each once
(`Listed`).  So every entry of the registry can be looked up, and the plan has one action for each
(`Listed.ids_plan`).
-/

namespace StoragePlan.Session

/-- The registry names the registered actions, each once. -/
structure Listed (s : Session) : Prop where
  nodup : s.registry.Nodup
  mem_iff : ∀ id, id ∈ s.registry ↔ ∃ a, s.action? id = some a ∧ a.state = .registered

/-! ## What it gives -/

theorem Listed.notMem_of_state {s : Session} (hs : s.Listed) {id : ObjectId} {a : Action}
    (ha : s.action? id = some a) (hState : a.state ≠ .registered) : id ∉ s.registry := by
  intro hid
  obtain ⟨b, hb, hReg⟩ := (hs.mem_iff id).mp hid
  rw [ha, Option.some_inj] at hb
  exact hState (hb ▸ hReg)

theorem filterMap_ids {s : Session} :
    ∀ ids : List ObjectId, (∀ id ∈ ids, (s.action? id).isSome) →
      (ids.filterMap s.action?).map Action.id = ids := by
  intro ids
  induction ids with
  | nil => intro _; rfl
  | cons id ids ih =>
    intro h
    obtain ⟨a, ha⟩ := Option.isSome_iff_exists.mp (h id List.mem_cons_self)
    rw [List.filterMap_cons_some ha, List.map_cons, id_of_action? ha,
      ih fun other hOther => h other (List.mem_cons_of_mem id hOther)]

theorem Listed.ids_plan {s : Session} (hs : s.Listed) : s.plan.map Action.id = s.registry := by
  refine filterMap_ids s.registry fun id hid => ?_
  obtain ⟨a, ha, _⟩ := (hs.mem_iff id).mp hid
  rw [ha, Option.isSome_some]

/-! ## Every call keeps it -/

theorem Listed.of_same {s s' : Session} (hs : s.Listed) (hActions : s'.actions = s.actions)
    (hRegistry : s'.registry = s.registry) : s'.Listed := by
  refine ⟨hRegistry ▸ hs.nodup, fun id => ?_⟩
  unfold action?
  rw [hRegistry, hActions]
  exact hs.mem_iff id

theorem Listed.record {s : Session} (hs : s.Listed) (level : LogLevel) (event : LogEvent)
    (action : ObjectId) (message : String) : (s.record level event action message).Listed :=
  hs.of_same rfl rfl

/-- An action that leaves the registry has another state afterwards. -/
theorem Listed.drop {s : Session} (hs : s.Listed) (id : ObjectId) {state : ActionState}
    (hState : state ≠ .registered) : (s.drop id state).Listed := by
  refine ⟨hs.nodup.filter _, fun other => ?_⟩
  rw [drop_registry, List.mem_filter, hs.mem_iff, decide_eq_true_eq, action?_drop]
  constructor
  · rintro ⟨⟨a, ha, hReg⟩, hne⟩
    exact ⟨a, by rw [ha, Option.map_some, if_neg hne], hReg⟩
  · rintro ⟨b, hb, hReg⟩
    obtain ⟨a, ha, rfl⟩ := Option.map_eq_some_iff.mp hb
    by_cases hne : other = id
    · rw [if_pos hne] at hReg
      exact absurd hReg hState
    · rw [if_neg hne] at hReg
      exact ⟨⟨a, ha, hReg⟩, hne⟩

theorem Listed.setState_of_notMem {s : Session} (hs : s.Listed) {id : ObjectId}
    (hid : id ∉ s.registry) {state : ActionState} (hState : state ≠ .registered) :
    (s.setState id state).Listed := by
  have hFilter : s.registry.filter (· ≠ id) = s.registry := by
    rw [List.filter_eq_self]
    intro other hOther
    rw [decide_eq_true_eq]
    exact fun h => hid (h ▸ hOther)
  have := hs.drop id hState
  unfold Session.drop at this
  rwa [hFilter] at this

theorem Listed.register {s : Session} (hs : s.Listed) (id : ObjectId) :
    (s.register id).2.Listed := by
  rcases register_cases s id with h | ⟨_, h⟩ | ⟨a, t, _, _, ha, hState, _, h⟩
  · rw [h]; exact hs
  · rw [h]; exact hs.record _ _ _ _
  · rw [h]
    have hid : id ∉ s.registry := hs.notMem_of_state ha (by simp [hState])
    refine Listed.record ⟨?_, fun other => ?_⟩ _ _ _ _
    · exact List.nodup_append.mpr ⟨hs.nodup, by simp, by
        intro x hx y hy hxy
        rw [List.mem_singleton.mp hy] at hxy
        exact hid (hxy ▸ hx)⟩
    · rw [action?_setState, setState_registry, List.mem_append, List.mem_singleton, hs.mem_iff]
      change _ ↔ ∃ b : Action, (s.action? other).map
        (fun a => if other = id then { a with state := .registered } else a) = some b ∧ _
      by_cases hOther : other = id
      · subst hOther
        rw [ha, Option.map_some, if_pos rfl]
        simp
      · simp [hOther]

theorem Listed.cancel {s : Session} (hs : s.Listed) (id : ObjectId) : (s.cancel id).2.Listed := by
  rcases cancel_cases s id with h | ⟨_, h⟩ | ⟨a, _, ha, hState, h⟩ | ⟨a, t, _, _, _, _, _, h⟩
  · rw [h]; exact hs
  · rw [h]; exact hs.record _ _ _ _
  · rw [h]
    have hid : id ∉ s.registry := hs.notMem_of_state ha (by simp [hState])
    have hTree : ({ s with tree := (s.tree.undoConstruction a).1 } : Session).Listed :=
      hs.of_same rfl rfl
    exact (hTree.setState_of_notMem hid (by simp)).record _ _ _ _
  · rw [h]
    have hDrop :
        ({ s.drop id .cancelled with tree := (t.undoConstruction a).1 } : Session).Listed :=
      (hs.drop id (by simp)).of_same rfl rfl
    have hid : id ∉ (s.drop id .cancelled).registry := by
      rw [drop_registry, List.mem_filter]
      simp
    exact (hDrop.setState_of_notMem hid (by simp)).record _ _ _ _

theorem Listed.propose {s : Session} (hs : s.Listed) (p : Proposal) : (s.propose p).2.Listed := by
  rcases propose_cases s p with h | ⟨preparation, _, ⟨_, h⟩ | ⟨actions, _, hInsert, h⟩⟩
  · rw [h]; exact hs
  · rw [h]; exact hs.of_same rfl rfl
  · rw [h]
    obtain ⟨_, _, hFresh⟩ := Arena.insert?_eq_some hInsert
    have hStored : ({ s.carryOut preparation with actions } : Session).Listed := by
      refine ⟨hs.nodup, fun id => ?_⟩
      change id ∈ s.registry ↔ ∃ a, actions.find? id = some a ∧ a.state = .registered
      rw [hs.mem_iff, Arena.find?_insert? hInsert]
      by_cases hid : Identified.id (s.actionOf preparation) = id
      · rw [if_pos hid]
        rw [hid] at hFresh
        -- a new action is only constructed
        simp [action?, hFresh, actionOf]
      · rw [if_neg hid]
        rfl
    exact hStored.record _ _ _ _

theorem Listed.pruneAction {s : Session} (hs : s.Listed) (reason : String) (id : ObjectId) :
    (s.pruneAction reason id).Listed :=
  (hs.drop id (by simp)).record _ _ _ _

theorem answerTree_snd (s : Session) (result : Except Refusal (ObjectId × DeviceTree))
    (changes : ObjectId → Changes) :
    ∃ t, (s.answerTree result changes).2 = { s with tree := t } := by
  cases result with
  | error cause => exact ⟨s.tree, rfl⟩
  | ok result => exact ⟨result.2, rfl⟩

theorem answerTree_registry (s : Session) (result : Except Refusal (ObjectId × DeviceTree))
    (changes : ObjectId → Changes) : (s.answerTree result changes).2.registry = s.registry := by
  obtain ⟨t, h⟩ := answerTree_snd s result changes
  rw [h]

theorem adoptDevice_snd (s : Session) (draft : DeviceDraft) (typeName mountPoint : String) :
    ∃ t, (s.adoptDevice draft typeName mountPoint).2 = { s with tree := t } := by
  unfold adoptDevice
  split
  · exact ⟨s.tree, rfl⟩
  · split
    · exact ⟨_, rfl⟩
    · split
      · exact ⟨_, rfl⟩
      · exact ⟨_, rfl⟩

theorem Listed.answerTree {s : Session} (hs : s.Listed)
    (result : Except Refusal (ObjectId × DeviceTree)) (changes : ObjectId → Changes) :
    (s.answerTree result changes).2.Listed := by
  obtain ⟨t, h⟩ := answerTree_snd s result changes
  rw [h]
  exact hs.of_same rfl rfl

theorem Listed.adoptDevice {s : Session} (hs : s.Listed) (draft : DeviceDraft)
    (typeName mountPoint : String) : (s.adoptDevice draft typeName mountPoint).2.Listed := by
  obtain ⟨t, h⟩ := adoptDevice_snd s draft typeName mountPoint
  rw [h]
  exact hs.of_same rfl rfl

theorem Listed.schedule {s : Session} (hs : s.Listed) (p : Proposal) :
    (s.schedule p).2.Listed :=
  schedule_preserves (fun _ h => h.propose p) (fun _ id h => h.register id)
    (fun _ id h => h.cancel id) hs

theorem Listed.perform {s : Session} (hs : s.Listed) (command : Command) :
    (s.perform command).2.Listed := by
  cases command with
  | newDevice draft => exact hs.answerTree _ _
  | newFormat typeName mountPoint onMedia => exact hs.answerTree _ _
  | addDevice device => exact hs.answerTree _ _
  | removeDevice device force => exact hs.answerTree _ _
  | editDevice device patch => exact hs.of_same rfl rfl
  | editFormat format patch => exact hs.of_same rfl rfl
  | setNextId next => exact hs.of_same rfl rfl
  | adoptDevice draft typeName mountPoint => exact hs.adoptDevice draft typeName mountPoint
  | adoptDemo =>
    exact adoptDemo_preserves (fun _ draft typeName mountPoint h =>
      h.adoptDevice draft typeName mountPoint) (fun _ _ h => h.record _ _ _ _) hs
  | propose p => exact hs.propose p
  | schedule p => exact hs.schedule p
  | register action => exact hs.register action
  | cancel action => exact hs.cancel action
  | registerOrCancel action =>
    exact registerOrCancel_preserves (fun _ id h => h.register id) (fun _ id h => h.cancel id) hs
      action
  | removeStack device includeSelf =>
    exact removeStack_preserves (fun _ _ h => h.schedule _) (fun _ _ h => h.schedule _) hs device
      includeSelf
  | prune => exact prune_preserves (fun _ reason id h => h.pruneAction reason id) hs
  | sort =>
    obtain ⟨level, message, h⟩ := sort_cases s
    show s.sort.2.Listed
    rw [h]
    exact hs.record _ _ _ _
  | clearLog => exact hs.of_same rfl rfl

theorem listed_empty : ({} : Session).Listed :=
  ⟨List.nodup_nil, fun id => by simp [action?]⟩

/-- **The registry of every session that commands lead to names its registered actions.** -/
theorem Listed.performAll {s : Session} (hs : s.Listed) (commands : List Command) :
    (s.performAll commands).Listed := by
  unfold Session.performAll
  induction commands generalizing s with
  | nil => exact hs
  | cons command commands ih => exact ih (hs.perform command)

end StoragePlan.Session

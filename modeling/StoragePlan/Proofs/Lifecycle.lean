import StoragePlan.Session.Validate
import StoragePlan.Proofs.Numbering

/-!
# The life of an action

An action is constructed, then registered or withdrawn, and a registered one is withdrawn or
pruned; that is all (`ActionState.Next`).  Whatever is called, a stored action stays stored and
keeps all but its state (`ActionsMove`).

* `Listed.actionsMove_perform`: **one command moves a stored action by one step at most**, direct
  writes into devices and formats and a replaced id counter included.
* `ActionState.eq_of_path_cancelled`, `ActionState.eq_of_path_pruned`: nothing follows a withdrawn
  or a pruned action.
* `Listed.stateIssues`: the check of a session finds no action out of place.
-/

namespace StoragePlan

open Relation

namespace ActionState

/-- What an action becomes next. -/
inductive Next : ActionState → ActionState → Prop
  | register : Next .constructed .registered
  | withdraw : Next .constructed .cancelled
  | cancel : Next .registered .cancelled
  | prune : Next .registered .pruned

/-- At most one step in the life of an action. -/
abbrev Step : ActionState → ActionState → Prop := ReflGen Next

/-- The steps in the life of an action. -/
abbrev Path : ActionState → ActionState → Prop := ReflTransGen Next

theorem eq_of_path_cancelled {state : ActionState} (h : Path .cancelled state) :
    state = .cancelled := by
  rcases h.cases_head with rfl | ⟨_, hNext, _⟩
  · rfl
  · cases hNext

theorem eq_of_path_pruned {state : ActionState} (h : Path .pruned state) :
    state = .pruned := by
  rcases h.cases_head with rfl | ⟨_, hNext, _⟩
  · rfl
  · cases hNext

end ActionState

namespace DeviceTree

variable {t : DeviceTree}

/-- The issues of a tree are about its devices. -/
theorem code_of_mem_deviceIssues {earlier : List String} {device : Device} {issue : Issue}
    (h : issue ∈ t.deviceIssues earlier device) : issue.code ∈
      ["DuplicateDeviceName", "ParentNotInTree", "ParentCycle", "FormatMissing"] := by
  rcases mem_deviceIssues.mp h with ⟨_, rfl⟩ | ⟨_, rfl⟩ | ⟨_, rfl⟩ | ⟨_, rfl⟩ <;> simp [Issue.code]

theorem code_of_mem_issuesFrom {earlier : List String} {devices : List Device} {issue : Issue}
    (h : issue ∈ t.issuesFrom earlier devices) : issue.code ∈
      ["DuplicateDeviceName", "ParentNotInTree", "ParentCycle", "FormatMissing"] := by
  induction devices generalizing earlier with
  | nil => cases h
  | cons device devices ih =>
    rcases List.mem_append.mp h with h | h
    · exact code_of_mem_deviceIssues h
    · exact ih h

end DeviceTree

namespace Session

variable {s s' s'' : Session} {R R' R'' : ActionState → ActionState → Prop} {id : ObjectId}
  {a : Action}

/-- Every stored action stays in its place and keeps all but its state, which moves by `R`. -/
structure ActionsMove (R : ActionState → ActionState → Prop) (s s' : Session) : Prop where
  ids : s.actions.ids <+: s'.actions.ids
  moves : ∀ id a, s.action? id = some a →
    ∃ state, s'.action? id = some { a with state } ∧ R a.state state

/-! ## Changes of the store -/

theorem ActionsMove.mono (h : ActionsMove R s s') (hR : ∀ x y, R x y → R' x y) :
    ActionsMove R' s s' := by
  refine ⟨h.ids, fun id a ha => ?_⟩
  obtain ⟨state, ha', hMove⟩ := h.moves id a ha
  exact ⟨state, ha', hR _ _ hMove⟩

theorem ActionsMove.trans (h : ActionsMove R s s') (h' : ActionsMove R' s' s'')
    (hR : ∀ x y z, R x y → R' y z → R'' x z) : ActionsMove R'' s s'' := by
  refine ⟨h.ids.trans h'.ids, fun id a ha => ?_⟩
  obtain ⟨x, ha', hFirst⟩ := h.moves id a ha
  obtain ⟨y, ha'', hSecond⟩ := h'.moves id _ ha'
  exact ⟨y, ha'', hR _ _ _ hFirst hSecond⟩

theorem ActionsMove.trans_eq (h : ActionsMove R s s') (h' : ActionsMove Eq s' s'') :
    ActionsMove R s s'' :=
  h.trans h' fun _ _ _ hMove hSame => hSame ▸ hMove

theorem ActionsMove.still (h : ActionsMove Eq s s') : ActionsMove ActionState.Step s s' :=
  h.mono fun _ _ hSame => hSame ▸ .refl

theorem actionsMove_of_actions (h : s'.actions = s.actions) : ActionsMove Eq s s' := by
  refine ⟨by rw [h], fun id a ha => ⟨a.state, ?_, rfl⟩⟩
  unfold action? at ha ⊢
  rw [h, ha]

theorem Same.actionsMove (h : s.Same s') : ActionsMove Eq s s' := actionsMove_of_actions h.actions

theorem step_of_actions (h : s'.actions = s.actions) : ActionsMove ActionState.Step s s' :=
  (actionsMove_of_actions h).still

/-- One action goes a step on. -/
theorem step_setState (hActions : s'.actions = s.actions) (ha : s.action? id = some a)
    {state : ActionState} (hNext : a.state.Next state) :
    ActionsMove ActionState.Step s (s'.setState id state) := by
  refine ⟨by rw [setState_ids, hActions], fun other b hb => ?_⟩
  have hFind : s'.action? other = some b := (congrArg (Arena.find? · other) hActions).trans hb
  rw [action?_setState, hFind, Option.map_some]
  by_cases hSame : other = id
  · subst hSame
    obtain rfl : a = b := Option.some.inj (ha ▸ hb)
    exact ⟨state, by rw [if_pos rfl], .single hNext⟩
  · exact ⟨b.state, by rw [if_neg hSame], .refl⟩

/-- One more action is stored, and its state is set. -/
theorem actionsMove_of_new {actions : Arena Action} (hInsert : s.actions.insert? a = some actions)
    (hActions : s'.actions = actions) (state : ActionState) :
    ActionsMove Eq s (s'.setState a.id state) := by
  refine ⟨?_, fun id b hb => ⟨b.state, action?_of_new hInsert hActions state hb, rfl⟩⟩
  rw [setState_ids, hActions, Arena.ids_insert? hInsert]
  exact List.prefix_append _ _

/-! ## Calls -/

/-- Constructing an action leaves those stored as they are. -/
theorem actionsMove_propose (s : Session) (p : Proposal) : ActionsMove Eq s (s.propose p).2 := by
  rcases propose_cases s p with h | ⟨preparation, _, ⟨_, h⟩ | ⟨actions, _, hInsert, h⟩⟩
  · rw [h]
    exact actionsMove_of_actions rfl
  · rw [h]
    exact actionsMove_of_actions rfl
  · rw [h]
    refine ⟨?_, fun id b hb => ⟨b.state, ?_, rfl⟩⟩
    · show _ <+: actions.ids
      rw [Arena.ids_insert? hInsert]
      exact List.prefix_append _ _
    · show actions.find? id = some b
      rw [Arena.find?_insert? hInsert]
      exact (if_neg (Ne.symm (ne_of_new hInsert hb))).trans hb

/-- Scheduling moves its own action only. -/
theorem actionsMove_schedule (s : Session) (p : Proposal) : ActionsMove Eq s (s.schedule p).2 := by
  cases scheduled s p with
  | refused hOk hSame => exact hSame.actionsMove
  | dropped p hPrepares hTaken hOk hSame => exact actionsMove_of_actions hSame.actions
  | registered p actions t changes hPrepares hInsert hApply hOk hValue hSame =>
    exact (actionsMove_of_new hInsert rfl _).trans_eq hSame.actionsMove
  | takenBack p actions cause hPrepares hInsert hApply hOk hSame =>
    exact (actionsMove_of_new hInsert rfl _).trans_eq hSame.actionsMove

theorem actionsMove_register (s : Session) (id : ObjectId) :
    ActionsMove ActionState.Step s (s.register id).2 := by
  rcases register_cases s id with h | ⟨_, h⟩ | ⟨a, t, _, _, ha, hState, _, h⟩
  · rw [h]
    exact step_of_actions rfl
  · rw [h]
    exact step_of_actions rfl
  · rw [h]
    have hNext : a.state.Next .registered := hState ▸ .register
    let listed : Session := { s with tree := t, registry := s.registry ++ [id] }
    have hActions : listed.actions = s.actions := rfl
    have hMove := step_setState hActions ha hNext
    exact hMove.trans_eq (actionsMove_of_actions rfl)

theorem actionsMove_cancel (s : Session) (id : ObjectId) :
    ActionsMove ActionState.Step s (s.cancel id).2 := by
  cases cancelled s id with
  | refused hOk hSame => exact hSame.actionsMove.still
  | constructed a ha hState hOk hSame =>
    have hNext : a.state.Next .cancelled := hState ▸ .withdraw
    refine (step_setState ?_ ha hNext).trans_eq hSame.actionsMove
    rfl
  | registered a t changes ha hState hUndo hOk hSame =>
    refine ActionsMove.trans_eq ⟨?_, fun other b hb => ?_⟩ hSame.actionsMove
    · rw [setState_ids]
      exact (setState_ids s id .cancelled).symm ▸ List.prefix_refl _
    · by_cases hne : other = id
      · subst hne
        obtain rfl : a = b := Option.some.inj (ha ▸ hb)
        refine ⟨.cancelled, ?_, hState ▸ .single .cancel⟩
        rw [action?_setState]
        show ((s.drop other .cancelled).action? other).map _ = _
        rw [action?_drop, ha]
        simp
      · exact ⟨b.state, (action?_withdrawn s _ hne).trans hb, .refl⟩

theorem actionsMove_registerOrCancel (s : Session) (id : ObjectId) :
    ActionsMove ActionState.Step s (s.registerOrCancel id).2 := by
  rw [registerOrCancel_snd]
  cases hOk : (s.register id).1.ok with
  | true => exact actionsMove_register s id
  | false =>
    rw [if_neg Bool.false_ne_true]
    refine (register_of_refused hOk).actionsMove.trans (actionsMove_cancel _ id) ?_
    rintro _ _ _ rfl hMove
    exact hMove

/-- Pruning takes registered actions out of the plan and leaves the others alone. -/
theorem Listed.actionsMove_prune (hs : s.Listed) : ActionsMove ActionState.Step s s.prune.2 := by
  have hBoth := prune_preserves_of_registered (s := s) (Q := fun id => id ∈ s.registry)
    (P := fun s' => s'.registry ⊆ s.registry ∧ ActionsMove ActionState.Step s s')
    (fun s' reason id h hid => ?_) (fun s' id h hid => h.1 hid)
    ⟨fun _ h => h, step_of_actions rfl⟩
  · exact hBoth.2
  · obtain ⟨hSub, hMoves⟩ := h
    refine ⟨fun other hOther => hSub (List.mem_of_mem_filter hOther), ?_, fun other a ha => ?_⟩
    · exact hMoves.ids.trans ((setState_ids s' id .pruned).symm ▸ List.prefix_refl _)
    · obtain ⟨state, ha', hMove⟩ := hMoves.moves other a ha
      show ∃ state, (s'.drop id .pruned).action? other = _ ∧ _
      rw [action?_drop, ha', Option.map_some]
      by_cases hSame : other = id
      · -- it was registered when pruning began
        obtain ⟨b, hb, hRegistered⟩ := (hs.mem_iff id).mp hid
        obtain rfl : a = b := Option.some.inj (ha ▸ hSame ▸ hb)
        exact ⟨.pruned, by rw [if_pos hSame], hRegistered ▸ .single .prune⟩
      · exact ⟨state, by rw [if_neg hSame], hMove⟩

/-- **A command moves each stored action by one step at most.** -/
theorem Listed.actionsMove_perform (hs : s.Listed) (command : Command) :
    ActionsMove ActionState.Step s (s.perform command).2 := by
  have hTree : ∀ {result changes},
      ActionsMove ActionState.Step s (s.answerTree result changes).2 := by
    intro result changes
    obtain ⟨t, h⟩ := answerTree_snd s result changes
    rw [h]
    exact step_of_actions rfl
  cases command with
  | newDevice draft => exact hTree
  | newFormat typeName mountPoint onMedia => exact hTree
  | addDevice device => exact hTree
  | removeDevice device force => exact hTree
  | editDevice | editFormat | setNextId | clearLog => exact step_of_actions rfl
  | adoptDevice draft typeName mountPoint =>
    obtain ⟨t, h⟩ := adoptDevice_snd s draft typeName mountPoint
    show ActionsMove _ s (s.adoptDevice draft typeName mountPoint).2
    rw [h]
    exact step_of_actions rfl
  | adoptDemo =>
    refine step_of_actions (adoptDemo_preserves
      (P := fun s' => s'.actions = s.actions) (fun s' draft typeName mountPoint h => ?_)
      (fun _ _ h => h) rfl)
    obtain ⟨t, hAfter⟩ := adoptDevice_snd s' draft typeName mountPoint
    rw [hAfter]
    exact h
  | propose p => exact (actionsMove_propose s p).still
  | schedule p => exact (actionsMove_schedule s p).still
  | register action => exact actionsMove_register s action
  | cancel action => exact actionsMove_cancel s action
  | registerOrCancel action => exact actionsMove_registerOrCancel s action
  | removeStack device includeSelf =>
    refine .still (removeStack_preserves (P := ActionsMove Eq s) (fun s' id h => ?_)
      (fun s' id h => ?_) (actionsMove_of_actions rfl) device includeSelf)
    · exact h.trans_eq (actionsMove_schedule s' _)
    · exact h.trans_eq (actionsMove_schedule s' _)
  | prune => exact hs.actionsMove_prune
  | sort =>
    obtain ⟨level, message, h⟩ := sort_cases s
    show ActionsMove _ s s.sort.2
    rw [h]
    exact step_of_actions rfl

theorem Listed.actionsMove_performAll (hs : s.Listed) (commands : List Command) :
    ActionsMove ActionState.Path s (s.performAll commands) := by
  induction commands generalizing s with
  | nil => exact (actionsMove_of_actions rfl).mono fun _ _ hSame => hSame ▸ .refl
  | cons command commands ih =>
    refine (hs.actionsMove_perform command).trans (ih (hs.perform command)) ?_
    exact fun _ _ _ hFirst hRest => hFirst.to_reflTransGen.trans hRest

/-! ## The check of a session -/

/-- No action is listed in the plan without being registered, or registered without being listed. -/
theorem Listed.stateIssues (hs : s.Listed) : s.stateIssues = [] := by
  unfold Session.stateIssues
  rw [List.map_eq_nil_iff, List.filter_eq_nil_iff]
  intro a ha hMismatch
  have hFind : s.action? a.id = some a := (Arena.mem_iff_find? _ a).mp ha
  have hIff : a.id ∈ s.registry ↔ a.state = .registered := by
    rw [hs.mem_iff, hFind]
    simp
  have hSame : s.isRegistered a.id = (a.state == .registered) := by
    rw [Bool.eq_iff_iff, isRegistered, List.contains_iff_mem, hIff, beq_iff_eq]
  rw [hSame, bne_self_eq_false] at hMismatch
  cases hMismatch

theorem Listed.no_mismatch (hs : s.Listed) :
    ∀ issue ∈ s.validate, issue.code ≠ "ActionStateMismatch" := by
  intro issue hIssue
  unfold validate at hIssue
  rw [hs.stateIssues, List.append_nil] at hIssue
  rcases List.mem_append.mp hIssue with hIssue | hIssue
  · intro hCode
    have hTree := DeviceTree.code_of_mem_issuesFrom hIssue
    rw [hCode] at hTree
    simp at hTree
  · obtain ⟨d, _, rfl⟩ := List.mem_map.mp hIssue
    simp [Issue.code]

/-- **The life of the actions of a session.**  After any commands the registry lists exactly the
registered actions, each once, and the check of the session reports no other state.  A further
command moves each stored action by one step at most and leaves the rest of it as it is, and however
the run goes on, an action that was withdrawn or pruned stays so. -/
theorem actions_life_cycle (commands : List Command) :
    let s := ({} : Session).performAll commands
    (s.registry.Nodup ∧
      (∀ id, id ∈ s.registry ↔ ∃ a, s.action? id = some a ∧ a.state = .registered) ∧
      ∀ issue ∈ s.validate, issue.code ≠ "ActionStateMismatch") ∧
    (∀ command, ActionsMove ActionState.Step s (s.perform command).2) ∧
    ∀ later, ActionsMove ActionState.Path s (s.performAll later) ∧
      ∀ id a, s.action? id = some a → a.state = .cancelled ∨ a.state = .pruned →
        (s.performAll later).action? id = some a := by
  intro s
  have hs : s.Listed := listed_empty.performAll commands
  refine ⟨⟨hs.nodup, hs.mem_iff, hs.no_mismatch⟩, hs.actionsMove_perform, fun later => ?_⟩
  have hMoves := hs.actionsMove_performAll later
  refine ⟨hMoves, fun id a ha hFinal => ?_⟩
  obtain ⟨state, ha', hMove⟩ := hMoves.moves id a ha
  have hSame : state = a.state := by
    rcases hFinal with hState | hState
    · rw [hState] at hMove ⊢
      exact ActionState.eq_of_path_cancelled hMove
    · rw [hState] at hMove ⊢
      exact ActionState.eq_of_path_pruned hMove
  rw [ha', hSame]

end Session

end StoragePlan

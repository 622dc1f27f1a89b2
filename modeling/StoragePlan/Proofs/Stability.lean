import StoragePlan.Proofs.Lifecycle
import StoragePlan.Proofs.Sweeping

/-!
# Pruning reaches a fixed point

A session is irreducible when nothing is left in its plan for pruning to drop: no registered action
makes another one or itself unnecessary, and no device is both created and destroyed
(`Irreducible`).  Pruning finds neither a transient device nor an action to drop then, and every
turn of its sweep leaves the session as it is.

* `irreducible_prune`: **pruning ends irreducible**, wherever it starts.
* `prune_eq_iff`: **the irreducible sessions are the fixed points of pruning**, the log included.
* `prune_idempotent`: what this says of two prunings in a row, and of the check of a session.
-/

namespace StoragePlan.Session

variable {s : Session} {a : Action}

/-- There is nothing to drop from the plan of a session. -/
structure Irreducible (s : Session) : Prop where
  needed : ∀ a ∈ s.registry, ∀ b ∈ s.registry, s.obsoletes a b = false
  apart : ∀ d, ¬ (d ∈ s.devicesOf .createDevice ∧ d ∈ s.devicesOf .destroyDevice)

/-- **Pruning leaves nothing to drop.** -/
theorem irreducible_prune (s : Session) : s.prune.2.Irreducible := by
  refine ⟨fun a ha b hb => ?_, ?_⟩
  · by_contra hObsoletes
    rw [Bool.not_eq_false] at hObsoletes
    exact not_outdone_prune hb ⟨a, ha, hObsoletes⟩
  · rintro d ⟨hCreated, hDestroyed⟩
    obtain ⟨hCreated, hApart⟩ := of_mem_devicesOf_prune (by decide) hCreated
    exact hApart ⟨hCreated, (of_mem_devicesOf_prune (by decide) hDestroyed).1⟩

/-! ## The check of a session -/

theorem planWhere_kind (s : Session) (kind : ActionKind) :
    (s.planWhere none (some kind.type) (some kind.object)).map Action.device
      = s.devicesOf kind := by
  unfold planWhere devicesOf
  congr 2
  funext a
  simp only [Action.type, Action.object, Option.all_none, Option.all_some, Bool.true_and]
  cases a.kind <;> cases kind <;> rfl

theorem mem_pendingIssues {issue : Issue} : issue ∈ s.pendingIssues ↔
    ∃ d, (d ∈ s.devicesOf .createDevice ∧ d ∈ s.devicesOf .destroyDevice) ∧
      issue = .createDestroyPending d := by
  have hCreated := s.planWhere_kind .createDevice
  have hDestroyed := s.planWhere_kind .destroyDevice
  simp only [ActionKind.type, ActionKind.object] at hCreated hDestroyed
  unfold pendingIssues
  simp only [hCreated, hDestroyed, List.mem_map, List.mem_filter, List.contains_iff_mem]
  exact exists_congr fun d => and_congr and_comm eq_comm

/-- The check of an irreducible session reports no device that is created and destroyed. -/
theorem Irreducible.no_pending (h : s.Irreducible) :
    ∀ issue ∈ s.validate, issue.code ≠ "CreateDestroyPending" := by
  intro issue hIssue hCode
  rcases List.mem_append.mp hIssue with hIssue | hIssue
  · rcases List.mem_append.mp hIssue with hIssue | hIssue
    · have hTree := DeviceTree.code_of_mem_issuesFrom hIssue
      rw [hCode] at hTree
      simp at hTree
    · obtain ⟨b, _, rfl⟩ := List.mem_map.mp hIssue
      simp [Issue.code] at hCode
  · obtain ⟨d, hBoth, rfl⟩ := mem_pendingIssues.mp hIssue
    exact h.apart d hBoth

/-! ## Fixed points -/

theorem Irreducible.transientActions (h : s.Irreducible) : s.transientActions = [] := by
  have hNone : s.transientDevices = [] := by
    refine List.eq_nil_iff_forall_not_mem.mpr fun d hd => ?_
    obtain ⟨hDestroyed, hCreated⟩ := List.mem_filter.mp hd
    exact h.apart d ⟨List.contains_iff_mem.mp hCreated, hDestroyed⟩
  simp [Session.transientActions, hNone]

theorem Irreducible.obsoletes (h : s.Irreducible) {b : Action} (ha : a ∈ s.plan)
    (hb : b ∈ s.plan) : s.tree.obsoletes a b = false := by
  rw [← obsoletes_of_plan ha hb]
  exact h.needed _ (mem_plan_iff.mp ha).1 _ (mem_plan_iff.mp hb).1

/-- A turn finds nothing to drop. -/
theorem Irreducible.pruneFor (h : s.Irreducible) (ha : a ∈ s.plan) : s.pruneFor a = ([], s) := by
  have hOthers : s.obsoletedBy a = [] := by
    refine List.filter_eq_nil_iff.mpr fun b hb => ?_
    rw [h.obsoletes ha hb, Bool.and_false]
    exact Bool.false_ne_true
  have hStays : s.goesToo a = false := by
    rw [goesToo, hOthers, h.obsoletes ha ha]
    rfl
  unfold Session.pruneFor
  rw [hStays, hOthers, if_neg Bool.false_ne_true]
  rfl

theorem Irreducible.sweepOver (h : s.Irreducible) (ids : List ObjectId) :
    s.sweepOver ids = ([], s) := by
  induction ids with
  | nil => rfl
  | cons id ids ih =>
    unfold Session.sweepOver
    cases hTurn : (s.action? id).filter fun a => s.isRegistered a.id with
    | none => exact ih
    | some a =>
      simp only [h.pruneFor (mem_plan_of_turn hTurn).1, ih, List.append_nil]

theorem Irreducible.pruneObsolete (h : s.Irreducible) : s.pruneObsolete = ([], s) := by
  rw [Session.pruneObsolete, sweep, h.sweepOver]
  simp

/-- **The sessions that pruning leaves alone**, without dropping an action or writing a record,
**are the irreducible ones.** -/
theorem prune_eq_iff : s.prune = ({ value := [] }, s) ↔ s.Irreducible := by
  constructor
  · intro hSame
    have hPruned := irreducible_prune s
    rwa [hSame] at hPruned
  · intro h
    unfold prune
    dsimp only
    rw [h.transientActions, show s.pruneAll "device is created and destroyed" [] = s from rfl,
      h.pruneObsolete]
    rfl

/-- **Pruning is idempotent.**  After it no registered action makes another one or itself
unnecessary, no device is both created and destroyed by the plan, and the check of the session
reports none; pruning once more drops nothing and leaves the whole session as it is. -/
theorem prune_idempotent (s : Session) :
    (∀ a ∈ s.prune.2.registry, ∀ b ∈ s.prune.2.registry, s.prune.2.obsoletes a b = false) ∧
    (∀ d, ¬ (d ∈ s.prune.2.devicesOf .createDevice ∧ d ∈ s.prune.2.devicesOf .destroyDevice)) ∧
    (∀ issue ∈ s.prune.2.validate, issue.code ≠ "CreateDestroyPending") ∧
    s.prune.2.prune = ({ value := [] }, s.prune.2) := by
  have h := irreducible_prune s
  exact ⟨h.needed, h.apart, h.no_pending, prune_eq_iff.mpr h⟩

end StoragePlan.Session

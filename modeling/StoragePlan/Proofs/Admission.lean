import StoragePlan.Proofs.Atomicity

/-!
# Which members are admitted

A member is turned away from a container when the container stands on it, which the search for
ancestors finds out before anything is changed.  Here this is compared with what the change does to
the parent edges: `BuiltOnWith` is the relation with the edge that would be added.

* `DeviceTree.isOk_addMember_iff_acyclic`: the check turns a stored member away exactly when the new
  edge closes a cycle or is there already.
* `Session.Fresh.propose_ok_iff`: nothing else is in the way of the action, since its id is new.
* `Session.admission`: **a member is admitted exactly when the graph stays acyclic**, and neither
  additions nor removals bring in a duplicate or a cycle.
-/

namespace StoragePlan

open Relation

namespace DeviceTree

variable {t : DeviceTree} {c m : ObjectId} {p : Preparation}

/-- The check lets a stored member through exactly when it is a new one and closes no cycle. -/
theorem isOk_addMember_iff_acyclic (h : t.Acyclic) :
    (t.prepare (.addMember c m)).isOk = true ↔
      (t.device? c).isSome ∧ (t.device? m).isSome ∧ m ∉ t.parentsOf c ∧
      ∀ d, ¬ TransGen (t.BuiltOnWith c m) d d := by
  rw [h.edge_iff]
  constructor
  · intro hOk
    cases hPrepare : t.prepare (.addMember c m) with
    | error cause =>
      rw [hPrepare] at hOk
      cases hOk
    | ok p =>
      obtain ⟨hc, hm, _⟩ := prepare_addMember_ok hPrepare
      obtain ⟨hne, hBack, hNew⟩ := (isOk_addMember_iff hc hm).mp hOk
      exact ⟨hc, hm, hNew, hne, hBack⟩
  · rintro ⟨hc, hm, hNew, hne, hBack⟩
    exact (isOk_addMember_iff hc hm).mpr ⟨hne, hBack, hNew⟩

/-- An admitted member is one more edge. -/
theorem builtOn_of_addMember (h : t.prepare (.addMember c m) = .ok p) :
    p.tree.BuiltOn = t.BuiltOnWith c m := by
  obtain ⟨hc, _, rfl⟩ := prepare_addMember_ok h
  exact builtOn_join hc (List.perm_append_singleton _ _)

theorem Dag.prepare_addMember (hDag : t.Dag) (h : t.prepare (.addMember c m) = .ok p) :
    p.tree.Dag := by
  obtain ⟨hc, hm, rfl⟩ := prepare_addMember_ok h
  show (t.changeParents c fun parents => parents ++ [m]).Dag
  refine (hDag.join_iff hc (List.perm_append_singleton _ _)).mpr ?_
  exact (isOk_addMember_iff hc hm).mp (by rw [h]; rfl)

theorem Dag.prepare_removeMember (hDag : t.Dag) (h : t.prepare (.removeMember c m) = .ok p) :
    p.tree.Dag := by
  obtain ⟨_, _, _, rfl⟩ := prepare_removeMember_ok h
  have hSub := parentsOf_sublist (t := t) (c := c) fun parents => List.erase_sublist (a := m)
  exact hDag.of_builtOn (fun d => (hDag.nodup d).sublist (hSub d)) fun d p hp => (hSub d).subset hp

end DeviceTree

namespace Session

variable {s : Session} {c m : ObjectId} {proposal : Proposal} {p : Preparation}

/-- A single id can be drawn without the counter wrapping. -/
theorem onward_of_draw {s' : Session} (h : s'.tree.ids.next = s.tree.ids.next + 1) :
    s.Onward s' := by
  unfold Onward
  rw [h, show s.tree.ids.next + 1 - s.tree.ids.next = 1 by grind]
  exact s.tree.ids.next.toNat_lt

/-- With an id that is new, an action is constructed exactly when its proposal can be prepared. -/
theorem Fresh.propose_ok_iff (h : s.Fresh)
    (hIds : ∀ p, s.tree.prepare proposal = .ok p → p.tree.ids = s.tree.ids) :
    (s.propose proposal).1.ok = true ↔ (s.tree.prepare proposal).isOk = true := by
  unfold propose
  cases hPrepare : s.tree.prepare proposal with
  | error cause => exact iff_of_false Bool.false_ne_true Bool.false_ne_true
  | ok p =>
    have hNext : (s.carryOut p).tree.ids.next = s.tree.ids.next + 1 := by
      show p.tree.ids.next + 1 = _
      rw [hIds p hPrepare]
    have hStores := h.stores (DeviceTree.prepares_of_prepare hPrepare) (onward_of_draw hNext)
    obtain ⟨actions, hInsert⟩ := Option.ne_none_iff_exists'.mp hStores
    have hActions : (s.carryOut p).actions = s.actions := rfl
    simp only [construct, hActions, hInsert]
    exact iff_of_true rfl rfl

/-- A proposal leaves the parent edges to its preparation. -/
theorem parentsOf_propose (h : s.tree.prepare proposal = .ok p) (d : ObjectId) :
    (s.propose proposal).2.tree.parentsOf d = p.tree.parentsOf d := by
  have hPropose : s.propose proposal = s.construct p := by
    unfold propose
    rw [h]
  rw [hPropose]
  rcases construct_cases s p with ⟨_, hSame⟩ | ⟨actions, message, _, hSame⟩
  · rw [hSame]
    rfl
  · rw [hSame]
    rfl

theorem dag_propose (hDag : s.tree.Dag)
    (hKeeps : ∀ p, s.tree.prepare proposal = .ok p → p.tree.Dag) :
    (s.propose proposal).2.tree.Dag := by
  cases hPrepare : s.tree.prepare proposal with
  | error cause =>
    have hSame : (s.propose proposal).2 = s := by
      unfold propose
      rw [hPrepare]
    rw [hSame]
    exact hDag
  | ok p =>
    have hParents := parentsOf_propose hPrepare
    refine (hKeeps p hPrepare).of_builtOn (fun d => ?_) fun d q hq => ?_
    · rw [hParents]
      exact (hKeeps p hPrepare).nodup d
    · unfold DeviceTree.BuiltOn at hq ⊢
      rwa [← hParents]

/-- **A member is admitted exactly when the graph stays acyclic.**  While parent lists are free of
duplicates and cycles and the next id is new, the addition of a member is constructed exactly when
both devices are stored, the member is a new one, and the parent edges are still acyclic with the
edge from the container to the member.  After it these are the parent edges.  Neither an addition
nor a removal brings in a duplicate or a cycle. -/
theorem admission (s : Session) (hDag : s.tree.Dag) (hFresh : s.Fresh) :
    (∀ c m,
      ((s.propose (.addMember c m)).1.ok = true ↔
        (s.tree.device? c).isSome ∧ (s.tree.device? m).isSome ∧ m ∉ s.tree.parentsOf c ∧
        ∀ d, ¬ TransGen (s.tree.BuiltOnWith c m) d d) ∧
      ((s.propose (.addMember c m)).1.ok = true →
        ∀ d p, (s.propose (.addMember c m)).2.tree.BuiltOn d p ↔ s.tree.BuiltOnWith c m d p) ∧
      (s.propose (.addMember c m)).2.tree.Dag) ∧
    ∀ c m, (s.propose (.removeMember c m)).2.tree.Dag := by
  refine ⟨fun c m => ?_, fun c m => dag_propose hDag fun p => hDag.prepare_removeMember⟩
  have hOk : (s.propose (.addMember c m)).1.ok = true ↔
      (s.tree.prepare (.addMember c m)).isOk = true := by
    refine hFresh.propose_ok_iff fun p hPrepare => ?_
    obtain ⟨_, _, rfl⟩ := DeviceTree.prepare_addMember_ok hPrepare
    rfl
  refine ⟨hOk.trans (DeviceTree.isOk_addMember_iff_acyclic hDag.acyclic), fun h d q => ?_,
    dag_propose hDag fun p => hDag.prepare_addMember⟩
  cases hPrepare : s.tree.prepare (.addMember c m) with
  | error cause =>
    rw [hPrepare] at hOk
    cases hOk.mp h
  | ok p =>
    rw [← DeviceTree.builtOn_of_addMember hPrepare]
    exact iff_of_eq (congrArg (q ∈ ·) (parentsOf_propose hPrepare d))

/-- Of three arrays on one another the first could take in a new disk, but not the last array. -/
theorem admission_of_stacked_arrays :
    let s := ({} : Session).performAll [
      .adoptDevice { name := "sda", kind := .disk } "" "",
      .adoptDevice { name := "sdb", kind := .disk } "" "",
      .adoptDevice { name := "md0", kind := .raidArray, parents := [2] } "" "",
      .adoptDevice { name := "md1", kind := .raidArray, parents := [6] } "" "",
      .adoptDevice { name := "md2", kind := .raidArray, parents := [8] } "" ""]
    (s.tree.Dag ∧ s.Fresh) ∧
    ((s.propose (.addMember 6 4)).1.ok = true ∧
      ∀ d p, (s.propose (.addMember 6 4)).2.tree.BuiltOn d p ↔ s.tree.BuiltOnWith 6 4 d p) ∧
    ((s.propose (.addMember 6 10)).1.ok = false ∧ ∃ d, TransGen (s.tree.BuiltOnWith 6 10) d d) ∧
    (s.propose (.removeMember 8 6)).2.tree.Dag := by
  intro s
  have hDag : s.tree.Dag := by decide +kernel
  have hFresh : s.Fresh := by decide +kernel
  obtain ⟨hAdd, hRemove⟩ := admission s hDag hFresh
  have hAdmitted : (s.propose (.addMember 6 4)).1.ok = true := by decide +kernel
  have hRefused : (s.propose (.addMember 6 10)).1.ok = false := by decide +kernel
  have hThere : (s.tree.device? 6).isSome ∧ (s.tree.device? 10).isSome ∧
      10 ∉ s.tree.parentsOf 6 := by decide +kernel
  refine ⟨⟨hDag, hFresh⟩, ⟨hAdmitted, (hAdd 6 4).2.1 hAdmitted⟩, ⟨hRefused, ?_⟩, hRemove 8 6⟩
  by_contra hNone
  have hOk := (hAdd 6 10).1.mpr ⟨hThere.1, hThere.2.1, hThere.2.2, not_exists.mp hNone⟩
  rw [hRefused] at hOk
  cases hOk

end Session

end StoragePlan

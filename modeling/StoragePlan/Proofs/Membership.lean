import Mathlib.Algebra.Group.Nat.Even
import StoragePlan.Proofs.Composing
import StoragePlan.Proofs.Sweeping

/-!
# Members that come and go

A device can only be added to a container that it is not a member of, and only a member can be
removed.  So what a plan does to one member of one container is an alternation of additions and
removals (`Alternating`).

* `Alternating.perform`: a call of a plan in the making appends to the alternation.
* `history_prune`: **pruning keeps the last addition or removal, except when there are two**.
* `netChange_prune_iff`: so the net change is kept if there are at most two or an odd number of
  them, and lost otherwise.
-/

namespace StoragePlan

/-- Whether an action puts a member into a container or takes it out. -/
def Action.changesMember (a : Action) (container member : ObjectId) : Bool :=
  a.device == member && a.container? == some container

/-- How many more of some actions are additions of members than removals. -/
def netChange (kinds : List ActionKind) : Int :=
  kinds.count .addMember - kinds.count .removeMember

/-! ## Alternations -/

section

variable {j k : ActionKind} {l kinds : List ActionKind}

/-- There are two kinds of membership action. -/
theorem eq_of_ne_of_ne {i : ActionKind} (hi : i.object = .container) (hj : j.object = .container)
    (hk : k.object = .container) (hij : i ≠ j) (hjk : j ≠ k) : i = k := by
  cases i <;> cases hi <;> cases k <;> cases hk <;> cases j <;> simp_all [ActionKind.object]

theorem netChange_append (l l' : List ActionKind) :
    netChange (l ++ l') = netChange l + netChange l' := by
  unfold netChange
  rw [List.count_append, List.count_append]
  omega

theorem netChange_of_ne (hj : j.object = .container) (hk : k.object = .container) (hne : j ≠ k) :
    netChange [j] + netChange [k] = 0 := by
  cases j <;> cases hj <;> cases k <;> cases hk <;> first | rfl | exact absurd rfl hne

theorem netChange_ne_zero (hk : k.object = .container) : netChange [k] ≠ 0 := by
  cases k <;> cases hk <;> decide

theorem ne_of_isChain (hChain : (l ++ [j] ++ [k]).IsChain (· ≠ ·)) : j ≠ k := by
  rw [List.append_assoc] at hChain
  exact (List.isChain_append.mp hChain).2.1.rel

/-- The last entry of an alternation stands alone or also occurs before, unless there are two
entries. -/
theorem mem_of_alternates (hKinds : ∀ i ∈ l ++ [k], i.object = .container)
    (hChain : (l ++ [k]).IsChain (· ≠ ·)) : k ∈ l ∨ l = [] ↔ (l ++ [k]).length ≠ 2 := by
  rcases List.eq_nil_or_concat l with rfl | ⟨l, j, rfl⟩
  · simp
  rw [List.concat_eq_append] at hKinds hChain ⊢
  have hjk := ne_of_isChain hChain
  rcases List.eq_nil_or_concat l with rfl | ⟨l, i, rfl⟩
  · simp [hjk.symm]
  rw [List.concat_eq_append] at hKinds hChain ⊢
  have hij := ne_of_isChain (List.isChain_append.mp hChain).1
  have hik := eq_of_ne_of_ne (hKinds i (by simp)) (hKinds j (by simp)) (hKinds k (by simp)) hij hjk
  simp [hik]

/-- The net change of an alternation is that of its last entry, or none if its length is even. -/
theorem netChange_of_alternates (hKinds : ∀ i ∈ l ++ [k], i.object = .container)
    (hChain : (l ++ [k]).IsChain (· ≠ ·)) :
    netChange (l ++ [k]) = if Even l.length then netChange [k] else 0 := by
  induction l using List.reverseRecOn generalizing k with
  | nil => simp
  | append_singleton l j ih =>
    have hne := netChange_of_ne (hKinds j (by simp)) (hKinds k (by simp)) (ne_of_isChain hChain)
    have hBefore := ih (fun i hi => hKinds i (List.mem_append_left _ hi))
      (List.isChain_append.mp hChain).1
    rw [netChange_append, hBefore]
    by_cases hEven : Even l.length <;> simp [hEven, Nat.even_add_one, hne]

end

namespace DeviceTree

variable {t t' : DeviceTree} {a b : Action} {p : Preparation} {c m : ObjectId}

/-! ## Actions on one member -/

theorem changesMember_iff : a.changesMember c m = true ↔ a.device = m ∧ a.container? = some c := by
  rw [Action.changesMember, Bool.and_eq_true, beq_iff_eq, beq_iff_eq]

theorem object_of_changesMember (h : a.changesMember c m = true) : a.object = .container := by
  by_contra hObject
  rw [changesMember_iff, container?_eq_none hObject] at h
  cases h.2

theorem sameMembership_iff (hb : b.changesMember c m = true) :
    a.sameMembership b = true ↔ a.changesMember c m = true := by
  obtain ⟨hDevice, hContainer⟩ := changesMember_iff.mp hb
  rw [changesMember_iff, Action.sameMembership, Bool.and_eq_true, beq_iff_eq, beq_iff_eq, hDevice,
    hContainer]

theorem concerns_of_changesMember {d : ObjectId} (h : a.changesMember c m = true) :
    a.concerns d = true ↔ m = d ∨ c = d := by
  obtain ⟨rfl, hContainer⟩ := changesMember_iff.mp h
  simp [Action.concerns, hContainer]

/-- What makes an action on a member unnecessary is an action on the same one, if it and its
container are there. -/
theorem changesMember_of_obsoletes (hc : t.isThere c = true) (hm : t.isThere m = true)
    (h : t.obsoletes a b = true) (hb : b.changesMember c m = true) :
    a.changesMember c m = true := by
  have hObject := object_of_changesMember hb
  have hKind : b.kind = .addMember ∨ b.kind = .removeMember := by
    unfold Action.object at hObject
    cases hKind : b.kind <;> simp_all [ActionKind.object]
  have hType : (b.type == .create || b.type == .resize) = false := by
    rcases hKind with hKind | hKind <;> simp [Action.type, hKind, ActionKind.type]
  cases ha : a.kind
  case destroyDevice =>
    simp only [obsoletes, ha, destroyObsoletes] at h
    split at h
    · cases h
    · rename_i device hDevice
      rw [hType, Bool.and_false] at h
      split at h
      · cases h
      · rename_i hProposed
        have hGone : t.isThere a.device ≠ true := (isThere_of_device? hDevice).symm ▸ hProposed
        rw [Bool.and_eq_true, concerns_of_changesMember hb] at h
        rcases h.1 with rfl | rfl
        · exact absurd hm hGone
        · exact absurd hc hGone
  case addMember | removeMember =>
    rw [← sameMembership_iff hb]
    rcases hKind with hKind | hKind <;> simp_all [obsoletes]
  case destroyFormat => simp [obsoletes, ha, hObject] at h
  all_goals rcases hKind with hKind | hKind <;> simp [obsoletes, ha, hKind] at h

/-- An addition and a removal of one member make each other unnecessary, and of two additions or two
removals the earlier one makes the later one unnecessary. -/
theorem obsoletes_of_changesMember (ha : a.changesMember c m = true)
    (hb : b.changesMember c m = true) :
    t.obsoletes a b = true ↔ a.kind ≠ b.kind ∨ a.id < b.id := by
  have hSame : a.sameMembership b = true := (sameMembership_iff hb).mpr ha
  have ha := object_of_changesMember ha
  have hb := object_of_changesMember hb
  unfold Action.object at ha hb
  cases hka : a.kind <;> simp only [hka, ActionKind.object, reduceCtorEq] at ha <;>
    cases hkb : b.kind <;> simp only [hkb, ActionKind.object, reduceCtorEq] at hb <;>
    simp [obsoletes, hka, hkb, hSame]

/-! ## Members -/

/-- What an action does to the members of a container. -/
theorem parentsOf_act (hRead : t'.read = act t.read a) :
    t'.parentsOf c =
      if a.container? = some c then
        if a.kind = .addMember then t.parentsOf c ++ [a.device] else (t.parentsOf c).erase a.device
      else t.parentsOf c := by
  have hMembers := congrFun hRead (.members c)
  simp only [read, act, Function.update_apply, Action.slot, Action.effect] at hMembers
  unfold Action.container? Action.kind
  cases hOp : a.operation <;> rw [hOp] at hMembers <;>
    simp only [Operation.container?, Operation.kind, reduceCtorEq, if_false, if_true,
      Option.some_inj, Slot.members.injEq, Reading.members.injEq] at hMembers ⊢
  case addMember c' | removeMember c' _ =>
    by_cases hc : c = c'
    · subst hc
      simpa using hMembers
    · rw [if_neg (Ne.symm hc)]
      simpa [hc] using hMembers
  all_goals exact hMembers

theorem mem_parentsOf_act (hRead : t'.read = act t.read a) (hNodup : (t.parentsOf c).Nodup) :
    m ∈ t'.parentsOf c ↔
      if a.changesMember c m then a.kind = .addMember else m ∈ t.parentsOf c := by
  rw [parentsOf_act hRead]
  simp only [changesMember_iff]
  by_cases hContainer : a.container? = some c
  · by_cases hKind : a.kind = .addMember
    · by_cases hm : a.device = m <;> simp [hContainer, hKind, hm, eq_comm (a := m)]
    · by_cases hm : a.device = m <;>
        simp [hContainer, hKind, hm, eq_comm (a := m), hNodup.mem_erase_iff]
  · simp [hContainer]

/-- Only a device that is no member is added, and only a member is removed. -/
theorem Prepares.mem_parentsOf_iff (h : t.Prepares p) (hc : p.operation.container? = some c) :
    p.device ∈ t.parentsOf c ↔ p.operation.kind ≠ .addMember := by
  cases h with
  | addMember hContainer _ _ _ hNew =>
    cases hc
    simpa [parentsOf_eq hContainer, Operation.kind] using hNew
  | removeMember hContainer _ hMember =>
    cases hc
    simpa [parentsOf_eq hContainer, Operation.kind] using hMember
  | _ => cases hc

end DeviceTree

namespace Session

variable {s s' : Session} {a : Action} {c m : ObjectId} {populated : List ObjectId}

/-- The registered actions that add a member to a container or remove it, oldest first. -/
def changesOf (s : Session) (container member : ObjectId) : List Action :=
  s.plan.filter (·.changesMember container member)

/-- What the plan does to a member of a container, in order. -/
def history (s : Session) (container member : ObjectId) : List ActionKind :=
  (s.changesOf container member).map Action.kind

/-- Additions and removals take turns, and the last one says whether the device is a member. -/
structure Alternating (c m : ObjectId) (s : Session) : Prop where
  chain : (s.history c m).IsChain (· ≠ ·)
  member : ∀ k, (s.history c m).getLast? = some k → (m ∈ s.tree.parentsOf c ↔ k = .addMember)

/-! ## Additions and removals take turns -/

theorem object_of_history : ∀ k ∈ s.history c m, k.object = .container := by
  intro k hk
  obtain ⟨a, ha, rfl⟩ := List.mem_map.mp hk
  exact DeviceTree.object_of_changesMember (List.mem_filter.mp ha).2

theorem history_of_plan (h : s'.plan = s.plan) : s'.history c m = s.history c m := by
  rw [history, history, changesOf, changesOf, h]

theorem history_append {state : ActionState} (h : s'.plan = s.plan ++ [{ a with state }]) :
    s'.history c m = s.history c m ++ if a.changesMember c m then [a.kind] else [] := by
  rw [history, changesOf, h, List.filter_append, List.map_append, List.filter_singleton]
  show _ ++ List.map _ (bif a.changesMember c m then _ else _) = _
  cases a.changesMember c m <;> rfl

/-- Each call of a plan in the making goes on with the alternation, if it does anything to the
member at all. -/
theorem Alternating.perform (h : Alternating c m s) (hUnderway : Underway populated s)
    (hc : c ∈ populated) {command : Command} (hComposes : command.composes = true)
    (hFew : (s.perform command).2.storedIds.length < 2 ^ 64 - 1) :
    Alternating c m (s.perform command).2 := by
  cases hUnderway.composed hComposes with
  | quiet hPlan hRegistry hGrows =>
    have hStored := DeviceTree.isSome_of_isThere (hUnderway.standing c hc).isThere
    refine ⟨history_of_plan hPlan ▸ h.chain, ?_⟩
    rw [history_of_plan hPlan, (hGrows hFew).parentsOf hStored]
    exact h.member
  | added p changes hPrepares hApply hPlan hRegistry hNewest =>
    have hMember := DeviceTree.mem_parentsOf_act (m := m) (read_of_added hPrepares hApply)
      (hUnderway.dag.nodup c)
    have hHistory := history_append (c := c) (m := m) hPlan
    by_cases hChanges : (s.actionOf p).changesMember c m = true
    · obtain ⟨rfl, hContainer⟩ := DeviceTree.changesMember_iff.mp hChanges
      have hBefore := hPrepares.mem_parentsOf_iff hContainer
      rw [if_pos hChanges] at hMember hHistory
      refine ⟨?_, fun k hk => ?_⟩
      · rw [hHistory]
        refine List.isChain_append.mpr ⟨h.chain, List.isChain_singleton _, fun k hk i hi => ?_⟩
        rintro rfl
        obtain rfl := Option.some.inj hi
        exact iff_not_self ((h.member _ hk).symm.trans hBefore)
      · rw [hHistory, List.getLast?_concat, Option.some_inj] at hk
        exact hk ▸ hMember
    · rw [if_neg hChanges] at hMember hHistory
      rw [List.append_nil] at hHistory
      refine ⟨hHistory ▸ h.chain, fun k hk => ?_⟩
      rw [hHistory] at hk
      exact hMember.trans (h.member k hk)

/-! ## Pruning -/

section

variable (hUnderway : Underway populated s) (hFew : s.storedIds.length < 2 ^ 64 - 1)
  (hc : c ∈ populated) (hm : m ∈ populated)

include hUnderway

include hFew in
theorem changesOf_increasing : (s.changesOf c m).Pairwise fun a b => a.id < b.id :=
  (plan_increasing hUnderway.listed (hUnderway.increasing hFew)).filter _

include hFew in
/-- After pruning at most one action on a member is left. -/
theorem changesOf_prune_length : (s.prune.2.changesOf c m).length ≤ 1 := by
  have hIncreasing : (s.prune.2.changesOf c m).Pairwise fun a b => a.id < b.id := by
    refine (plan_increasing hUnderway.listed.prune ?_).filter _
    have hSub := (registry_prune_sublist s).trans (registry_withoutTransient_sublist s)
    exact (hUnderway.increasing hFew).sublist hSub
  cases hChanges : s.prune.2.changesOf c m with
  | nil => exact Nat.zero_le 1
  | cons a rest =>
    cases rest with
    | nil => exact le_refl 1
    | cons b rest =>
      rw [hChanges] at hIncreasing
      have hLt := List.rel_of_pairwise_cons hIncreasing List.mem_cons_self
      obtain ⟨ha, ha'⟩ : a ∈ s.prune.2.plan ∧ a.changesMember c m = true :=
        List.mem_filter.mp (show a ∈ s.prune.2.changesOf c m by simp [hChanges])
      obtain ⟨hb, hb'⟩ : b ∈ s.prune.2.plan ∧ b.changesMember c m = true :=
        List.mem_filter.mp (show b ∈ s.prune.2.changesOf c m by simp [hChanges])
      refine absurd (outdone_of_plan ha hb ?_) (not_outdone_prune (mem_plan_iff.mp hb).1)
      exact (DeviceTree.obsoletes_of_changesMember ha' hb').mpr (Or.inr hLt)

include hc hm

theorem changesMember_of_plan {b : Action} (h : s.tree.obsoletes a b = true)
    (hb : b.changesMember c m = true) : a.changesMember c m = true :=
  DeviceTree.changesMember_of_obsoletes (hUnderway.standing c hc).isThere
    (hUnderway.standing m hm).isThere h hb

theorem uncreated_of_changesMember (ha : a.changesMember c m = true) :
    ∀ d, a.concerns d = true → d ∉ s.devicesOf .createDevice := by
  intro d hd
  rcases (DeviceTree.concerns_of_changesMember ha).mp hd with rfl | rfl
  · exact (hUnderway.standing m hm).not_mem_created
  · exact (hUnderway.standing c hc).not_mem_created

include hFew

/-- The newest addition or removal of a member drops those of the other kind in its turn, and if
there are any it goes with them. -/
theorem exists_turn_of_changes {older : List Action} (hSelected : s.changesOf c m = older ++ [a]) :
    ∃ s', Midway s s' ∧ (a.id ∈ s'.registry ↔ ∀ b ∈ older, b.kind = a.kind) ∧
      ∀ b ∈ older, (b.id ∈ s'.registry ↔ b.kind = a.kind) := by
  have hListed := hUnderway.listed
  have hIncreasing := hUnderway.increasing hFew
  obtain ⟨s', hMidway, hNewest, hOlder⟩ := exists_newest_turn hListed hIncreasing hSelected
    (fun b _ b' hObsoletes hb' => changesMember_of_plan hUnderway hc hm hObsoletes hb')
    (fun b _ hb => uncreated_of_changesMember hUnderway hc hm hb)
  have hObsoletes : ∀ {b b'}, b ∈ older ∨ b = a → b' ∈ older ∨ b' = a →
      (s.tree.obsoletes b b' = true ↔ b.kind ≠ b'.kind ∨ b.id < b'.id) := fun hb hb' =>
    DeviceTree.obsoletes_of_changesMember ((selected_iff hSelected).mpr hb).2
      ((selected_iff hSelected).mpr hb').2
  have hLt : ∀ {b}, b ∈ older → b.id < a.id := fun hb => lt_newest hListed hIncreasing hSelected hb
  have hOut : ∀ b ∈ older, (s.tree.obsoletes a b = true ↔ b.kind ≠ a.kind) := by
    intro b hb
    rw [hObsoletes (Or.inr rfl) (Or.inl hb), or_iff_left (UInt64.lt_asymm (hLt hb)), ne_comm]
  refine ⟨s', hMidway, ?_, fun b hb => ?_⟩
  · rw [hNewest, ← Bool.not_eq_true, hObsoletes (Or.inr rfl) (Or.inr rfl)]
    refine (and_iff_right (by simp)).trans (forall₂_congr fun b hb => ?_)
    -- every older one makes the newest unnecessary
    have hBack : s.tree.obsoletes b a = true :=
      (hObsoletes (Or.inl hb) (Or.inr rfl)).mpr (Or.inr (hLt hb))
    rw [hOut b hb, hBack]
    simp
  · rw [hOlder b hb, ← Bool.not_eq_true, hOut b hb, not_ne_iff]

omit hUnderway hFew hc hm in
/-- So those of its kind are left, and there are none if it was one of two. -/
theorem left_of_turn (hAlternating : Alternating c m s) {older : List Action}
    (hSelected : s.changesOf c m = older ++ [a])
    (hNewest : a.id ∈ s'.registry ↔ ∀ b ∈ older, b.kind = a.kind)
    (hOlder : ∀ b ∈ older, (b.id ∈ s'.registry ↔ b.kind = a.kind)) :
    (∀ b ∈ s.changesOf c m, b.id ∈ s'.registry → b.kind = a.kind) ∧
      ((∃ b ∈ s.changesOf c m, b.id ∈ s'.registry) ↔ (s.history c m).length ≠ 2) := by
  have hKinds : s.history c m = older.map Action.kind ++ [a.kind] := by
    rw [history, hSelected, List.map_append]
    rfl
  have hCount := mem_of_alternates (hKinds ▸ object_of_history) (hKinds ▸ hAlternating.chain)
  rw [← hKinds, List.mem_map, List.map_eq_nil_iff] at hCount
  rw [← hCount, hSelected]
  simp only [List.mem_append, List.mem_singleton, or_and_right, exists_or, exists_eq_left]
  rw [hNewest, exists_congr fun b => and_congr_right (hOlder b)]
  refine ⟨?_, ?_, ?_⟩
  · rintro b (hb | rfl) hid
    · exact (hOlder b hb).mp hid
    · rfl
  · rintro (hSome | hAll)
    · exact Or.inl hSome
    · refine Or.symm (or_iff_not_imp_left.mpr fun hne => ?_)
      obtain ⟨b, hb⟩ := List.exists_mem_of_ne_nil older hne
      exact ⟨b, hb, hAll b hb⟩
  · rintro (hSome | rfl)
    · exact Or.inl hSome
    · exact Or.inr fun b hb => absurd hb List.not_mem_nil

/-- Of the additions and removals that are left when the newest had its turn, the oldest stays. -/
theorem exists_changesOf_prune {k : ActionKind} (hMidway : Midway s s')
    (hKind : ∀ b ∈ s.changesOf c m, b.id ∈ s'.registry → b.kind = k)
    (hSome : ∃ b ∈ s.changesOf c m, b.id ∈ s'.registry) :
    ∃ b, b ∈ s.prune.2.changesOf c m := by
  obtain ⟨l₁, b, l₂, hChanges, hid, hFirst⟩ := Precedence.exists_first hSome
  have hIncreasing := changesOf_increasing (c := c) (m := m) hUnderway hFew
  have hb : b ∈ s.changesOf c m := by simp [hChanges]
  obtain ⟨hPlan, hMember⟩ := List.mem_filter.mp hb
  refine ⟨b, (mem_filter_plan_prune hUnderway.listed).mpr ⟨hb, hMidway.mem_prune hPlan hid ?_⟩⟩
  intro b' hPlan' hThere
  by_contra hObsoletes
  rw [Bool.not_eq_false] at hObsoletes
  have hMember' := changesMember_of_plan hUnderway hc hm hObsoletes hMember
  have hb' : b' ∈ s.changesOf c m := List.mem_filter.mpr ⟨hPlan', hMember'⟩
  -- an older one of its kind would have been the oldest
  have hLt : b'.id < b.id := by
    refine ((DeviceTree.obsoletes_of_changesMember hMember' hMember).mp hObsoletes).resolve_left ?_
    rw [hKind b hb hid, hKind b' hb' hThere]
    exact not_not.mpr rfl
  rw [hChanges] at hb' hIncreasing
  rcases List.mem_append.mp hb' with hb' | hb'
  · exact hFirst b' hb' hThere
  · rcases List.mem_cons.mp hb' with rfl | hb'
    · exact UInt64.lt_irrefl _ hLt
    · have hOrder := List.rel_of_pairwise_cons (List.pairwise_append.mp hIncreasing).2.1 hb'
      exact UInt64.lt_asymm hLt hOrder

/-- **Pruning keeps the last addition or removal of a member, except when there are two.** -/
theorem history_prune (hAlternating : Alternating c m s) :
    s.prune.2.history c m =
      if (s.history c m).length = 2 then [] else (s.history c m).getLast?.toList := by
  have hMem : ∀ b, b ∈ s.prune.2.changesOf c m ↔
      b ∈ s.changesOf c m ∧ b.id ∈ s.prune.2.registry := fun b =>
    mem_filter_plan_prune hUnderway.listed
  rcases List.eq_nil_or_concat (s.changesOf c m) with hNone | ⟨older, a, hSelected⟩
  · have hNone' : s.prune.2.changesOf c m = [] :=
      filter_plan_prune_eq_nil hUnderway.listed hNone
    simp [history, hNone, hNone']
  rw [List.concat_eq_append] at hSelected
  obtain ⟨s', hMidway, hNewest, hOlder⟩ := exists_turn_of_changes hUnderway hFew hc hm hSelected
  obtain ⟨hKind, hCount⟩ := left_of_turn hAlternating hSelected hNewest hOlder
  have hLast : (s.history c m).getLast?.toList = [a.kind] := by
    rw [history, hSelected, List.map_append, List.map_singleton, List.getLast?_concat]
    rfl
  rw [hLast]
  cases hLeft : s.prune.2.changesOf c m with
  | nil =>
    have hTwo : (s.history c m).length = 2 := by
      by_contra hTwo
      obtain ⟨b, hb⟩ :=
        exists_changesOf_prune hUnderway hFew hc hm hMidway hKind (hCount.mpr hTwo)
      rw [hLeft] at hb
      cases hb
    rw [if_pos hTwo, history, hLeft]
    rfl
  | cons b rest =>
    have hLength := changesOf_prune_length (c := c) (m := m) hUnderway hFew
    have hb := (hMem b).mp (hLeft ▸ List.mem_cons_self)
    have hid := hMidway.rest.registry.subset hb.2
    rw [hLeft, List.length_cons] at hLength
    obtain rfl := List.length_eq_zero_iff.mp (Nat.le_zero.mp (Nat.le_of_succ_le_succ hLength))
    rw [if_neg (hCount.mp ⟨b, hb.1, hid⟩), history, hLeft, List.map_singleton, hKind b hb.1 hid]

/-- The net change stays as it is unless there are four, six, eight of them, and so on. -/
theorem netChange_prune_iff (hAlternating : Alternating c m s) :
    netChange (s.prune.2.history c m) = netChange (s.history c m) ↔
      (Even (s.history c m).length → (s.history c m).length ≤ 2) := by
  rw [history_prune hUnderway hFew hc hm hAlternating]
  have hKinds := object_of_history (s := s) (c := c) (m := m)
  have hChain := hAlternating.chain
  rcases List.eq_nil_or_concat (s.history c m) with hNone | ⟨l, k, hHistory⟩
  · simp [hNone]
  rw [List.concat_eq_append] at hHistory
  rw [hHistory] at hKinds hChain ⊢
  rw [netChange_of_alternates hKinds hChain, List.getLast?_concat, List.length_append,
    List.length_singleton, Nat.even_add_one]
  by_cases hEven : Even l.length
  · have hTwo : l.length + 1 ≠ 2 := by
      intro h
      rw [show l.length = 1 by omega] at hEven
      exact absurd hEven (by decide)
    simp [hEven, hTwo]
  · by_cases hTwo : l.length = 1
    · simp [hTwo, netChange]
    · have hMany : ¬ l.length + 1 ≤ 2 := by
        intro h
        rw [show l.length = 0 by omega] at hEven
        exact hEven (by decide)
      have hNet := netChange_ne_zero (hKinds k (by simp))
      simp [hEven, hTwo, hMany, hNet]

end

/-! ## Plans that were scheduled on populated devices -/

theorem alternating_of_plan_nil (h : s.plan = []) : Alternating c m s := by
  have hNone : s.history c m = [] := by
    rw [history, changesOf, h]
    rfl
  exact ⟨hNone ▸ List.isChain_nil, fun k hk => by rw [hNone] at hk; cases hk⟩

/-- **What pruning does to the additions and removals of a member.**  Actions are scheduled on a
tree that was populated, and devices and formats are made for them, while ids are left.  Then
pruning leaves for each two populated devices the last addition or removal of the one to the other,
unless there are exactly two.  It keeps the net change exactly when there is an odd number of
additions and removals or at most two of them. -/
theorem netChange_after_prune (populating planning : List Command)
    (hPopulates : ∀ command ∈ populating, command.populates = true)
    (hComposes : ∀ command ∈ planning, command.composes = true) :
    let start := ({} : Session).performAll populating
    let s := start.performAll planning
    s.storedIds.length < 2 ^ 64 - 1 → ∀ c ∈ start.tree.order, ∀ m ∈ start.tree.order,
      s.prune.2.history c m =
          (if (s.history c m).length = 2 then [] else (s.history c m).getLast?.toList) ∧
      (netChange (s.prune.2.history c m) = netChange (s.history c m) ↔
        (Even (s.history c m).length → (s.history c m).length ≤ 2)) := by
  intro start s hFew c hc m hm
  obtain ⟨hEmpty, hStart⟩ := underway_of_populated hPopulates
  obtain ⟨hUnderway, hAlternating⟩ := hStart.performAll (I := Alternating c m)
    (fun _ _ hCommand => hCommand)
    (fun _ _ hCommand hUnderway hFew h => h.perform hUnderway hc hCommand hFew)
    (alternating_of_plan_nil hEmpty) (along_of_forall hComposes start)
  exact ⟨history_prune hUnderway hFew hc hm (hAlternating hFew),
    netChange_prune_iff hUnderway hFew hc hm (hAlternating hFew)⟩

/-- A partition goes into a volume group, out of it and in again, while another one goes out. -/
theorem netChange_after_prune_of_second_thoughts :
    let populating : List Command := [
      .adoptDevice { name := "sda", kind := .disk } "" "",
      .adoptDevice { name := "sda1", kind := .partition, parents := [2] } "lvmpv" "",
      .adoptDevice { name := "sda2", kind := .partition, parents := [2] } "lvmpv" "",
      .adoptDevice { name := "vg", kind := .volumeGroup, parents := [4] } "" ""]
    let planning : List Command := [.schedule (.addMember 10 7), .schedule (.removeMember 10 7),
      .schedule (.removeMember 10 4), .schedule (.addMember 10 7)]
    let start := ({} : Session).performAll populating
    let s := start.performAll planning
    ((∀ command ∈ populating, command.populates = true) ∧
      (∀ command ∈ planning, command.composes = true) ∧
      s.storedIds.length < 2 ^ 64 - 1 ∧ start.tree.order = [2, 4, 7, 10] ∧
      s.history 10 7 = [.addMember, .removeMember, .addMember] ∧
      s.prune.2.history 10 7 = [.addMember] ∧ s.prune.2.history 10 4 = [.removeMember]) ∧
    ∀ c ∈ start.tree.order, ∀ m ∈ start.tree.order,
      s.prune.2.history c m =
          (if (s.history c m).length = 2 then [] else (s.history c m).getLast?.toList) ∧
      (netChange (s.prune.2.history c m) = netChange (s.history c m) ↔
        (Even (s.history c m).length → (s.history c m).length ≤ 2)) := by
  intro populating planning start s
  have hPopulates : ∀ command ∈ populating, command.populates = true := by decide
  have hComposes : ∀ command ∈ planning, command.composes = true := by decide
  have hFew : s.storedIds.length < 2 ^ 64 - 1 := by decide +kernel
  exact ⟨⟨hPopulates, hComposes, hFew, by decide +kernel, by decide +kernel, by decide +kernel,
    by decide +kernel⟩, netChange_after_prune populating planning hPopulates hComposes hFew⟩

/-- A partition is added to a volume group and removed from it, twice.  Of the four actions, which
change nothing together, pruning leaves one removal. -/
theorem netChange_lost_of_two_rounds :
    let s := ({} : Session).performAll [
      .adoptDevice { name := "sda", kind := .disk } "" "",
      .adoptDevice { name := "sda1", kind := .partition, parents := [2] } "lvmpv" "",
      .adoptDevice { name := "sda2", kind := .partition, parents := [2] } "lvmpv" "",
      .adoptDevice { name := "vg", kind := .volumeGroup, parents := [4] } "" "",
      .schedule (.addMember 10 7), .schedule (.removeMember 10 7),
      .schedule (.addMember 10 7), .schedule (.removeMember 10 7)]
    s.history 10 7 = [.addMember, .removeMember, .addMember, .removeMember] ∧
      s.prune.2.history 10 7 = [.removeMember] ∧ s.prune.2.registry = [12] ∧
      netChange (s.history 10 7) = 0 ∧ netChange (s.prune.2.history 10 7) = -1 := by
  decide +kernel

end Session

end StoragePlan

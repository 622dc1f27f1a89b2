import StoragePlan.Proofs.Pruning

/-!
# What sweeps leave

A sweep gives every registered action its turn, newest first.  In its turn an action drops what it
makes unnecessary, and itself when it cancels out with one of these (`CancelsOut`).

* `mem_registry_pruneFor`: what one turn leaves.
* `not_outdone_prune`: **after pruning no action makes another one unnecessary**.
* `exists_newest_turn`: actions that only each other make unnecessary, say all on one device, are
  all still there when the newest of them has its turn.
-/

namespace StoragePlan.Session

variable {s s₀ s' s'' : Session} {id n x : ObjectId} {a : Action} {l₁ l₂ : List ObjectId}

/-! ## One turn -/

/-- An action makes itself unnecessary, or it and another registered one do this to each other. -/
def CancelsOut (s : Session) (id : ObjectId) : Prop :=
  s.obsoletes id id = true ∨
    ∃ other ∈ s.registry, other ≠ id ∧ s.obsoletes id other = true ∧ s.obsoletes other id = true

theorem exists_mem_plan (hid : id ∈ s.registry) (h : (s.action? id).isSome) :
    ∃ a ∈ s.plan, a.id = id := by
  obtain ⟨a, ha⟩ := Option.isSome_iff_exists.mp h
  obtain rfl := id_of_action? ha
  exact ⟨a, mem_plan_iff.mpr ⟨hid, ha⟩, rfl⟩

theorem mem_ids_obsoletedBy (ha : a ∈ s.plan) : id ∈ (s.obsoletedBy a).map Action.id ↔
    id ∈ s.registry ∧ id ≠ a.id ∧ s.obsoletes a.id id = true := by
  constructor
  · intro h
    obtain ⟨b, hb, rfl⟩ := List.mem_map.mp h
    obtain ⟨hb, hBoth⟩ := List.mem_filter.mp hb
    obtain ⟨hne, hObsoletes⟩ := Bool.and_eq_true_iff.mp hBoth
    exact ⟨(mem_plan_iff.mp hb).1, bne_iff_ne.mp hne, (obsoletes_of_plan ha hb).trans hObsoletes⟩
  · rintro ⟨hid, hne, hObsoletes⟩
    obtain ⟨_, y, _, hy, _⟩ := exists_of_obsoletes hObsoletes
    obtain ⟨b, hb, rfl⟩ := exists_mem_plan hid (Option.isSome_of_eq_some hy)
    rw [obsoletes_of_plan ha hb] at hObsoletes
    exact List.mem_map.mpr ⟨b, List.mem_filter.mpr
      ⟨hb, Bool.and_eq_true_iff.mpr ⟨bne_iff_ne.mpr hne, hObsoletes⟩⟩, rfl⟩

theorem goesToo_iff (ha : a ∈ s.plan) : s.goesToo a = true ↔ s.CancelsOut a.id := by
  unfold goesToo CancelsOut
  rw [Bool.or_eq_true, List.any_eq_true, obsoletes_of_plan ha ha]
  refine or_congr_right ⟨?_, ?_⟩
  · rintro ⟨b, hb, hBack⟩
    obtain ⟨hReg, hne, hObsoletes⟩ :=
      (mem_ids_obsoletedBy ha).mp (List.mem_map_of_mem (f := Action.id) hb)
    have hPlan := (List.mem_filter.mp hb).1
    exact ⟨b.id, hReg, hne, hObsoletes, (obsoletes_of_plan hPlan ha).trans hBack⟩
  · rintro ⟨other, hReg, hne, hObsoletes, hBack⟩
    obtain ⟨b, hb, rfl⟩ := List.mem_map.mp ((mem_ids_obsoletedBy ha).mpr ⟨hReg, hne, hObsoletes⟩)
    rw [obsoletes_of_plan (List.mem_filter.mp hb).1 ha] at hBack
    exact ⟨b, hb, hBack⟩

/-- **A turn drops what the action makes unnecessary, and the action itself if it cancels out.** -/
theorem mem_registry_pruneFor (ha : a ∈ s.plan) : id ∈ (s.pruneFor a).2.registry ↔
    id ∈ s.registry ∧ if id = a.id then ¬ s.CancelsOut a.id else s.obsoletes a.id id = false := by
  have hOthers : id ∈ (s.pruneAll ("obsoleted by " ++ a.displayId)
      ((s.obsoletedBy a).map Action.id)).registry ↔
        id ∈ s.registry ∧ (id ≠ a.id → s.obsoletes a.id id = false) := by
    rw [registry_pruneAll, List.mem_filter, decide_eq_true_eq, mem_ids_obsoletedBy ha]
    simp only [not_and, Bool.not_eq_true]
    exact and_congr_right fun hid => ⟨fun h => h hid, fun h _ => h⟩
  unfold pruneFor
  dsimp only
  split
  · rename_i hToo
    show id ∈ (Session.registry _).filter _ ↔ _
    rw [List.mem_filter, hOthers, decide_eq_true_eq]
    have hCancels := (goesToo_iff ha).mp hToo
    by_cases hid : id = a.id <;> simp [hid, hCancels]
  · rename_i hStays
    rw [hOthers]
    have hCancels : ¬ s.CancelsOut a.id := fun h => hStays ((goesToo_iff ha).mpr h)
    by_cases hid : id = a.id <;> simp [hid, hCancels]

/-! ## Sweeps -/

theorem Pruned.trans (h : Pruned s₀ s') (h' : Pruned s' s'') : Pruned s₀ s'' where
  tree := h'.tree.trans h.tree
  actions := h.actions.trans h'.actions
  registry := h'.registry.trans h.registry
  reason := by
    intro id hid hDropped
    by_cases hBetween : id ∈ s'.registry
    · exact h.outdone (h'.reason id hBetween hDropped)
    · exact h.reason id hid hBetween

theorem Pruned.obsoletes (h : Pruned s s') (a b : ObjectId) :
    s'.obsoletes a b = s.obsoletes a b :=
  h.actions.obsoletes h.tree a b

theorem Pruned.isSome (h : Pruned s s') : (s'.action? id).isSome = (s.action? id).isSome := by
  rw [← Option.isSome_map (f := Action.core), h.actions id, Option.isSome_map]

theorem pruned_pruneFor (ha : a ∈ s.plan) : Pruned s (s.pruneFor a).2 :=
  pruneFor_preserves (Q := s.Outdone) (fun _ reason _ h hid => h.pruneAction reason hid)
    (fun _ _ h _ hid => h.outdone hid) (Pruned.refl s) ha

theorem pruned_sweepOver (s : Session) (ids : List ObjectId) : Pruned s (s.sweepOver ids).2 :=
  sweepOver_preserves (Q := s.Outdone) (fun _ reason _ h hid => h.pruneAction reason hid)
    (fun _ _ h _ hid => h.outdone hid) (Pruned.refl s) ids

theorem sweepOver_of_registered (ha : a ∈ s.plan) (ids : List ObjectId) :
    (s.sweepOver (a.id :: ids)).2 = ((s.pruneFor a).2.sweepOver ids).2 := by
  obtain ⟨hid, ha⟩ := mem_plan_iff.mp ha
  have hFilter : ((s.action? a.id).filter fun a => s.isRegistered a.id) = some a := by
    rw [ha]
    simp [Option.filter, isRegistered, hid]
  rw [sweepOver, hFilter]

/-- An entry of the registry has its turn, or it is passed over. -/
theorem sweepOver_cons (s : Session) (id : ObjectId) :
    ∃ s', (∀ ids, (s.sweepOver (id :: ids)).2 = (s'.sweepOver ids).2) ∧
      (s' = s ∨ ∃ a ∈ s.plan, a.id = id ∧ s' = (s.pruneFor a).2) := by
  by_cases hPlan : ∃ a ∈ s.plan, a.id = id
  · obtain ⟨a, ha, rfl⟩ := hPlan
    exact ⟨_, sweepOver_of_registered ha, Or.inr ⟨a, ha, rfl, rfl⟩⟩
  · refine ⟨s, fun ids => ?_, Or.inl rfl⟩
    have hFilter : ((s.action? id).filter fun a => s.isRegistered a.id) = none := by
      refine Option.eq_none_iff_forall_ne_some.mpr fun a hTurn => ?_
      exact hPlan ⟨a, mem_plan_of_turn hTurn⟩
    rw [sweepOver, hFilter]

theorem sweepOver_append (s : Session) (ids ids' : List ObjectId) :
    (s.sweepOver (ids ++ ids')).2 = ((s.sweepOver ids).2.sweepOver ids').2 := by
  induction ids generalizing s with
  | nil => rfl
  | cons id ids ih =>
    obtain ⟨s', hCons, _⟩ := s.sweepOver_cons id
    rw [List.cons_append, hCons, hCons, ih]

/-- The turn of an action in a sweep. -/
theorem pruned_turn (hRegistry : s.registry = l₁ ++ a.id :: l₂)
    (ha : a ∈ (s.sweepOver l₂.reverse).2.plan) :
    Pruned ((s.sweepOver l₂.reverse).2.pruneFor a).2 s.sweep.2 := by
  have hReverse : s.registry.reverse = l₂.reverse ++ a.id :: l₁.reverse := by
    rw [hRegistry]
    simp
  rw [sweep, hReverse, sweepOver_append, sweepOver_of_registered ha]
  exact pruned_sweepOver _ _

/-- An action stays while those have their turns that do not bear on it. -/
theorem mem_sweepOver {Q : ObjectId → Prop} {ids : List ObjectId}
    (hClosed : ∀ x ∈ s.registry, ∀ y, s.obsoletes x y = true → Q y → Q x)
    (hOther : ∀ x ∈ ids, ¬ Q x) (hid : id ∈ s.registry) (hQ : Q id) :
    id ∈ (s.sweepOver ids).2.registry := by
  induction ids generalizing s with
  | nil => exact hid
  | cons other ids ih =>
    have hRest := fun x hx => hOther x (List.mem_cons_of_mem other hx)
    have hFirst : ¬ Q other := hOther other List.mem_cons_self
    obtain ⟨s', hCons, rfl | ⟨a, ha, rfl, rfl⟩⟩ := s.sweepOver_cons other
    · rw [hCons]
      exact ih hClosed hRest hid
    · rw [hCons]
      have hTurn := pruned_pruneFor ha
      refine ih (fun x hx y => ?_) hRest ((mem_registry_pruneFor ha).mpr ⟨hid, ?_⟩)
      · rw [hTurn.obsoletes]
        exact hClosed x (hTurn.registry.subset hx) y
      · rw [if_neg fun hSame : id = a.id => hFirst (hSame ▸ hQ)]
        by_contra hObsoletes
        rw [Bool.not_eq_false] at hObsoletes
        exact hFirst (hClosed _ (mem_plan_iff.mp ha).1 _ hObsoletes hQ)

/-! ## The last sweep -/

/-- Pruning ends with a sweep that drops nothing. -/
theorem exists_last_sweep (s : Session) :
    ∃ s', Pruned s s' ∧ s.pruneObsolete.2 = s'.sweep.2 ∧ s'.sweep.2.registry = s'.registry := by
  refine pruneObsolete_induction (motive := fun s answer => ∃ s', Pruned s s' ∧
    answer.2 = s'.sweep.2 ∧ s'.sweep.2.registry = s'.registry) (fun s hStays => ?_)
    (fun s _ ih => ?_) s
  · exact ⟨s, Pruned.refl s, rfl,
      (pruned_sweepOver s _).registry.eq_of_length_le (Nat.not_lt.mp hStays)⟩
  · obtain ⟨s', hPruned, hLast⟩ := ih
    exact ⟨s', (pruned_sweepOver s _).trans hPruned, hLast⟩

/-- A sweep that drops nothing finds no action that is unnecessary. -/
theorem not_outdone_of_sweep (hSame : s.sweep.2.registry = s.registry) (hid : id ∈ s.registry) :
    ¬ s.Outdone id := by
  rintro ⟨other, hOther, hObsoletes⟩
  obtain ⟨l₁, l₂, hRegistry⟩ := List.mem_iff_append.mp hOther
  have hBefore := pruned_sweepOver s l₂.reverse
  -- nothing was dropped before the turn of the other action either
  have hReverse : s.registry.reverse = l₂.reverse ++ other :: l₁.reverse := by
    rw [hRegistry]
    simp
  have hKept : s.registry.Sublist (s.sweepOver l₂.reverse).2.registry := by
    rw [← hSame, sweep, hReverse, sweepOver_append]
    exact (pruned_sweepOver _ _).registry
  obtain ⟨x, _, hx, _, _⟩ := exists_of_obsoletes hObsoletes
  obtain ⟨a, ha, rfl⟩ := exists_mem_plan (hKept.subset hOther)
    (hBefore.isSome.trans (Option.isSome_of_eq_some hx))
  have hStays := (pruned_turn hRegistry ha).registry.subset (hSame ▸ hid)
  obtain ⟨_, hStays⟩ := (mem_registry_pruneFor ha).mp hStays
  rw [← hBefore.obsoletes] at hObsoletes
  split at hStays
  · rename_i hSelf
    exact hStays (Or.inl (hSelf ▸ hObsoletes))
  · rw [hStays] at hObsoletes
    cases hObsoletes

/-- **After pruning no action makes another one, or itself, unnecessary.** -/
theorem not_outdone_prune (hid : id ∈ s.prune.2.registry) : ¬ s.prune.2.Outdone id := by
  obtain ⟨s', _, hLast, hSame⟩ := exists_last_sweep s.withoutTransient
  have hPrune : s.prune.2 = s'.sweep.2 := hLast
  rw [hPrune] at hid ⊢
  rintro ⟨other, hOther, hObsoletes⟩
  refine not_outdone_of_sweep hSame (hSame ▸ hid) ⟨other, hSame ▸ hOther, ?_⟩
  exact ((pruned_sweepOver s' _).obsoletes other id).symm.trans hObsoletes

/-! ## The turn of the newest action -/

theorem cancelsOut_congr (hObsoletes : ∀ x y, s'.obsoletes x y = s.obsoletes x y)
    (hSub : s'.registry ⊆ s.registry)
    (hSame : ∀ x ∈ s.registry, s.obsoletes x n = true → x ∈ s'.registry) :
    s'.CancelsOut n ↔ s.CancelsOut n := by
  unfold CancelsOut
  simp only [hObsoletes]
  refine or_congr_right (exists_congr fun x => ?_)
  constructor
  · rintro ⟨hx, hne, hOut, hBack⟩
    exact ⟨hSub hx, hne, hOut, hBack⟩
  · rintro ⟨hx, hne, hOut, hBack⟩
    exact ⟨hSame x hx hBack, hne, hOut, hBack⟩

section

variable {Q : ObjectId → Prop}
  (hClosed : ∀ x ∈ s.registry, ∀ y, s.obsoletes x y = true → Q y → Q x) (hQ : Q n)

include hClosed hQ

/-- The newest of some actions that only each other make unnecessary has its turn while all of them
are there. -/
theorem exists_turn (hn : n ∈ s.registry) (hSome : (s.action? n).isSome)
    (hNewest : ∀ x, x ≠ n → Precedence.Precedes s.registry n x → ¬ Q x) :
    ∃ s', Pruned s s' ∧ (∀ x, Q x → (x ∈ s'.registry ↔ x ∈ s.registry)) ∧
      ∃ a ∈ s'.plan, a.id = n ∧ Pruned (s'.pruneFor a).2 s.sweep.2 := by
  obtain ⟨newer, older, hReverse, hLast⟩ := List.eq_append_cons_of_mem (List.mem_reverse.mpr hn)
  have hRegistry : s.registry = older.reverse ++ n :: newer.reverse := by
    rw [← List.reverse_reverse s.registry, hReverse]
    simp
  have hOther : ∀ x ∈ newer, ¬ Q x := by
    intro x hx
    refine hNewest x (fun hSame => hLast (hSame ▸ hx)) ?_
    rw [hRegistry]
    exact List.Sublist.trans (by simpa using hx) (List.sublist_append_right older.reverse _)
  have hBefore := pruned_sweepOver s newer
  have hThere : ∀ x, Q x → (x ∈ (s.sweepOver newer).2.registry ↔ x ∈ s.registry) :=
    fun x hx => ⟨fun h => hBefore.registry.subset h, fun h => mem_sweepOver hClosed hOther h hx⟩
  obtain ⟨a, ha, rfl⟩ := exists_mem_plan ((hThere n hQ).mpr hn) (hBefore.isSome.trans hSome)
  refine ⟨_, hBefore, hThere, a, ha, rfl, ?_⟩
  simpa using pruned_turn hRegistry (by simpa using ha)

/-- What is left of them after its turn. -/
theorem exists_after_turn (hn : n ∈ s.registry) (hSome : (s.action? n).isSome)
    (hNewest : ∀ x, x ≠ n → Precedence.Precedes s.registry n x → ¬ Q x) :
    ∃ s', Pruned s s' ∧ Pruned s' s.sweep.2 ∧ ∀ x, Q x → (x ∈ s'.registry ↔
      x ∈ s.registry ∧ if x = n then ¬ s.CancelsOut n else s.obsoletes n x = false) := by
  obtain ⟨s', hBefore, hThere, a, ha, rfl, hAfter⟩ := exists_turn hClosed hQ hn hSome hNewest
  refine ⟨_, hBefore.trans (pruned_pruneFor ha), hAfter, fun x hx => ?_⟩
  have hCancels := cancelsOut_congr hBefore.obsoletes hBefore.registry.subset
    fun x hx hBack => (hThere x (hClosed x hx a.id hBack hQ)).mpr hx
  rw [mem_registry_pruneFor ha, hThere x hx, hCancels, hBefore.obsoletes]

end

theorem pruned_sweep (s : Session) : Pruned s.sweep.2 s.pruneObsolete.2 := by
  rw [pruneObsolete]
  dsimp only
  split
  · exact pruned_pruneObsolete _
  · exact Pruned.refl _

theorem obsoletes_withoutTransient (s : Session) (a b : ObjectId) :
    s.withoutTransient.obsoletes a b = s.obsoletes a b :=
  have hSame := pruneAll_same s "device is created and destroyed" s.transientActions
  hSame.2.obsoletes hSame.1 a b

theorem isSome_withoutTransient (s : Session) (id : ObjectId) :
    (s.withoutTransient.action? id).isSome = (s.action? id).isSome := by
  have hSame := (pruneAll_same s "device is created and destroyed" s.transientActions).2 id
  rw [withoutTransient, ← Option.isSome_map (f := Action.core), hSame, Option.isSome_map]

/-! ## The plan after pruning -/

theorem Listed.prune (hListed : s.Listed) : s.prune.2.Listed := hListed.perform .prune

/-- Pruning keeps some of the registered actions as they are. -/
theorem mem_plan_prune (hListed : s.Listed) :
    a ∈ s.prune.2.plan ↔ a ∈ s.plan ∧ a.id ∈ s.prune.2.registry := by
  have hSub := (registry_prune_sublist s).trans (registry_withoutTransient_sublist s)
  have hSame : ∀ id ∈ s.prune.2.registry, s.prune.2.action? id = s.action? id := by
    intro id hid
    obtain ⟨b, hb, hState⟩ := (hListed.prune.mem_iff id).mp hid
    obtain ⟨c, hc, hState'⟩ := (hListed.mem_iff id).mp (hSub.subset hid)
    obtain ⟨c', hc', hCore⟩ := (sameActions_prune s).exists_core hb
    obtain rfl : c = c' := Option.some.inj (hc ▸ hc')
    rw [hb, hc]
    cases b
    cases c
    simp only [Action.core, Action.mk.injEq] at hCore hState hState' ⊢
    simp [hCore, hState, hState']
  rw [mem_plan_iff, mem_plan_iff]
  constructor
  · rintro ⟨hid, ha⟩
    exact ⟨⟨hSub.subset hid, hSame _ hid ▸ ha⟩, hid⟩
  · rintro ⟨⟨_, ha⟩, hid⟩
    exact ⟨hid, (hSame _ hid).trans ha⟩

theorem mem_filter_plan_prune {p : Action → Bool} (hListed : s.Listed) :
    a ∈ s.prune.2.plan.filter p ↔ a ∈ s.plan.filter p ∧ a.id ∈ s.prune.2.registry := by
  rw [List.mem_filter, List.mem_filter, mem_plan_prune hListed, and_right_comm]

theorem filter_plan_prune_eq_nil {p : Action → Bool} (hListed : s.Listed)
    (h : s.plan.filter p = []) : s.prune.2.plan.filter p = [] := by
  refine List.eq_nil_iff_forall_not_mem.mpr fun a ha => ?_
  have ha := ((mem_filter_plan_prune hListed).mp ha).1
  rw [h] at ha
  cases ha

theorem plan_increasing (hListed : s.Listed) (hIncreasing : s.registry.Pairwise (· < ·)) :
    s.plan.Pairwise fun a b => a.id < b.id := by
  rw [← hListed.ids_plan] at hIncreasing
  exact List.pairwise_map.mp hIncreasing

theorem exists_of_obsoletes_plan (hx : x ∈ s.registry) (ha : a ∈ s.plan)
    (h : s.obsoletes x a.id = true) : ∃ b ∈ s.plan, b.id = x ∧ s.tree.obsoletes b a = true := by
  obtain ⟨_, _, hFound, _, _⟩ := exists_of_obsoletes h
  obtain ⟨b, hb, rfl⟩ := exists_mem_plan hx (Option.isSome_of_eq_some hFound)
  exact ⟨b, hb, rfl, obsoletes_of_plan hb ha ▸ h⟩

/-- What makes an action unnecessary when some others have been dropped already. -/
theorem exists_of_outdone (hSub : s'.registry ⊆ s.registry)
    (hSame : ∀ x y, s'.obsoletes x y = s.obsoletes x y) (ha : a ∈ s.plan)
    (h : s'.Outdone a.id) : ∃ b ∈ s.plan, b.id ∈ s'.registry ∧ s.tree.obsoletes b a = true := by
  obtain ⟨other, hOther, hObsoletes⟩ := h
  rw [hSame] at hObsoletes
  obtain ⟨b, hb, rfl, hba⟩ := exists_of_obsoletes_plan (hSub hOther) ha hObsoletes
  exact ⟨b, hb, hOther, hba⟩

/-- `s'` is `s` on the way to its pruning. -/
structure Midway (s s' : Session) : Prop where
  rest : Pruned s' s.prune.2
  registry : s'.registry.Sublist s.registry
  obsoletes : ∀ x y, s'.obsoletes x y = s.obsoletes x y

/-- What is there midway stays if nothing else that is there makes it unnecessary. -/
theorem Midway.mem_prune (h : Midway s s') (ha : a ∈ s.plan) (hid : a.id ∈ s'.registry)
    (hStays : ∀ b ∈ s.plan, b.id ∈ s'.registry → s.tree.obsoletes b a = false) :
    a.id ∈ s.prune.2.registry := by
  by_contra hDropped
  obtain ⟨b, hb, hThere, hObsoletes⟩ :=
    exists_of_outdone h.registry.subset h.obsoletes ha (h.rest.reason a.id hid hDropped)
  rw [hStays b hb hThere] at hObsoletes
  cases hObsoletes

/-! ## Some of the actions -/

/-- An id names an action that is selected. -/
def Selects (s : Session) (p : Action → Bool) (id : ObjectId) : Prop :=
  ∃ a, s.action? id = some a ∧ p a = true

section

variable {p : Action → Bool}

theorem selects_of_plan (ha : a ∈ s.plan) (hp : p a = true) : s.Selects p a.id :=
  ⟨a, (mem_plan_iff.mp ha).2, hp⟩

theorem exists_of_selects (hid : id ∈ s.registry) (h : s.Selects p id) :
    ∃ a ∈ s.plan, p a = true ∧ a.id = id := by
  obtain ⟨a, ha, hp⟩ := h
  obtain rfl := id_of_action? ha
  exact ⟨a, mem_plan_iff.mpr ⟨hid, ha⟩, hp, rfl⟩

/-- The first pass keeps the selected actions if they concern no device which the plan creates. -/
theorem mem_withoutTransient_of_selects
    (hKept : ∀ a ∈ s.plan, p a = true → ∀ d, a.concerns d = true → d ∉ s.devicesOf .createDevice)
    (h : s.Selects p id) : id ∈ s.withoutTransient.registry ↔ id ∈ s.registry := by
  refine ⟨fun hid => (registry_withoutTransient_sublist s).subset hid, fun hid => ?_⟩
  obtain ⟨a, ha, hp, rfl⟩ := exists_of_selects hid h
  exact mem_withoutTransient ha (hKept a ha hp)

variable {older : List Action} (hListed : s.Listed) (hIncreasing : s.registry.Pairwise (· < ·))
  (hSelected : s.plan.filter p = older ++ [a])

include hSelected

theorem selected_iff {b : Action} : b ∈ s.plan ∧ p b = true ↔ b ∈ older ∨ b = a := by
  rw [← List.mem_filter, hSelected, List.mem_append, List.mem_singleton]

include hListed hIncreasing in
theorem lt_newest {b : Action} (hb : b ∈ older) : b.id < a.id := by
  have hOrder := (plan_increasing hListed hIncreasing).filter p
  rw [hSelected] at hOrder
  exact (List.pairwise_append.mp hOrder).2.2 b hb a (List.mem_singleton_self a)

include hListed hIncreasing in
theorem not_selects_of_precedes (h : Precedence.Precedes s.registry a.id id) :
    ¬ s.Selects p id := by
  intro hSelects
  have hLt := List.pairwise_iff_forall_sublist.mp hIncreasing h
  obtain ⟨b, hb, hp, rfl⟩ := exists_of_selects (h.subset (by simp)) hSelects
  rcases (selected_iff hSelected).mp ⟨hb, hp⟩ with hOlder | rfl
  · exact UInt64.lt_asymm hLt (lt_newest hListed hIncreasing hSelected hOlder)
  · exact UInt64.lt_irrefl _ hLt

variable (hClosed : ∀ b ∈ s.plan, ∀ c, s.tree.obsoletes b c = true → p c = true → p b = true)

include hClosed

omit hSelected in
theorem selects_of_obsoletes : ∀ x ∈ s.registry, ∀ y, s.obsoletes x y = true → s.Selects p y →
    s.Selects p x := by
  rintro x hx y hObsoletes ⟨c, hc, hp⟩
  obtain ⟨b, c', hb, hc', hbc⟩ := exists_of_obsoletes hObsoletes
  obtain rfl : c' = c := Option.some.inj (hc'.symm.trans hc)
  obtain rfl := id_of_action? hb
  exact ⟨b, hb, hClosed b (mem_plan_iff.mpr ⟨hx, hb⟩) c' hbc hp⟩

include hListed hIncreasing

theorem not_cancelsOut_iff : ¬ s.CancelsOut a.id ↔ s.tree.obsoletes a a = false ∧
    ∀ b ∈ older, s.tree.obsoletes a b = true → s.tree.obsoletes b a = false := by
  obtain ⟨hPlan, hp⟩ := (selected_iff hSelected).mpr (Or.inr rfl)
  unfold CancelsOut
  rw [not_or, obsoletes_of_plan hPlan hPlan, Bool.not_eq_true]
  refine and_congr_right fun _ => ⟨?_, ?_⟩
  · intro hNone b hb hOut
    by_contra hBack
    rw [Bool.not_eq_false] at hBack
    have hb' := ((selected_iff hSelected).mpr (Or.inl hb)).1
    refine hNone ⟨b.id, (mem_plan_iff.mp hb').1,
      UInt64.ne_of_lt (lt_newest hListed hIncreasing hSelected hb), ?_, ?_⟩
    · rwa [obsoletes_of_plan hPlan hb']
    · rwa [obsoletes_of_plan hb' hPlan]
  · rintro hNone ⟨other, hOther, hne, hOut, hBack⟩
    obtain ⟨_, y, _, hy, _⟩ := exists_of_obsoletes hOut
    obtain ⟨b, hb, rfl⟩ := exists_mem_plan hOther (Option.isSome_of_eq_some hy)
    rw [obsoletes_of_plan hPlan hb] at hOut
    rw [obsoletes_of_plan hb hPlan] at hBack
    rcases (selected_iff hSelected).mp ⟨hb, hClosed b hb a hBack hp⟩ with hOlder | rfl
    · rw [hNone b hOlder hOut] at hBack
      cases hBack
    · exact hne rfl

/-- **The newest of some actions that only each other make unnecessary has its turn first.**  It
drops those of the others that it makes unnecessary, and itself if it cancels out. -/
theorem exists_newest_turn
    (hKept : ∀ b ∈ s.plan, p b = true → ∀ d, b.concerns d = true → d ∉ s.devicesOf .createDevice) :
    ∃ s', Midway s s' ∧
      (a.id ∈ s'.registry ↔ s.tree.obsoletes a a = false ∧
        ∀ b ∈ older, s.tree.obsoletes a b = true → s.tree.obsoletes b a = false) ∧
      ∀ b ∈ older, (b.id ∈ s'.registry ↔ s.tree.obsoletes a b = false) := by
  obtain ⟨hPlan, hp⟩ := (selected_iff hSelected).mpr (Or.inr rfl)
  obtain ⟨hid, ha⟩ := mem_plan_iff.mp hPlan
  have hSub := registry_withoutTransient_sublist s
  have hThis : s.Selects p a.id := selects_of_plan hPlan hp
  have hBack := selects_of_obsoletes hClosed
  have hFirst : ∀ x, s.Selects p x → (x ∈ s.withoutTransient.registry ↔ x ∈ s.registry) :=
    fun x hx => mem_withoutTransient_of_selects hKept hx
  have hSome : (s.withoutTransient.action? a.id).isSome :=
    (s.isSome_withoutTransient a.id).trans (Option.isSome_of_eq_some ha)
  obtain ⟨s', hBefore, hAfter, hTurn⟩ := exists_after_turn (s := s.withoutTransient)
    (fun x hx y hObsoletes =>
      hBack x (hSub.subset hx) y (s.obsoletes_withoutTransient x y ▸ hObsoletes))
    hThis ((hFirst _ hThis).mpr hid) hSome
    (fun x _ hx => not_selects_of_precedes hListed hIncreasing hSelected (hx.trans hSub))
  refine ⟨s', ⟨hAfter.trans (pruned_sweep _), hBefore.registry.trans hSub,
    fun x y => (hBefore.obsoletes x y).trans (s.obsoletes_withoutTransient x y)⟩, ?_, ?_⟩
  · rw [hTurn _ hThis, hFirst _ hThis, if_pos rfl, cancelsOut_congr s.obsoletes_withoutTransient
      hSub.subset fun x hx hOut => (hFirst x (hBack x hx a.id hOut hThis)).mpr hx]
    rw [not_cancelsOut_iff hListed hIncreasing hSelected hClosed]
    exact and_iff_right hid
  · intro b hb
    obtain ⟨hOlder, hpb⟩ := (selected_iff hSelected).mpr (Or.inl hb)
    have hOther : s.Selects p b.id := selects_of_plan hOlder hpb
    rw [hTurn _ hOther, hFirst _ hOther,
      if_neg (UInt64.ne_of_lt (lt_newest hListed hIncreasing hSelected hb)),
      obsoletes_withoutTransient, obsoletes_of_plan hPlan hOlder]
    exact and_iff_right (mem_plan_iff.mp hOlder).1

end

end StoragePlan.Session

import StoragePlan.Proofs.Orderings

/-!
# Blocked actions

An arrangement leaves items stuck when a chain of waiting items closes.  Not only those on a cycle
are stuck, but also whatever waits for one of them, directly or through others (`Blocked`).

* `Precedence.mem_stuck_iff`: **stuck are exactly the blocked items**.  An item that is placed has
  everything that it waits for before it, so chains from it go down and end; and a chain of stuck
  items never ends, so it closes.
* `arrangement_stuck`: sorting leaves the blocked actions of the plan, in order of registration.
* `sort_names_blocked`: a sort that fails names them, in the refusal and in the log.
-/

namespace StoragePlan

open Relation

namespace Precedence

variable {α : Type} {waits : α → α → Bool} {l m : List α} {a b : α}

/-- From an item of a list a chain of waiting items leads into a cycle. -/
def Blocked (waits : α → α → Bool) (l : List α) (a : α) : Prop :=
  ∃ b, ReflTransGen (WaitsIn waits l) a b ∧ TransGen (WaitsIn waits l) b b

/-! ## Placed items are not blocked -/

/-- What a placed item waits for, directly or through others, is placed before it. -/
theorem placed_of_transGen [DecidableEq α] (ha : a ∈ (arrange waits l).1)
    (h : TransGen (WaitsIn waits l) a b) :
    b ∈ (arrange waits l).1 ∧ (arrange waits l).1.idxOf b < (arrange waits l).1.idxOf a := by
  have hStep : ∀ {x y}, x ∈ (arrange waits l).1 → WaitsIn waits l x y →
      y ∈ (arrange waits l).1 ∧ (arrange waits l).1.idxOf y < (arrange waits l).1.idxOf x := by
    rintro x y hx ⟨_, hy, hw⟩
    exact ⟨(arrange_precedes hx hy hw).mem.1, idxOf_lt_of_waits hx hy hw⟩
  induction h with
  | single hab => exact hStep ha hab
  | tail _ hbc ih =>
    obtain ⟨hPlaced, hLess⟩ := hStep ih.1 hbc
    exact ⟨hPlaced, hLess.trans ih.2⟩

theorem not_blocked_of_placed [DecidableEq α] (ha : a ∈ (arrange waits l).1) :
    ¬ Blocked waits l a := by
  rintro ⟨b, hab, hCycle⟩
  have hb : b ∈ (arrange waits l).1 := by
    rcases reflTransGen_iff_eq_or_transGen.mp hab with rfl | hab
    · exact ha
    · exact (placed_of_transGen ha hab).1
  exact lt_irrefl _ (placed_of_transGen hb hCycle).2

theorem Blocked.mem (h : Blocked waits l a) : a ∈ l := by
  obtain ⟨b, hab, hCycle⟩ := h
  obtain ⟨_, hStep, _⟩ := TransGen.head'_iff.mp (TransGen.trans_right hab hCycle)
  exact hStep.1

/-! ## Stuck items are blocked -/

/-- A list in which every item waits for another one of it has a cycle. -/
theorem exists_cycle (hl : ∀ a ∈ l, ∃ b ∈ l, waits a b = true) (hne : l ≠ []) :
    ∃ b ∈ l, TransGen (WaitsIn waits l) b b := by
  by_contra hNone
  have hAcyclic : Acyclic waits l := by
    intro b hb
    obtain ⟨_, hStep, _⟩ := TransGen.head'_iff.mp hb
    exact hNone ⟨b, hStep.1, hb⟩
  obtain ⟨a, ha, hFree⟩ := hAcyclic.exists_free hne
  obtain ⟨b, hb, hw⟩ := hl a ha
  rw [hFree b hb] at hw
  exact Bool.false_ne_true hw

theorem blocked_of_stuck (ha : a ∈ (arrange waits l).2) : Blocked waits l a := by
  classical
  -- the stuck items on the chains from `a`: each waits for another one of them
  obtain ⟨chained, hMem⟩ : ∃ chained : List α, ∀ b, b ∈ chained ↔
      b ∈ (arrange waits l).2 ∧ ReflTransGen (WaitsIn waits l) a b :=
    ⟨(arrange waits l).2.filter fun b => ReflTransGen (WaitsIn waits l) a b, by simp⟩
  have hSub : (arrange waits l).2 ⊆ l := fun b hb => (mem_arrange waits).mpr (Or.inr hb)
  have hWaits : ∀ b ∈ chained, ∃ c ∈ chained, waits b c = true := by
    intro b hb
    obtain ⟨hStuck, hab⟩ := (hMem b).mp hb
    obtain ⟨c, hc, hw⟩ := exists_waits_of_stuck hStuck
    exact ⟨c, (hMem c).mpr ⟨hc, hab.tail ⟨hSub hStuck, hSub hc, hw⟩⟩, hw⟩
  have hne : chained ≠ [] := List.ne_nil_of_mem ((hMem a).mpr ⟨ha, .refl⟩)
  obtain ⟨b, hb, hCycle⟩ := exists_cycle hWaits hne
  have hChained : chained ⊆ l := fun c hc => hSub ((hMem c).mp hc).1
  exact ⟨b, ((hMem b).mp hb).2, TransGen.mono (fun _ _ h => h.mono hChained) b b hCycle⟩

/-- **Stuck are exactly the blocked items.** -/
theorem mem_stuck_iff [DecidableEq α] : a ∈ (arrange waits l).2 ↔ Blocked waits l a := by
  refine ⟨blocked_of_stuck, fun h => ?_⟩
  rcases (mem_arrange waits).mp h.mem with hPlaced | hStuck
  · exact absurd h (not_blocked_of_placed hPlaced)
  · exact hStuck

/-! ## The list of the stuck items -/

theorem stuck_sublist (waits : α → α → Bool) (l : List α) : (arrange waits l).2.Sublist l := by
  induction l using arrange_induction waits with
  | stuck l h => rw [arrange_of_not_ready h]
  | step l₁ a l₂ h₁ ha ih =>
    rw [arrange_of_ready h₁ ha]
    exact ih.trans ((List.Sublist.refl l₁).append (List.sublist_cons_self a l₂))

/-- When nothing waits for itself, no item is stuck alone. -/
theorem two_le_length_stuck (hSelf : ∀ a, waits a a = false) (h : (arrange waits l).2 ≠ []) :
    2 ≤ (arrange waits l).2.length := by
  obtain ⟨a, ha⟩ := List.exists_mem_of_ne_nil _ h
  obtain ⟨b, hb, hw⟩ := exists_waits_of_stuck ha
  have hab : a ≠ b := by
    rintro rfl
    rw [hSelf] at hw
    exact Bool.false_ne_true hw
  rcases precedes_or_precedes ha hb hab with h | h
  · exact h.length_le
  · exact h.length_le

end Precedence

/-- A sublist of a list without repetitions keeps exactly the items that it has. -/
theorem eq_filter_of_sublist {α : Type} {l m : List α} (h : m.Sublist l) (hl : l.Nodup)
    {p : α → Bool} (hp : ∀ a ∈ l, a ∈ m ↔ p a = true) : m = l.filter p := by
  induction h with
  | slnil => rfl
  | @cons m l a hSub ih =>
    obtain ⟨ha, hl⟩ := List.nodup_cons.mp hl
    have hNot : ¬ p a = true := fun hpa => ha (hSub.subset ((hp a List.mem_cons_self).mpr hpa))
    rw [List.filter_cons_of_neg hNot]
    exact ih hl fun b hb => hp b (List.mem_cons_of_mem a hb)
  | @cons_cons m l a hSub ih =>
    obtain ⟨ha, hl⟩ := List.nodup_cons.mp hl
    rw [List.filter_cons_of_pos ((hp a List.mem_cons_self).mp List.mem_cons_self)]
    refine congrArg (a :: ·) (ih hl fun b hb => ?_)
    rw [← hp b (List.mem_cons_of_mem a hb), List.mem_cons]
    refine ⟨Or.inr, fun h => h.resolve_left ?_⟩
    rintro rfl
    exact ha hb

namespace Session

open Precedence

variable {s : Session} {a : Action}

/-- From a registered action a chain of registered actions, each requiring the next one, leads into
a cycle. -/
def Blocked (s : Session) (id : ObjectId) : Prop :=
  ∃ b, ReflTransGen s.WaitsOn id b ∧ TransGen s.WaitsOn b b

theorem blocked_iff {id : ObjectId} :
    s.Blocked id ↔ Precedence.Blocked s.requires s.registry id := by
  unfold Blocked Precedence.Blocked
  rw [waitsOn_eq]

open Classical in
/-- **Sorting leaves the blocked actions**, in order of registration. -/
theorem arrangement_stuck (hs : s.Listed) :
    s.arrangement.2.map Step.action = s.plan.filter fun a => s.Blocked a.id := by
  have hPlan : s.steps.map Step.action = s.plan := by
    simp [steps, Function.comp_def]
  have hSub : (s.arrangement.2.map Step.action).Sublist s.plan :=
    hPlan ▸ (stuck_sublist Step.waitsFor s.steps).map Step.action
  have hIds : (s.arrangement.2.map Step.action).map Action.id
      = (arrange s.requires s.registry).2 := by
    rw [arrangement_ids hs, List.map_map]
    rfl
  refine eq_filter_of_sublist hSub (.of_map _ (hs.ids_plan ▸ hs.nodup)) fun a ha => ?_
  rw [decide_eq_true_iff, blocked_iff, ← mem_stuck_iff, ← hIds]
  refine ⟨List.mem_map_of_mem, fun h => ?_⟩
  obtain ⟨b, hb, hId⟩ := List.mem_map.mp h
  exact eq_of_mem_plan (hSub.subset hb) ha hId ▸ hb

/-- The answer of a sort that leaves some actions. -/
theorem sort_of_stuck (h : s.sort.1.ok = false) :
    s.sort.1.errorText = "dependency cycle among "
      ++ ", ".intercalate ((s.arrangement.2.map Step.action).map Action.displayId) ∧
    s.sort.2 = s.record .error .sort 0 s.sort.1.errorText := by
  have hStuck : s.arrangement.2.isEmpty = false := by
    rw [← Bool.not_eq_true, List.isEmpty_iff, ← sort_ok, h]
    exact Bool.false_ne_true
  unfold sort
  dsimp only
  rw [hStuck, if_neg Bool.false_ne_true, List.map_map]
  exact ⟨rfl, rfl⟩

open Classical in
/-- **A sort that fails names the blocked actions.**  The refusal lists the names of exactly those
registered actions from which a chain of registered actions, each requiring the next one, leads into
a cycle, in order of registration; there are at least two of them, and one error record with the
same text is added to the log. -/
theorem sort_names_blocked (commands : List Command) :
    let s := ({} : Session).performAll commands
    let names := (s.plan.filter fun a => s.Blocked a.id).map Action.displayId
    s.sort.1.ok = false →
      s.sort.1.errorText = "dependency cycle among " ++ ", ".intercalate names ∧
      2 ≤ names.length ∧
      s.sort.2.log = s.log ++ [{
        sequence := s.nextSequence, level := .error, event := .sort, action := 0,
        message := s.sort.1.errorText }] := by
  intro s names h
  have hs : s.Listed := listed_empty.performAll commands
  obtain ⟨hText, hAfter⟩ := sort_of_stuck h
  have hNames : (s.arrangement.2.map Step.action).map Action.displayId = names := by
    rw [arrangement_stuck hs]
  refine ⟨hNames ▸ hText, ?_, ?_⟩
  · have hLength : (arrange s.requires s.registry).2.length = names.length := by
      rw [← hNames, arrangement_ids hs]
      simp only [List.length_map]
    rw [← hLength]
    refine two_le_length_stuck (not_requires_self s) fun hNone => ?_
    rw [arrangement_ids hs, List.map_eq_nil_iff, ← sort_ok, h] at hNone
    exact Bool.false_ne_true hNone
  · rw [hAfter]
    rfl

open Classical in
/-- Two partitions and an encrypted device over one of them are planned; then that partition is
written to lie on the encrypted device.  The creation of the other partition waits for the cycle, the
destruction of a filesystem does not. -/
theorem sort_names_blocked_of_edited_parents :
    let s := ({} : Session).performAll [
      .adoptDevice { name := "sda", kind := .disk, size := gibibytes 100 } "" "",
      .adoptDevice { name := "sda1", kind := .partition, size := gibibytes 10, parents := [2] }
        "ext4" "/",
      .newDevice { name := "sda2", kind := .partition, size := gibibytes 10, parents := [2] },
      .newDevice { name := "sda3", kind := .partition, size := gibibytes 10, parents := [2] },
      .newDevice { name := "luks", kind := .mapper, size := gibibytes 10, parents := [7] },
      .schedule (.createDevice 9), .schedule (.destroyFormat 4), .schedule (.createDevice 7),
      .schedule (.createDevice 11), .editDevice 7 { parents := some [2, 11] }]
    let names := (s.plan.filter fun a => s.Blocked a.id).map Action.displayId
    (s.sort.1.ok = false ∧
      s.sort.1.errorText = "dependency cycle among A-000001, A-000003, A-000004") ∧
    s.sort.1.errorText = "dependency cycle among " ++ ", ".intercalate names ∧
    2 ≤ names.length ∧
    s.sort.2.log = s.log ++ [{
      sequence := s.nextSequence, level := .error, event := .sort, action := 0,
      message := s.sort.1.errorText }] := by
  intro s names
  have hFails : s.sort.1.ok = false := by decide +kernel
  exact ⟨⟨hFails, by decide +kernel⟩, sort_names_blocked _ hFails⟩

end Session

end StoragePlan

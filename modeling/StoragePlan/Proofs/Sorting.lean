import StoragePlan.Proofs.Arrangement
import StoragePlan.Proofs.Rank
import StoragePlan.Proofs.Registry

/-!
# Sorting is a topological sort

`Session.sort` arranges steps, which carry the ids that they wait for.  Seen through these ids it
arranges the registry by `Session.requires`, so the facts about `Precedence.arrange` apply to it.

* `arrangement_ids`: the arrangement of the steps is that of the registry.
* `sort_ok_iff`, `sort_perm`, `sort_precedes`: a sort succeeds exactly when no chain of registered
  actions closes, and then it gives all of them, each after those that it requires.
* `sort_topological`: **sorting is correct and complete in every session that commands lead to**.
* `ok_sort_of_graded`: when the devices have levels that rise along the graph, every action has a
  higher rank than those that it requires, so the plan can be sorted.
* `sort_ok_of_wellFormed`: so **on a well-formed tree no plan is ever refused**.
-/

namespace StoragePlan.Session

open Precedence

/-- `a` and `b` are different registered actions and `a` has to run after `b`. -/
def WaitsOn (s : Session) (a b : ObjectId) : Prop :=
  a ∈ s.registry ∧ b ∈ s.registry ∧ a ≠ b ∧ s.requires a b = true

/-! ## The relation between ids -/

theorem requires_of_plan {s : Session} {a b : Action} (ha : a ∈ s.plan) (hb : b ∈ s.plan) :
    s.requires a.id b.id = s.tree.requires a b := by
  unfold requires
  rw [(mem_plan_iff.mp ha).2, (mem_plan_iff.mp hb).2]

theorem not_requires_self (s : Session) (id : ObjectId) : s.requires id id = false := by
  unfold requires
  cases s.action? id with
  | none => rfl
  | some a => simp [DeviceTree.requires]

theorem waitsOn_iff {s : Session} {a b : ObjectId} :
    s.WaitsOn a b ↔ WaitsIn s.requires s.registry a b := by
  constructor
  · rintro ⟨ha, hb, _, h⟩
    exact ⟨ha, hb, h⟩
  · rintro ⟨ha, hb, h⟩
    refine ⟨ha, hb, fun hab => ?_, h⟩
    rw [hab, not_requires_self] at h
    exact absurd h (by simp)

theorem waitsOn_eq (s : Session) : s.WaitsOn = WaitsIn s.requires s.registry := by
  funext a b
  exact propext waitsOn_iff

theorem acyclic_iff {s : Session} :
    Precedence.Acyclic s.requires s.registry ↔ ∀ a, ¬ Relation.TransGen s.WaitsOn a a := by
  rw [waitsOn_eq]
  rfl

/-! ## The arrangement of the steps -/

theorem waitsFor_steps {s : Session} {x y : Step} (hx : x ∈ s.steps) (hy : y ∈ s.steps) :
    s.requires x.action.id y.action.id = Step.waitsFor x y := by
  obtain ⟨a, ha, rfl⟩ := List.mem_map.mp hx
  obtain ⟨b, hb, rfl⟩ := List.mem_map.mp hy
  rw [requires_of_plan ha hb, Bool.eq_iff_iff]
  unfold Step.waitsFor
  rw [List.contains_iff_mem, List.mem_map]
  constructor
  · intro h
    exact ⟨b, List.mem_filter.mpr ⟨hb, h⟩, rfl⟩
  · rintro ⟨c, hc, hId⟩
    obtain ⟨hc, h⟩ := List.mem_filter.mp hc
    rwa [eq_of_mem_plan hc hb hId] at h

theorem arrangement_ids {s : Session} (hs : s.Listed) :
    arrange s.requires s.registry
      = (s.arrangement.1.map fun step => step.action.id,
        s.arrangement.2.map fun step => step.action.id) := by
  have hIds : s.steps.map (fun step => step.action.id) = s.registry := by
    rw [← hs.ids_plan, steps, List.map_map]
    rfl
  rw [← hIds, arrangement]
  exact arrange_map (fun step : Step => step.action.id) fun x hx y hy => waitsFor_steps hx hy

/-! ## What the answer is -/

theorem sort_ok {s : Session} : s.sort.1.ok = true ↔ s.arrangement.2 = [] := by
  unfold sort
  by_cases h : s.arrangement.2 = []
  · simp [h, Outcome.ok]
  · simp [h, Outcome.ok, Outcome.refused]

theorem sort_value_of_ok {s : Session} (h : s.sort.1.ok = true) :
    s.sort.1.value = s.arrangement.1.map fun step => step.action.id := by
  rw [sort_ok] at h
  unfold sort
  simp [h]

theorem sort_of_not_ok {s : Session} (h : s.sort.1.ok = false) :
    s.sort.1.value = [] ∧ s.sort.1.refusal.map Refusal.fault = some .dependencyCycle := by
  have hStuck : s.arrangement.2 ≠ [] := by
    intro hStuck
    rw [sort_ok.mpr hStuck] at h
    exact absurd h (by simp)
  unfold sort
  simp only [List.isEmpty_iff, hStuck, if_false]
  exact ⟨rfl, rfl⟩

theorem sort_ok_iff {s : Session} (hs : s.Listed) :
    s.sort.1.ok = true ↔ ∀ a, ¬ Relation.TransGen s.WaitsOn a a := by
  rw [sort_ok, ← acyclic_iff, ← arrange_stuck_eq_nil_iff, arrangement_ids hs, List.map_eq_nil_iff]

/-- A sort that succeeds gives the arrangement of the registry, and nothing is left over. -/
theorem arrange_of_sort_ok {s : Session} (hs : s.Listed) (h : s.sort.1.ok = true) :
    arrange s.requires s.registry = (s.sort.1.value, []) := by
  rw [arrangement_ids hs, ← sort_value_of_ok h, sort_ok.mp h]
  rfl

theorem sort_perm {s : Session} (hs : s.Listed) (h : s.sort.1.ok = true) :
    s.sort.1.value.Perm s.registry := by
  have hPerm := arrange_perm s.requires s.registry
  rwa [arrange_of_sort_ok hs h, List.append_nil] at hPerm

theorem sort_precedes {s : Session} (hs : s.Listed) (h : s.sort.1.ok = true) {a b : ObjectId}
    (hab : s.WaitsOn a b) : Precedes s.sort.1.value b a := by
  obtain ⟨ha, hb, _, hab⟩ := hab
  have hArrange := arrange_of_sort_ok hs h
  have hIn : a ∈ (arrange s.requires s.registry).1 := by
    rw [hArrange]
    exact (sort_perm hs h).mem_iff.mpr ha
  have hPrecedes := arrange_precedes hIn hb hab
  rwa [hArrange] at hPrecedes

section

variable {s : Session} (hs : s.Listed) (h : s.sort.1.ok = true)

include hs h

/-- When `a` is taken, each action that is not taken yet but waits only for taken ones stands
behind `a` in the registry. -/
theorem sort_first {l₁ l₂ : List ObjectId} {a b : ObjectId}
    (hValue : s.sort.1.value = l₁ ++ a :: l₂) (hb : b ∈ l₂)
    (hReady : ∀ c ∈ s.registry, s.requires b c = true → c ∈ l₁) :
    Precedes s.registry a b := by
  have hPerm := sort_perm hs h
  have hNodup : (l₁ ++ a :: l₂).Nodup := hValue ▸ hPerm.nodup_iff.mpr hs.nodup
  obtain ⟨_, hTail, hDisjoint⟩ := List.nodup_append.mp hNodup
  have hArrange : (arrange s.requires s.registry).1 = l₁ ++ a :: l₂ := by
    rw [arrange_of_sort_ok hs h, hValue]
  have hMem : b ∈ s.registry := by
    refine hPerm.mem_iff.mp ?_
    rw [hValue]
    exact List.mem_append_right _ (List.mem_cons_of_mem _ hb)
  refine arrange_first hs.nodup hArrange hMem ?_ ?_ hReady
  · rintro rfl
    exact (List.nodup_cons.mp hTail).1 hb
  · intro hb₁
    exact hDisjoint b hb₁ b (List.mem_cons_of_mem _ hb) rfl

/-- What an action of the plan requires is taken before it. -/
theorem mem_of_requires {l₁ l₂ : List ObjectId} {a c : ObjectId}
    (hValue : s.sort.1.value = l₁ ++ a :: l₂) (hc : c ∈ s.registry) (hac : s.requires a c = true) :
    c ∈ l₁ := by
  have hArrange : (arrange s.requires s.registry).1 = l₁ ++ a :: l₂ := by
    rw [arrange_of_sort_ok hs h, hValue]
  exact mem_before_of_waits hArrange hc hac

end

/-- **Sorting is correct and complete.**  It succeeds exactly when no chain of registered actions,
each requiring the next one, closes; then it gives every registered action once and each one after
those that it requires.  Otherwise it reports the cycle and gives nothing.  The tree, the actions
and the registry stay as they are. -/
theorem sort_topological (commands : List Command) :
    let s := ({} : Session).performAll commands
    (s.sort.1.ok = true ↔ ∀ a, ¬ Relation.TransGen s.WaitsOn a a) ∧
    (s.sort.1.ok = true → s.sort.1.value.Perm s.registry ∧ s.sort.1.value.Nodup ∧
      ∀ a b, s.WaitsOn a b → Precedes s.sort.1.value b a) ∧
    (s.sort.1.ok = false →
      s.sort.1.refusal.map Refusal.fault = some .dependencyCycle ∧ s.sort.1.value = []) ∧
    s.sort.2.tree = s.tree ∧ s.sort.2.actions = s.actions ∧ s.sort.2.registry = s.registry := by
  intro s
  have hs : s.Listed := listed_empty.performAll commands
  refine ⟨sort_ok_iff hs, fun h => ?_, fun h => (sort_of_not_ok h).symm, ?_⟩
  · have hPerm := sort_perm hs h
    exact ⟨hPerm, hPerm.nodup_iff.mpr hs.nodup, fun a b hab => sort_precedes hs h hab⟩
  · obtain ⟨level, message, hSort⟩ := sort_cases s
    rw [hSort]
    exact ⟨rfl, rfl, rfl⟩

/-! ## Plans on a graded tree -/

section

variable {s : Session} {level : ObjectId → ℕ} (hGraded : s.tree.Graded level)
  (hBelow : ∀ a ∈ s.plan, DeviceTree.AddsBelow level a)

include hGraded hBelow

theorem acyclic_of_graded : Precedence.Acyclic s.requires s.registry := by
  refine not_transGen_self
    (fun id => ((s.action? id).map (s.tree.rank level)).getD (DeviceTree.place 0 0 0 0))
    fun a b hab => ?_
  obtain ⟨ha, hb, h⟩ := hab
  obtain ⟨x, y, hA, hB, hxy⟩ := exists_of_requires h
  obtain rfl := id_of_action? hA
  rw [hA, hB]
  exact DeviceTree.rank_lt_of_requires hGraded (hBelow x (mem_plan_iff.mpr ⟨ha, hA⟩)) hxy

theorem steps_acyclic_of_graded : Precedence.Acyclic Step.waitsFor s.steps := by
  refine not_transGen_self (fun step => s.tree.rank level step.action) fun x y hxy => ?_
  obtain ⟨hx, hy, h⟩ := hxy
  rw [← waitsFor_steps hx hy] at h
  obtain ⟨a, ha, rfl⟩ := List.mem_map.mp hx
  obtain ⟨b, hb, rfl⟩ := List.mem_map.mp hy
  rw [requires_of_plan ha hb] at h
  exact DeviceTree.rank_lt_of_requires hGraded (hBelow a ha) h

theorem ok_sort_of_graded : s.sort.1.ok = true := by
  classical
  exact sort_ok.mpr (arrange_stuck_eq_nil_iff.mpr (steps_acyclic_of_graded hGraded hBelow))

end

/-! ## Plans on a well-formed tree -/

section

variable {s : Session} (hTree : s.tree.Acyclic) (hOne : s.tree.OneDisk)
  (hKeeps : ∀ a ∈ s.plan, s.tree.KeepsMember a)

include hTree hOne hKeeps

theorem acyclic_of_wellFormed : Precedence.Acyclic s.requires s.registry :=
  acyclic_of_graded (DeviceTree.graded_depth hTree hOne) fun a ha container hOp =>
    DeviceTree.depth_lt_of_dependsOn hTree (hKeeps a ha container hOp)

theorem ok_sort_of_wellFormed : s.sort.1.ok = true :=
  ok_sort_of_graded (DeviceTree.graded_depth hTree hOne) fun a ha container hOp =>
    DeviceTree.depth_lt_of_dependsOn hTree (hKeeps a ha container hOp)

end

/-- **The rules close no cycle on a well-formed plan**: no device is its own ancestor, partitions
lie on one disk each, and every member that the plan adds is still below its container. -/
theorem sort_ok_of_wellFormed (s : Session) (hTree : s.tree.Acyclic) (hOne : s.tree.OneDisk)
    (hKeeps : ∀ a ∈ s.plan, s.tree.KeepsMember a) :
    (∀ a, ¬ Relation.TransGen s.WaitsOn a a) ∧ s.sort.1.ok = true :=
  ⟨acyclic_iff.mp (acyclic_of_wellFormed hTree hOne hKeeps),
    ok_sort_of_wellFormed hTree hOne hKeeps⟩

/-- A volume group over a new partition takes in a second one, while an old partition shrinks and
another one goes away. -/
theorem sort_ok_of_growing_group :
    let s := ({} : Session).performAll [
      .adoptDevice { name := "sda", kind := .disk, size := gibibytes 100 } "" "",
      .adoptDevice { name := "sda1", kind := .partition, size := gibibytes 10, parents := [2] }
        "" "",
      .adoptDevice { name := "sda2", kind := .partition, size := gibibytes 10, parents := [2] }
        "ext4" "/",
      .newDevice { name := "sda3", kind := .partition, size := gibibytes 10, parents := [2] },
      .newDevice { name := "sda4", kind := .partition, size := gibibytes 10, parents := [2] },
      .newDevice { name := "vg", kind := .volumeGroup, parents := [9] },
      .schedule (.createDevice 11), .schedule (.createDevice 9), .schedule (.createDevice 13),
      .schedule (.addMember 13 11), .schedule (.resizeFormat 6 (gibibytes 9)),
      .schedule (.resizeDevice 6 (gibibytes 9)), .schedule (.destroyDevice 4)]
    (s.registry.length = 7 ∧ s.tree.Acyclic ∧ s.tree.OneDisk ∧
      ∀ a ∈ s.plan, s.tree.KeepsMember a) ∧
    (∀ a, ¬ Relation.TransGen s.WaitsOn a a) ∧ s.sort.1.ok = true := by
  intro s
  have hTree : s.tree.Acyclic := by decide +kernel
  have hOne : s.tree.OneDisk := by decide +kernel
  have hKeeps : ∀ a ∈ s.plan, s.tree.KeepsMember a := by decide +kernel
  exact ⟨⟨by decide +kernel, hTree, hOne, hKeeps⟩, sort_ok_of_wellFormed s hTree hOne hKeeps⟩

end StoragePlan.Session

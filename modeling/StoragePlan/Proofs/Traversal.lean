import Mathlib.Order.Lattice.Nat
import Mathlib.Order.Defs.Unbundled
import StoragePlan.Proofs.Closure

/-!
# Going up the graph of parents

`Climbs` counts the parent edges on the way from a device to one of its ancestors, and `distance` is
the length of the shortest way.  The search for ancestors goes up by one edge with each generation:
`Frontier` says what it has seen and what it holds after `k` edges.

* `Frontier.mem_next`: the next generation is what is reached by `k + 1` edges and by no fewer.
* `pairwise_distance_ancestors`: so **the nearest ancestors come first**.
* `queue_ancestors`: a queue that takes one device at a time finds the same list.
* `Acyclic.le_depth`: on an acyclic tree no way up is longer than there are ancestors.
* `traversal_closure`: the search, `dependsOn`, `dependents` and `isLeaf` against the transitive
  closure of the parent edges.
-/

namespace StoragePlan.DeviceTree

open Relation

variable {t : DeviceTree} {d x : ObjectId} {k n : Nat} {seen generation : List ObjectId}

/-! ## Counting edges -/

/-- A chain of `n` parent edges leads from one device to another one. -/
inductive Climbs (t : DeviceTree) : Nat → ObjectId → ObjectId → Prop
  | refl (d : ObjectId) : Climbs t 0 d d
  | head {n : Nat} {d p x : ObjectId} (hp : t.BuiltOn d p) (h : Climbs t n p x) :
      Climbs t (n + 1) d x

theorem climbs_zero : t.Climbs 0 d x ↔ d = x := by
  constructor
  · intro h
    cases h
    rfl
  · rintro rfl
    exact .refl d

theorem climbs_succ : t.Climbs (n + 1) d x ↔ ∃ p, t.BuiltOn d p ∧ t.Climbs n p x := by
  constructor
  · intro h
    cases h with
    | head hp h => exact ⟨_, hp, h⟩
  · rintro ⟨p, hp, h⟩
    exact .head hp h

/-- The last edge of a chain instead of its first one. -/
theorem climbs_succ_iff_last : t.Climbs (n + 1) d x ↔ ∃ p, t.Climbs n d p ∧ t.BuiltOn p x := by
  induction n generalizing d with
  | zero => simp only [climbs_succ, climbs_zero, exists_eq_right, exists_eq_left']
  | succ n ih =>
    rw [climbs_succ]
    simp only [ih]
    constructor
    · rintro ⟨q, hq, p, h, hp⟩
      exact ⟨p, .head hq h, hp⟩
    · rintro ⟨p, h, hp⟩
      obtain ⟨q, hq, h⟩ := climbs_succ.mp h
      exact ⟨q, hq, p, h, hp⟩

theorem standsOn_iff_climbs : t.StandsOn d x ↔ ∃ n, t.Climbs (n + 1) d x := by
  constructor
  · intro h
    induction h with
    | single hp => exact ⟨0, .head hp (.refl _)⟩
    | tail _ hp ih =>
      obtain ⟨n, h⟩ := ih
      exact ⟨n + 1, climbs_succ_iff_last.mpr ⟨_, h, hp⟩⟩
  · rintro ⟨n, h⟩
    induction n generalizing x with
    | zero =>
      obtain ⟨p, hp, h⟩ := climbs_succ.mp h
      exact .single (climbs_zero.mp h ▸ hp)
    | succ n ih =>
      obtain ⟨p, h, hp⟩ := climbs_succ_iff_last.mp h
      exact .tail (ih h) hp

/-- The length of the shortest chain of parent edges from one device to another one. -/
noncomputable def distance (t : DeviceTree) (d x : ObjectId) : Nat := sInf {n | t.Climbs n d x}

theorem distance_le (h : t.Climbs n d x) : t.distance d x ≤ n := Nat.sInf_le h

theorem distance_of_isLeast (h : IsLeast {n | t.Climbs n d x} k) : t.distance d x = k := h.csInf_eq

theorem isLeast_distance (h : t.StandsOn d x) :
    IsLeast {n | t.Climbs n d x} (t.distance d x) := by
  obtain ⟨n, hWay⟩ := standsOn_iff_climbs.mp h
  exact ⟨Nat.sInf_mem ⟨n + 1, hWay⟩, fun _ hn => distance_le hn⟩

/-! ## The search, edge by edge -/

/-- The search from `d` has gone up `k` edges: it has seen what at most `k` edges lead to, and the
present generation is what no fewer lead to. -/
structure Frontier (t : DeviceTree) (d : ObjectId) (k : Nat) (seen generation : List ObjectId) :
    Prop where
  mem_seen : ∀ x, x ∈ seen ↔ ∃ n ≤ k, t.Climbs n d x
  mem_generation : ∀ x, x ∈ generation ↔ IsLeast {n | t.Climbs n d x} k

theorem frontier_start (t : DeviceTree) (d : ObjectId) : t.Frontier d 0 [d] [d] where
  mem_seen x := by
    rw [List.mem_singleton]
    constructor
    · rintro rfl
      exact ⟨0, le_rfl, .refl x⟩
    · rintro ⟨n, hn, h⟩
      obtain rfl : n = 0 := by omega
      exact (climbs_zero.mp h).symm
  mem_generation x := by
    rw [List.mem_singleton]
    constructor
    · rintro rfl
      exact ⟨.refl x, fun _ _ => Nat.zero_le _⟩
    · rintro ⟨h, _⟩
      exact (climbs_zero.mp h).symm

/-- **The next generation is reached by one edge more and by no fewer.** -/
theorem Frontier.mem_next (h : t.Frontier d k seen generation) :
    x ∈ t.nextGeneration seen generation ↔ IsLeast {n | t.Climbs n d x} (k + 1) := by
  rw [mem_nextGeneration, h.mem_seen]
  constructor
  · rintro ⟨⟨p, hp, hx⟩, hNew⟩
    have hWay := ((h.mem_generation p).mp hp).1
    refine ⟨climbs_succ_iff_last.mpr ⟨p, hWay, hx⟩, fun n hn => ?_⟩
    by_contra hShort
    exact hNew ⟨n, by omega, hn⟩
  · rintro ⟨hWay, hLeast⟩
    have hNew : ¬ ∃ n ≤ k, t.Climbs n d x := by
      rintro ⟨n, hn, hShort⟩
      have := hLeast hShort
      omega
    obtain ⟨p, hp, hx⟩ := climbs_succ_iff_last.mp hWay
    -- a shorter way to the parent would make the way to `x` shorter
    refine ⟨⟨p, (h.mem_generation p).mpr ⟨hp, fun n hn => ?_⟩, hx⟩, hNew⟩
    have := hLeast (climbs_succ_iff_last.mpr ⟨p, hn, hx⟩)
    omega

theorem Frontier.next (h : t.Frontier d k seen generation) :
    t.Frontier d (k + 1) (seen ++ t.nextGeneration seen generation)
      (t.nextGeneration seen generation) where
  mem_seen x := by
    rw [List.mem_append, h.mem_seen, h.mem_next]
    constructor
    · rintro (⟨n, hn, hWay⟩ | ⟨hWay, _⟩)
      · exact ⟨n, by omega, hWay⟩
      · exact ⟨k + 1, le_rfl, hWay⟩
    · rintro ⟨n, hn, hWay⟩
      by_cases hShort : ∃ n ≤ k, t.Climbs n d x
      · exact Or.inl hShort
      · have hFar : ∀ m, t.Climbs m d x → k + 1 ≤ m := by
          intro m hm
          by_contra hLt
          exact hShort ⟨m, by omega, hm⟩
        obtain rfl : n = k + 1 := le_antisymm hn (hFar n hWay)
        exact Or.inr ⟨hWay, fun m hm => hFar m hm⟩
  mem_generation x := h.mem_next

/-- What is still to be found is no nearer than what was seen, and the nearest of it comes first. -/
theorem Frontier.generationsAbove (h : ∃ k, t.Frontier d k seen generation) :
    (∀ y ∈ seen, ∀ x ∈ t.generationsAbove seen generation, t.distance d y ≤ t.distance d x) ∧
    (t.generationsAbove seen generation).Pairwise fun x y => t.distance d x ≤ t.distance d y := by
  induction seen, generation using generationsAbove.induct t with
  | case1 seen generation _ hNext =>
    rw [DeviceTree.generationsAbove, if_pos hNext]
    exact ⟨fun y _ x hx => absurd hx List.not_mem_nil, .nil⟩
  | case2 seen generation _ hNext ih =>
    rw [DeviceTree.generationsAbove, if_neg hNext]
    obtain ⟨k, hk⟩ := h
    obtain ⟨hLater, hSorted⟩ := ih ⟨k + 1, hk.next⟩
    have hHere : ∀ x ∈ t.nextGeneration seen generation, t.distance d x = k + 1 :=
      fun x hx => distance_of_isLeast (hk.mem_next.mp hx)
    have hSeen : ∀ y ∈ seen, t.distance d y ≤ k := by
      intro y hy
      obtain ⟨n, hn, hWay⟩ := (hk.mem_seen y).mp hy
      exact (distance_le hWay).trans hn
    constructor
    · intro y hy x hx
      rcases List.mem_append.mp hx with hx | hx
      · have := hHere x hx
        have := hSeen y hy
        omega
      · exact hLater y (List.mem_append_left _ hy) x hx
    · refine List.pairwise_append.mpr ⟨?_, hSorted, fun x hx y hy => ?_⟩
      · refine List.pairwise_of_forall_mem_list fun x hx y hy => ?_
        rw [hHere x hx, hHere y hy]
      · exact hLater x (List.mem_append_right _ hx) y hy

/-- **The nearest ancestors come first.** -/
theorem pairwise_distance_ancestors (t : DeviceTree) (d : ObjectId) :
    (t.ancestors d).Pairwise fun x y => t.distance d x ≤ t.distance d y :=
  (Frontier.generationsAbove ⟨0, frontier_start t d⟩).2

theorem nodup_generationsAbove (t : DeviceTree) (seen generation : List ObjectId) :
    (t.generationsAbove seen generation).Nodup := by
  induction seen, generation using generationsAbove.induct t with
  | case1 seen generation _ hNext =>
    rw [DeviceTree.generationsAbove, if_pos hNext]
    exact List.nodup_nil
  | case2 seen generation _ hNext ih =>
    rw [DeviceTree.generationsAbove, if_neg hNext]
    refine List.nodup_append.mpr ⟨nodup_fresh _ _, ih, ?_⟩
    rintro x hx _ hLater rfl
    exact (standsOn_of_mem_generationsAbove hLater).2 (List.mem_append_right _ hx)

/-! ## The queue -/

theorem fresh_congr {seen seen' : List ObjectId} (h : ∀ x, x ∈ seen ↔ x ∈ seen')
    (ids : List ObjectId) : fresh seen ids = fresh seen' ids := by
  induction ids generalizing seen seen' with
  | nil => rfl
  | cons id rest ih =>
    have hMore : ∀ x, x ∈ id :: seen ↔ x ∈ id :: seen' := by
      intro x
      rw [List.mem_cons, List.mem_cons, h]
    simp only [fresh, h id, ih h, ih hMore]

theorem fresh_append (seen ids ids' : List ObjectId) :
    fresh seen (ids ++ ids') = fresh seen ids ++ fresh (seen ++ fresh seen ids) ids' := by
  induction ids generalizing seen with
  | nil => simp [fresh]
  | cons id rest ih =>
    by_cases hSeen : id ∈ seen
    · simp [fresh, hSeen, ih]
    · have hSame : ∀ x, x ∈ id :: (seen ++ fresh (id :: seen) rest) ↔
          x ∈ seen ++ id :: fresh (id :: seen) rest := by
        intro x
        simp only [List.mem_cons, List.mem_append]
        tauto
      simp only [List.cons_append, fresh, if_neg hSeen, ih, fresh_congr hSame]

/-- The first id of a queue is taken, and its parents that were not seen yet join the end of it.  A
state is what was seen, in the order in which it was seen, and the queue. -/
inductive QueueStep (t : DeviceTree) :
    List ObjectId × List ObjectId → List ObjectId × List ObjectId → Prop
  | take (seen : List ObjectId) (d : ObjectId) (pending : List ObjectId) :
      QueueStep t (seen, d :: pending)
        (seen ++ fresh seen (t.parentsOf d), pending ++ fresh seen (t.parentsOf d))

/-- The queue works off a generation, and the next one stands at the end of it then. -/
theorem queue_generation (t : DeviceTree) (seen generation pending : List ObjectId) :
    ReflTransGen t.QueueStep (seen, generation ++ pending)
      (seen ++ t.nextGeneration seen generation,
        pending ++ t.nextGeneration seen generation) := by
  induction generation generalizing seen pending with
  | nil => simpa [nextGeneration, fresh] using ReflTransGen.refl
  | cons d rest ih =>
    have hNext : t.nextGeneration seen (d :: rest) = fresh seen (t.parentsOf d)
        ++ t.nextGeneration (seen ++ fresh seen (t.parentsOf d)) rest := fresh_append _ _ _
    rw [hNext, ← List.append_assoc, ← List.append_assoc]
    refine .head (.take seen d (rest ++ pending)) ?_
    rw [List.append_assoc rest]
    exact ih _ _

theorem queue_generationsAbove (t : DeviceTree) (seen generation : List ObjectId) :
    ReflTransGen t.QueueStep (seen, generation)
      (seen ++ t.generationsAbove seen generation, []) := by
  induction seen, generation using generationsAbove.induct t with
  | case1 seen generation next hNext =>
    have hLast := t.queue_generation seen generation []
    rw [show t.nextGeneration seen generation = [] from hNext, List.append_nil] at hLast
    rwa [DeviceTree.generationsAbove, if_pos hNext]
  | case2 seen generation next hNext ih =>
    have hHere := t.queue_generation seen generation []
    rw [List.append_nil, List.nil_append] at hHere
    rw [DeviceTree.generationsAbove, if_neg hNext, ← List.append_assoc]
    exact hHere.trans ih

/-- **A queue that starts with `d` alone runs empty**, and by then it has seen `d` and its ancestors
in the order of `ancestors`. -/
theorem queue_ancestors (t : DeviceTree) (d : ObjectId) :
    ReflTransGen t.QueueStep ([d], [d]) (d :: t.ancestors d, []) :=
  t.queue_generationsAbove [d] [d]

/-! ## Acyclic trees -/

/-- No way up is longer than there are ancestors. -/
theorem Acyclic.le_depth (ht : t.Acyclic) (h : t.Climbs n d x) : n ≤ t.depth d := by
  induction h with
  | refl d => exact Nat.zero_le _
  | @head n d p x hp _ ih =>
    have hne : d ≠ p := by
      rintro rfl
      exact ht d (.single hp)
    have := depth_lt_of_dependsOn ht (dependsOn_iff.mpr ⟨hne, .single hp⟩)
    omega

/-- On an acyclic tree `dependsOn` is a strict partial order. -/
theorem Acyclic.isStrictOrder (ht : t.Acyclic) :
    IsStrictOrder ObjectId fun d x => t.dependsOn d x = true where
  irrefl d h := (dependsOn_iff.mp h).1 rfl
  trans d p x h h' := by
    have hStands := (dependsOn_iff.mp h).2.trans (dependsOn_iff.mp h').2
    refine dependsOn_iff.mpr ⟨?_, hStands⟩
    rintro rfl
    exact ht d hStands

/-- On the way down from a present device to `d` something present stands right on `d`. -/
theorem Closed.exists_child (h : t.Closed) (hx : x ∈ t.order) (hStands : t.StandsOn x d) :
    ∃ c ∈ t.order, t.BuiltOn c d := by
  induction hStands using TransGen.head_induction_on with
  | single hp => exact ⟨_, hx, hp⟩
  | head hp _ ih => exact ih (h _ hx _ hp)

theorem isLeaf_iff_dependents (ht : t.Acyclic) (hClosed : t.Closed) :
    t.isLeaf d = true ↔ t.dependents d = [] := by
  rw [isLeaf_iff, List.eq_nil_iff_forall_not_mem]
  simp only [mem_dependents_of_acyclic ht]
  constructor
  · rintro hLeaf x ⟨hx, hStands⟩
    obtain ⟨c, hc, hBuilt⟩ := hClosed.exists_child hx hStands
    exact hLeaf c hc hBuilt
  · intro hNone c hc hBuilt
    exact hNone c ⟨hc, .single hBuilt⟩

theorem dependents_eq_filter (t : DeviceTree) (d : ObjectId) :
    t.dependents d = t.order.filter fun x => t.dependsOn x d := by
  refine List.filter_congr fun x _ => ?_
  rw [Bool.eq_iff_iff, Bool.and_eq_true, bne_iff_ne, dependsOn_iff]
  exact ⟨And.right, fun h => ⟨h.1, h⟩⟩

/-- **The search goes through the transitive closure of the parent edges**, on every graph, whatever
cycles, repeated parents and parents that are not stored are in it.  Its queue runs empty, and what
it has found is each other device that parent edges reach, once, the nearest first.  `dependsOn`
decides this closure between different devices, and `dependents` are the present devices that it
holds for.  On an acyclic graph it is a strict order, and where the parents of what is present are
present too, a leaf is a device without dependents. -/
theorem traversal_closure (t : DeviceTree) :
    (∀ d, ReflTransGen t.QueueStep ([d], [d]) (d :: t.ancestors d, []) ∧ (t.ancestors d).Nodup ∧
      (∀ x, x ∈ t.ancestors d ↔ x ≠ d ∧ t.StandsOn d x) ∧
      (∀ x ∈ t.ancestors d, IsLeast {n | t.Climbs n d x} (t.distance d x)) ∧
      (t.ancestors d).Pairwise fun x y => t.distance d x ≤ t.distance d y) ∧
    (∀ d x, t.dependsOn d x = true ↔ d ≠ x ∧ t.StandsOn d x) ∧
    (∀ d, t.dependents d = t.order.filter fun x => t.dependsOn x d) ∧
    (t.Acyclic → (IsStrictOrder ObjectId fun d x => t.dependsOn d x = true) ∧
      (t.Closed → ∀ d, t.isLeaf d = true ↔ t.dependents d = [])) := by
  refine ⟨fun d => ⟨t.queue_ancestors d, t.nodup_generationsAbove _ _, fun x => mem_ancestors_iff,
    fun x hx => isLeast_distance (mem_ancestors_iff.mp hx).2, t.pairwise_distance_ancestors d⟩,
    fun d x => dependsOn_iff, t.dependents_eq_filter, ?_⟩
  intro ht
  exact ⟨ht.isStrictOrder, fun hClosed d => isLeaf_iff_dependents ht hClosed⟩

/-- A volume group on two partitions of one disk. -/
theorem traversal_closure_of_diamond :
    let t := (({} : Session).performAll [
      .adoptDevice { name := "sda", kind := .disk } "" "",
      .adoptDevice { name := "sda1", kind := .partition, parents := [2] } "lvmpv" "",
      .adoptDevice { name := "sda2", kind := .partition, parents := [2] } "lvmpv" "",
      .adoptDevice { name := "vg", kind := .volumeGroup, parents := [4, 7] } "" ""]).tree
    (t.Acyclic ∧ t.Closed) ∧ t.ancestors 10 = [4, 7, 2] ∧
    (t.ancestors 10).Pairwise (fun x y => t.distance 10 x ≤ t.distance 10 y) ∧
    (IsStrictOrder ObjectId fun d x => t.dependsOn d x = true) ∧
    ∀ d, t.isLeaf d = true ↔ t.dependents d = [] := by
  intro t
  have hAcyclic : t.Acyclic := by decide +kernel
  have hClosed : t.Closed := by decide +kernel
  obtain ⟨hSearch, _, _, hOrder⟩ := traversal_closure t
  obtain ⟨hStrict, hLeaf⟩ := hOrder hAcyclic
  exact ⟨⟨hAcyclic, hClosed⟩, by decide +kernel, (hSearch 10).2.2.2.2, hStrict, hLeaf hClosed⟩

end StoragePlan.DeviceTree

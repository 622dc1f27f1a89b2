import StoragePlan.Proofs.Sorting

/-!
# The first of all orderings

A plan may have many orderings in which each action stands behind those that it requires.  Read as
places of the registry they are lists of numbers, and sorting gives the lexicographically first one:
at the place where another ordering goes its own way, the item taken there was ready too, and
`Precedence.arrange` takes the first ready one.

* `Precedence.arrange_first_of_all`: the arrangement of a list is the first of its orderings.
* `Precedence.arrange_of_respects`: a list that respects the precedence stays as it is.
* `sort_first_of_all`: so **sorting gives the first ordering of the plan**, which is the order of
  registration itself when that is one.
-/

namespace StoragePlan

namespace Precedence

variable {α : Type} {waits : α → α → Bool}

/-- Every item of a list stands behind those of its items that it waits for. -/
def Respects (waits : α → α → Bool) (l : List α) : Prop :=
  ∀ a b, WaitsIn waits l a b → Precedes l b a

/-! ## Lists that respect a precedence -/

theorem respects_nil : Respects waits [] := fun _ _ h => absurd h.1 List.not_mem_nil

/-- Nothing stands before the head. -/
theorem not_precedes_head {l : List α} {a b : α} (hl : (a :: l).Nodup) :
    ¬ Precedes (a :: l) b a := by
  have ha : a ∉ l := (List.nodup_cons.mp hl).1
  intro h
  rcases List.cons_sublist_cons'.mp h with hTail | ⟨_, hTail⟩
  · exact ha (Precedes.mem hTail).2
  · exact ha (List.singleton_sublist.mp hTail)

/-- The head waits for nothing, and the tail respects the precedence. -/
theorem respects_cons {l : List α} {a : α} (hl : (a :: l).Nodup) :
    Respects waits (a :: l) ↔ isReady waits (a :: l) a = true ∧ Respects waits l := by
  rw [isReady_iff]
  constructor
  · intro h
    refine ⟨fun b hb => ?_, fun x y hxy => ?_⟩
    · by_contra hw
      exact not_precedes_head hl (h a b ⟨List.mem_cons_self, hb, by simpa using hw⟩)
    · have hPrecedes := h x y (hxy.mono (List.subset_cons_self a l))
      rcases List.cons_sublist_cons'.mp hPrecedes with hTail | ⟨rfl, _⟩
      · exact hTail
      · exact absurd hxy.2.1 (List.nodup_cons.mp hl).1
  · rintro ⟨hReady, hTail⟩ x y ⟨hx, hy, hw⟩
    rcases List.mem_cons.mp hx with rfl | hxl
    · rw [hReady y hy] at hw
      exact absurd hw Bool.false_ne_true
    · rcases List.mem_cons.mp hy with rfl | hyl
      · exact (List.singleton_sublist.mpr hxl).cons_cons y
      · exact (hTail x y ⟨hxl, hyl, hw⟩).cons a

/-- For a precedence in which nothing waits for itself, no item waits for a later one. -/
theorem respects_iff_pairwise {l : List α} (hl : l.Nodup) (hSelf : ∀ a, waits a a = false) :
    Respects waits l ↔ l.Pairwise fun a b => waits a b = false := by
  induction l with
  | nil => simp [respects_nil]
  | cons a l ih =>
    rw [respects_cons hl, ih (List.nodup_cons.mp hl).2, List.pairwise_cons, isReady_iff,
      List.forall_mem_cons]
    simp [hSelf]

instance [DecidableEq α] (l : List α) : Decidable (Respects waits l) :=
  decidable_of_iff (∀ a ∈ l, ∀ b ∈ l, waits a b = true → Precedes l b a)
    ⟨fun h a b ⟨ha, hb, hw⟩ => h a ha b hb hw, fun h a ha b hb hw => h a b ⟨ha, hb, hw⟩⟩

/-! ## The arrangement among them -/

/-- **A list that respects the precedence is its own arrangement.** -/
theorem arrange_of_respects {l : List α} (hl : l.Nodup) (h : Respects waits l) :
    arrange waits l = (l, []) := by
  induction l with
  | nil => exact arrange_of_not_ready fun _ ha => absurd ha List.not_mem_nil
  | cons a l ih =>
    obtain ⟨hReady, hTail⟩ := (respects_cons hl).mp h
    have hBefore : ∀ b ∈ ([] : List α), isReady waits ([] ++ a :: l) b = false :=
      fun _ hb => absurd hb List.not_mem_nil
    have hArrange := arrange_of_ready hBefore hReady
    simpa only [List.nil_append, ih (List.nodup_cons.mp hl).2 hTail] using hArrange

/-- **The arrangement is the first of all orderings.**  Any other one, read as the places in which
its items stand in the list, comes after it in the lexicographic order. -/
theorem arrange_first_of_all {place : α → ℕ} {l order : List α}
    (hPlace : l.Pairwise fun a b => place a < place b) (hPerm : order.Perm l)
    (hNodup : order.Nodup) (hOrder : Respects waits order) :
    order = (arrange waits l).1 ∨ (arrange waits l).1.map place < order.map place := by
  induction l using arrange_induction waits generalizing order with
  | stuck l hl =>
    rw [arrange_of_not_ready hl]
    cases order with
    | nil => exact Or.inl rfl
    | cons x rest => exact Or.inr (List.nil_lt_cons _ _)
  | step l₁ a l₂ h₁ ha ih =>
    rw [arrange_of_ready h₁ ha, List.map_cons]
    cases order with
    | nil => exact absurd hPerm.symm.eq_nil (by simp)
    | cons x rest =>
      obtain ⟨hReady, hRest⟩ := (respects_cons hNodup).mp hOrder
      have hx : x ∈ l₁ ++ a :: l₂ := hPerm.subset List.mem_cons_self
      have hxReady : isReady waits (l₁ ++ a :: l₂) x = true :=
        isReady_iff.mpr fun b hb => isReady_iff.mp hReady b (hPerm.symm.subset hb)
      by_cases hxa : x = a
      · subst hxa
        have hRestPerm : rest.Perm (l₁ ++ l₂) := (hPerm.trans List.perm_middle).cons_inv
        have hSub : (l₁ ++ l₂).Sublist (l₁ ++ x :: l₂) :=
          (List.Sublist.refl l₁).append (List.sublist_cons_self x l₂)
        rcases ih (hPlace.sublist hSub) hRestPerm (List.nodup_cons.mp hNodup).2 hRest with
          hSame | hLess
        · exact Or.inl (congrArg (x :: ·) hSame)
        · exact Or.inr (List.cons_lt_cons_iff.mpr (Or.inr ⟨rfl, hLess⟩))
      · -- `a` is the first ready item, so `x` stands behind it
        have hx₂ : x ∈ l₂ := by
          rcases List.mem_append.mp hx with hx | hx
          · rw [h₁ x hx] at hxReady
            exact absurd hxReady Bool.false_ne_true
          · exact (List.mem_cons.mp hx).resolve_left hxa
        have hLess : place a < place x :=
          (List.pairwise_cons.mp (List.pairwise_append.mp hPlace).2.1).1 x hx₂
        exact Or.inr (List.cons_lt_cons_iff.mpr (Or.inl hLess))

end Precedence

namespace Session

open Precedence

variable {s : Session} {order : List ObjectId}

/-- The registered actions in an order in which each one comes after those that it requires. -/
structure Ordering (s : Session) (order : List ObjectId) : Prop where
  perm : order.Perm s.registry
  respects : Respects s.requires order

/-- The places in which actions stand in the registry. -/
def places (s : Session) (ids : List ObjectId) : List ℕ := ids.map s.registry.idxOf

instance (s : Session) (order : List ObjectId) : Decidable (s.Ordering order) :=
  decidable_of_iff (order.Perm s.registry ∧ Respects s.requires order)
    ⟨fun h => ⟨h.1, h.2⟩, fun h => ⟨h.perm, h.respects⟩⟩

/-- The places of a list without repetitions rise along it. -/
theorem pairwise_idxOf {ids : List ObjectId} (hNodup : ids.Nodup) :
    ids.Pairwise fun a b => ids.idxOf a < ids.idxOf b := by
  rw [List.pairwise_iff_getElem]
  intro i j hi hj hij
  rwa [hNodup.idxOf_getElem i hi, hNodup.idxOf_getElem j hj]

theorem ordering_sort (hs : s.Listed) (h : s.sort.1.ok = true) : s.Ordering s.sort.1.value := by
  have hPerm := sort_perm hs h
  refine ⟨hPerm, fun a b hab => sort_precedes hs h (waitsOn_iff.mpr ?_)⟩
  exact hab.mono hPerm.subset

theorem places_sort_lt (hs : s.Listed) (h : s.sort.1.ok = true) (hOrder : s.Ordering order)
    (hOther : order ≠ s.sort.1.value) : s.places s.sort.1.value < s.places order := by
  have hNodup : order.Nodup := hOrder.perm.nodup_iff.mpr hs.nodup
  have hFirst := arrange_first_of_all (pairwise_idxOf hs.nodup) hOrder.perm hNodup hOrder.respects
  rw [arrange_of_sort_ok hs h] at hFirst
  exact hFirst.resolve_left hOther

theorem sort_of_ordering_registry (hs : s.Listed) (h : s.Ordering s.registry) :
    s.sort.1.ok = true ∧ s.sort.1.value = s.registry := by
  have hArrange := arrange_of_respects hs.nodup h.respects
  have hOk : s.sort.1.ok = true := by
    have hStuck := congrArg Prod.snd ((arrangement_ids hs).symm.trans hArrange)
    exact sort_ok.mpr (List.map_eq_nil_iff.mp hStuck)
  refine ⟨hOk, ?_⟩
  rw [arrange_of_sort_ok hs hOk] at hArrange
  exact congrArg Prod.fst hArrange

/-- **Sorting gives the first of all orderings of the plan.**  When it succeeds, its result is an
ordering, and the places in which the actions of any other ordering stand in the registry come after
its own in the lexicographic order.  When the registry itself is an ordering, sorting succeeds and
leaves the order as it is. -/
theorem sort_first_of_all (commands : List Command) :
    let s := ({} : Session).performAll commands
    (s.sort.1.ok = true → s.Ordering s.sort.1.value ∧
      ∀ order, s.Ordering order → order ≠ s.sort.1.value →
        s.places s.sort.1.value < s.places order) ∧
    (s.Ordering s.registry → s.sort.1.ok = true ∧ s.sort.1.value = s.registry) := by
  intro s
  have hs : s.Listed := listed_empty.performAll commands
  exact ⟨fun h => ⟨ordering_sort hs h, fun _ hOrder hOther => places_sort_lt hs h hOrder hOther⟩,
    sort_of_ordering_registry hs⟩

/-- Partitions are planned in the wrong order and before two filesystems go; with the creations left
out, the order of registration stays. -/
theorem sort_first_of_all_of_mixed_plan :
    let populate : List Command := [
      .adoptDevice { name := "sda", kind := .disk, size := gibibytes 100 } "" "",
      .adoptDevice { name := "sda1", kind := .partition, size := gibibytes 10, parents := [2] }
        "ext4" "/",
      .adoptDevice { name := "sda2", kind := .partition, size := gibibytes 10, parents := [2] }
        "swap" "",
      .newDevice { name := "sda3", kind := .partition, size := gibibytes 10, parents := [2] },
      .newDevice { name := "sda4", kind := .partition, size := gibibytes 10, parents := [2] }]
    let s := ({} : Session).performAll (populate ++ [
      .schedule (.createDevice 12), .schedule (.destroyFormat 7), .schedule (.createDevice 10),
      .schedule (.destroyFormat 4)])
    let s' := ({} : Session).performAll (populate ++ [
      .schedule (.destroyFormat 7), .schedule (.destroyFormat 4)])
    (s.registry = [13, 15, 16, 18] ∧ s.sort.1.ok = true ∧ s.sort.1.value = [15, 18, 16, 13] ∧
      s.Ordering [18, 15, 16, 13]) ∧
    (s.Ordering s.sort.1.value ∧ s.places s.sort.1.value < s.places [18, 15, 16, 13]) ∧
    (s'.registry = [14, 16] ∧ s'.Ordering s'.registry) ∧
    (s'.sort.1.ok = true ∧ s'.sort.1.value = s'.registry) := by
  intro populate s s'
  have hOk : s.sort.1.ok = true := by decide +kernel
  have hOther : s.Ordering [18, 15, 16, 13] := by decide +kernel
  have hRegistry : s'.Ordering s'.registry := by decide +kernel
  obtain ⟨hOrder, hFirst⟩ := (sort_first_of_all _).1 hOk
  exact ⟨⟨by decide +kernel, hOk, by decide +kernel, hOther⟩,
    ⟨hOrder, hFirst _ hOther (by decide +kernel)⟩, ⟨by decide +kernel, hRegistry⟩,
    (sort_first_of_all _).2 hRegistry⟩

end Session

end StoragePlan

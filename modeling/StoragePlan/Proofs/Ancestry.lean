import Mathlib.Data.Finset.Card
import Mathlib.Logic.Relation
import StoragePlan.Session.Validate
import StoragePlan.Tree.Graph

/-!
# Ancestors are what the parent edges reach

`DeviceTree.ancestors` searches the graph of parents generation by generation.  This file compares
it with the relation `BuiltOn`, one parent edge, and its transitive closure `StandsOn`.

* `mem_ancestors_iff`: the search finds exactly what parent edges reach, on every graph.
* `dependsOn_iff`: `dependsOn` decides `StandsOn` between different devices.
* `acyclic_iff_onCycle`: a tree is `Acyclic` exactly when no stored device is built on itself.
* `depth_lt_of_dependsOn`: on an acyclic tree a device has **more ancestors than each of its
  ancestors**, and `depth_eq_of_shareDisk`: partitions of one disk have equally many.
-/

namespace StoragePlan.DeviceTree

open Relation

variable {t : DeviceTree} {d e p x : ObjectId}

/-- `p` is a parent of `d`. -/
def BuiltOn (t : DeviceTree) (d p : ObjectId) : Prop := p ∈ t.parentsOf d

/-- `d` is built on `p`, directly or through others. -/
abbrev StandsOn (t : DeviceTree) : ObjectId → ObjectId → Prop := TransGen t.BuiltOn

/-- No device is its own ancestor. -/
def Acyclic (t : DeviceTree) : Prop := ∀ d, ¬ t.StandsOn d d

theorem builtOn_iff : t.BuiltOn d p ↔ ∃ device, t.device? d = some device ∧ p ∈ device.parents := by
  unfold BuiltOn parentsOf
  cases t.device? d <;> simp

theorem standsOn_iff : t.StandsOn d x ↔ ∃ p, t.BuiltOn d p ∧ (p = x ∨ t.StandsOn p x) := by
  constructor
  · intro h
    obtain ⟨p, hp, h⟩ := TransGen.head'_iff.mp h
    rcases reflTransGen_iff_eq_or_transGen.mp h with rfl | h
    · exact ⟨x, hp, Or.inl rfl⟩
    · exact ⟨p, hp, Or.inr h⟩
  · rintro ⟨p, hp, rfl | h⟩
    · exact .single hp
    · exact .head hp h

/-! ## The search -/

theorem mem_nextGeneration {seen generation : List ObjectId} :
    x ∈ t.nextGeneration seen generation ↔ (∃ d ∈ generation, t.BuiltOn d x) ∧ x ∉ seen := by
  rw [nextGeneration, mem_fresh, List.mem_flatMap]
  rfl

/-- What the search finds stands under its start. -/
theorem standsOn_of_mem_generationsAbove {seen generation : List ObjectId}
    (h : x ∈ t.generationsAbove seen generation) :
    (∃ d ∈ generation, t.StandsOn d x) ∧ x ∉ seen := by
  induction seen, generation using generationsAbove.induct t with
  | case1 seen generation _ hNext =>
    rw [generationsAbove, if_pos hNext] at h
    simp at h
  | case2 seen generation _ hNext ih =>
    rw [generationsAbove, if_neg hNext] at h
    rcases List.mem_append.mp h with h | h
    · obtain ⟨⟨d, hd, hx⟩, hSeen⟩ := mem_nextGeneration.mp h
      exact ⟨⟨d, hd, .single hx⟩, hSeen⟩
    · obtain ⟨⟨p, hp, hx⟩, hSeen⟩ := ih h
      obtain ⟨⟨d, hd, hdp⟩, _⟩ := mem_nextGeneration.mp hp
      exact ⟨⟨d, hd, .head hdp hx⟩, fun hx => hSeen (List.mem_append_left _ hx)⟩

/-- The search misses nothing, as long as the parents of all that was seen before the present
generation were seen too. -/
theorem mem_generationsAbove_of_standsOn {seen generation : List ObjectId}
    (hSeen : ∀ d ∈ seen, d ∉ generation → ∀ p, t.BuiltOn d p → p ∈ seen)
    (hd : d ∈ seen) (h : t.StandsOn d x) : x ∈ seen ∨ x ∈ t.generationsAbove seen generation := by
  induction seen, generation using generationsAbove.induct t with
  | case1 seen generation _ hNext =>
    -- the last generation: all that was seen is closed under parents
    have hClosed : ∀ d ∈ seen, ∀ p, t.BuiltOn d p → p ∈ seen := by
      intro d hd p hp
      by_cases hg : d ∈ generation
      · by_contra hps
        have hMem := mem_nextGeneration.mpr ⟨⟨d, hg, hp⟩, hps⟩
        rw [show t.nextGeneration seen generation = [] from hNext] at hMem
        exact absurd hMem List.not_mem_nil
      · exact hSeen d hd hg p hp
    left
    induction h with
    | single hp => exact hClosed d hd _ hp
    | tail _ hp ih => exact hClosed _ ih _ hp
  | case2 seen generation _ hNext ih =>
    rw [generationsAbove, if_neg hNext]
    have hSeen' : ∀ d ∈ seen ++ t.nextGeneration seen generation,
        d ∉ t.nextGeneration seen generation →
        ∀ p, t.BuiltOn d p → p ∈ seen ++ t.nextGeneration seen generation := by
      intro d hd hn p hp
      have hds : d ∈ seen := (List.mem_append.mp hd).resolve_right hn
      rw [List.mem_append]
      by_cases hg : d ∈ generation
      · by_cases hps : p ∈ seen
        · exact Or.inl hps
        · exact Or.inr (mem_nextGeneration.mpr ⟨⟨d, hg, hp⟩, hps⟩)
      · exact Or.inl (hSeen d hds hg p hp)
    rcases ih hSeen' (List.mem_append_left _ hd) with h | h
    · rcases List.mem_append.mp h with h | h
      · exact Or.inl h
      · exact Or.inr (List.mem_append_left _ h)
    · exact Or.inr (List.mem_append_right _ h)

/-- **The ancestors of a device are the other devices that parent edges reach from it.** -/
theorem mem_ancestors_iff : x ∈ t.ancestors d ↔ x ≠ d ∧ t.StandsOn d x := by
  constructor
  · intro h
    obtain ⟨⟨e, he, hx⟩, hne⟩ := standsOn_of_mem_generationsAbove h
    rw [List.mem_singleton.mp he] at hx
    exact ⟨by simpa using hne, hx⟩
  · rintro ⟨hne, h⟩
    have hStart : ∀ e ∈ [d], e ∉ [d] → ∀ p, t.BuiltOn e p → p ∈ [d] :=
      fun e he hn => absurd he hn
    rcases mem_generationsAbove_of_standsOn hStart List.mem_cons_self h with h | h
    · exact absurd (List.mem_singleton.mp h) hne
    · exact h

theorem dependsOn_iff : t.dependsOn d x = true ↔ d ≠ x ∧ t.StandsOn d x := by
  unfold dependsOn
  rw [Bool.and_eq_true, List.contains_iff_mem, mem_ancestors_iff, bne_iff_ne]
  exact ⟨fun h => ⟨h.1, h.2.2⟩, fun h => ⟨h.1, h.1.symm, h.2⟩⟩

/-! ## Dependents and leaves -/

theorem mem_dependents : x ∈ t.dependents d ↔ x ∈ t.order ∧ x ≠ d ∧ t.StandsOn x d := by
  unfold dependents
  rw [List.mem_filter, Bool.and_eq_true, bne_iff_ne, dependsOn_iff]
  exact ⟨fun h => ⟨h.1, h.2.1, h.2.2.2⟩, fun h => ⟨h.1, h.2.1, h.2.1, h.2.2⟩⟩

theorem mem_dependents_of_acyclic (ht : t.Acyclic) :
    x ∈ t.dependents d ↔ x ∈ t.order ∧ t.StandsOn x d := by
  rw [mem_dependents]
  exact ⟨fun h => ⟨h.1, h.2.2⟩, fun h => ⟨h.1, fun hSame => ht d (hSame ▸ h.2), h.2⟩⟩

theorem isLeaf_iff : t.isLeaf x = true ↔ ∀ y ∈ t.order, ¬ t.BuiltOn y x := by
  unfold isLeaf children BuiltOn
  rw [List.isEmpty_iff, List.filter_eq_nil_iff]
  simp only [List.contains_iff_mem]

/-! ## Acyclic trees -/

theorem onCycle_iff {device : Device} (h : t.device? d = some device) :
    t.onCycle device = true ↔ t.StandsOn d d := by
  have hId : device.id = d := Arena.id_of_find? h
  rw [onCycle, List.any_eq_true, standsOn_iff, hId]
  constructor
  · rintro ⟨p, hp, h'⟩
    refine ⟨p, builtOn_iff.mpr ⟨device, h, hp⟩, ?_⟩
    rcases Bool.or_eq_true_iff.mp h' with h' | h'
    · exact Or.inl (by simpa using h')
    · exact Or.inr (dependsOn_iff.mp h').2
  · rintro ⟨p, hp, h'⟩
    obtain ⟨device', hd', hp⟩ := builtOn_iff.mp hp
    obtain rfl : device = device' := Option.some.inj (h ▸ hd')
    refine ⟨p, hp, ?_⟩
    by_cases hpd : p = d
    · simp [hpd]
    · simp [dependsOn_iff.mpr ⟨hpd, h'.resolve_left hpd⟩]

/-- A tree is acyclic exactly when no stored device is built on itself. -/
theorem acyclic_iff_onCycle :
    t.Acyclic ↔ ∀ device ∈ t.devices.items, t.onCycle device = false := by
  constructor
  · intro h device hd
    have hFind := (Arena.mem_iff_find? t.devices device).mp hd
    by_contra hc
    exact h _ ((onCycle_iff hFind).mp (by simpa using hc))
  · intro h d hd
    obtain ⟨p, hp, _⟩ := standsOn_iff.mp hd
    obtain ⟨device, hFind, _⟩ := builtOn_iff.mp hp
    have := h device (Arena.mem_of_find? hFind)
    rw [(onCycle_iff hFind).mpr hd] at this
    exact absurd this (by simp)

instance (t : DeviceTree) : Decidable t.Acyclic :=
  decidable_of_iff _ acyclic_iff_onCycle.symm

/-! ## Depth -/

/-- How many ancestors a device has. -/
def depth (t : DeviceTree) (d : ObjectId) : Nat := (t.ancestors d).toFinset.card

/-- **A device is deeper than what it is built on.** -/
theorem depth_lt_of_dependsOn (ht : t.Acyclic) (h : t.dependsOn d x = true) :
    t.depth x < t.depth d := by
  obtain ⟨hne, h⟩ := dependsOn_iff.mp h
  refine Finset.card_lt_card (Finset.ssubset_iff_of_subset ?_ |>.mpr ⟨x, ?_, ?_⟩)
  · intro y hy
    rw [List.mem_toFinset, mem_ancestors_iff] at hy ⊢
    have hdy : t.StandsOn d y := h.trans hy.2
    exact ⟨fun hyd => ht d (hyd ▸ hdy), hdy⟩
  · rw [List.mem_toFinset, mem_ancestors_iff]
    exact ⟨hne.symm, h⟩
  · rw [List.mem_toFinset, mem_ancestors_iff]
    exact fun hx => hx.1 rfl

theorem diskOfPartition?_eq_some (h : t.diskOfPartition? d = some p) :
    ∃ device, t.device? d = some device ∧ device.kind = .partition ∧
      device.parents.head? = some p := by
  unfold diskOfPartition? at h
  cases hd : t.device? d with
  | none => simp [hd] at h
  | some device =>
    by_cases hk : device.kind = .partition
    · exact ⟨device, rfl, hk, by simpa [hd, hk] using h⟩
    · simp [hd, hk] at h

/-- The partitions of a tree lie on one device each. -/
def OneDisk (t : DeviceTree) : Prop :=
  ∀ device ∈ t.devices.items, device.kind = .partition → device.parents.length = 1

instance (t : DeviceTree) : Decidable t.OneDisk :=
  inferInstanceAs (Decidable (∀ device ∈ t.devices.items, _))

theorem OneDisk.parentsOf_eq (h : t.OneDisk) (hp : t.diskOfPartition? d = some p) :
    t.parentsOf d = [p] := by
  obtain ⟨device, hd, hk, hHead⟩ := diskOfPartition?_eq_some hp
  have hLength := h device (Arena.mem_of_find? hd) hk
  obtain ⟨q, hq⟩ := List.length_eq_one_iff.mp hLength
  rw [hq] at hHead
  rw [parentsOf, hd, Option.map_some, Option.getD_some, hq, Option.some.inj hHead]

/-- Partitions of one disk stand on the same devices, so they have the same depth. -/
theorem depth_eq_of_shareDisk (ht : t.Acyclic) (hOne : t.OneDisk) (h : t.shareDisk d e = true) :
    t.depth d = t.depth e := by
  have hDisk : ∃ p, t.diskOfPartition? d = some p ∧ t.diskOfPartition? e = some p := by
    unfold shareDisk at h
    cases hd : t.diskOfPartition? d with
    | none => simp [hd] at h
    | some p =>
      cases he : t.diskOfPartition? e with
      | none => simp [hd, he] at h
      | some q =>
        have : p = q := by simpa [hd, he] using h
        exact ⟨p, rfl, by rw [this]⟩
  obtain ⟨p, hd, he⟩ := hDisk
  have hSame : ∀ x, t.StandsOn d x ↔ t.StandsOn e x := by
    intro x
    rw [standsOn_iff, standsOn_iff]
    simp only [BuiltOn, hOne.parentsOf_eq hd, hOne.parentsOf_eq he]
  unfold depth
  congr 1
  ext x
  rw [List.mem_toFinset, List.mem_toFinset, mem_ancestors_iff, mem_ancestors_iff, hSame]
  constructor
  · exact fun hx => ⟨fun hxe => ht e (hxe ▸ hx.2), hx.2⟩
  · exact fun hx => ⟨fun hxd => ht d ((hSame d).mpr (hxd ▸ hx.2)), hx.2⟩

end StoragePlan.DeviceTree

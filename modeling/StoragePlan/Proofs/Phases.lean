import StoragePlan.Proofs.Sorting

/-!
# Destroys, resizes and creates

Every create requires every destroy and every resize, so creates come last in each sorted plan
(`createsLast_of_sort_ok`).  No rule makes a resize wait for a destroy: a resize that requires
nothing is taken as soon as its turn in the registry comes.

* `destroysFirst_iff`: destroys come before resizes **exactly when** every destroy was registered
  before every resize that requires no registered action.
* `phases_of_sort_ok`: both facts, in every session that commands lead to.
* `not_destroysFirst_of_resize_registered_first`: a plan whose resize stands before a destroy.
-/

namespace StoragePlan

/-! ## Rules within a phase -/

namespace DeviceTree

variable {t : DeviceTree} {a b : Action}

/-- Destroys wait for destroys only, and resizes for resizes. -/
theorem type_of_requires (ha : a.type = .destroy ∨ a.type = .resize)
    (h : t.requires a b = true) : b.type = a.type := by
  unfold requires requiresByKind at h
  unfold Action.type at *
  cases hka : a.kind <;> simp only [hka, ActionKind.type, reduceCtorEq, or_self] at ha <;>
    cases hkb : b.kind <;> simp_all [ActionKind.type]

theorem requires_of_create (hId : a.id ≠ b.id) (ha : a.type = .create)
    (hb : b.type = .destroy ∨ b.type = .resize) : t.requires a b = true := by
  unfold requires
  rcases hb with hb | hb <;> simp [ha, hb, hId]

end DeviceTree

namespace Session

open Precedence

/-- What the action with this id does. -/
def typeOf? (s : Session) (id : ObjectId) : Option ActionType := (s.action? id).map Action.type

/-- In the sorted plan every destroy stands before every resize. -/
def DestroysFirst (s : Session) : Prop :=
  ∀ d ∈ s.registry, ∀ r ∈ s.registry, s.typeOf? d = some .destroy → s.typeOf? r = some .resize →
    Precedes s.sort.1.value d r

/-- In the sorted plan every destroy and every resize stands before every create. -/
def CreatesLast (s : Session) : Prop :=
  ∀ a ∈ s.registry, ∀ c ∈ s.registry,
    s.typeOf? a = some .destroy ∨ s.typeOf? a = some .resize → s.typeOf? c = some .create →
    Precedes s.sort.1.value a c

/-- Every destroy was registered before every resize that requires no registered action. -/
def DestroysRegisteredFirst (s : Session) : Prop :=
  ∀ d ∈ s.registry, ∀ r ∈ s.registry, s.typeOf? d = some .destroy → s.typeOf? r = some .resize →
    (∀ b ∈ s.registry, s.requires r b = false) → Precedes s.registry d r

-- the registry is run through, not all ids
instance (s : Session) : Decidable s.DestroysFirst :=
  @List.decidableBAll _ _ (fun _ => @List.decidableBAll _ _ (fun _ => inferInstance) _) _

instance (s : Session) : Decidable s.CreatesLast :=
  @List.decidableBAll _ _ (fun _ => @List.decidableBAll _ _ (fun _ => inferInstance) _) _

instance (s : Session) : Decidable s.DestroysRegisteredFirst :=
  have (r : ObjectId) : Decidable (∀ b ∈ s.registry, s.requires r b = false) :=
    List.decidableBAll _ _
  @List.decidableBAll _ _ (fun _ => @List.decidableBAll _ _ (fun _ => inferInstance) _) _

theorem typeOf?_eq_some {s : Session} {id : ObjectId} {type : ActionType} :
    s.typeOf? id = some type ↔ ∃ a, s.action? id = some a ∧ a.type = type := by
  unfold typeOf?
  rw [Option.map_eq_some_iff]

theorem typeOf?_of {s : Session} {id : ObjectId} {a : Action} (ha : s.action? id = some a)
    {kind : ActionKind} (hKind : a.kind = kind) : s.typeOf? id = some kind.type :=
  typeOf?_eq_some.mpr ⟨a, ha, congrArg ActionKind.type hKind⟩

theorem typeOf?_of_requires {s : Session} {a b : ObjectId} {type : ActionType}
    (ha : s.typeOf? a = some type) (hType : type = .destroy ∨ type = .resize)
    (h : s.requires a b = true) : s.typeOf? b = some type := by
  obtain ⟨x, y, hA, hB, h⟩ := exists_of_requires h
  obtain ⟨x', hA', rfl⟩ := typeOf?_eq_some.mp ha
  obtain rfl : x = x' := Option.some.inj (hA ▸ hA')
  exact typeOf?_eq_some.mpr ⟨y, hB, DeviceTree.type_of_requires hType h⟩

/-! ## Creates come last -/

theorem waitsOn_of_create {s : Session} {a c : ObjectId} (ha : a ∈ s.registry)
    (hc : c ∈ s.registry) (hType : s.typeOf? a = some .destroy ∨ s.typeOf? a = some .resize)
    (hCreate : s.typeOf? c = some .create) : s.WaitsOn c a := by
  have hca : c ≠ a := by
    rintro rfl
    rw [hCreate] at hType
    simp at hType
  obtain ⟨z, hZ, hCreate⟩ := typeOf?_eq_some.mp hCreate
  rw [typeOf?_eq_some, typeOf?_eq_some, ← exists_or] at hType
  obtain ⟨x, hType⟩ := hType
  rw [← and_or_left] at hType
  obtain ⟨hX, hType⟩ := hType
  refine ⟨hc, ha, hca, ?_⟩
  have hId : z.id ≠ x.id := by
    rw [id_of_action? hZ, id_of_action? hX]
    exact hca
  unfold requires
  rw [hZ, hX]
  exact DeviceTree.requires_of_create hId hCreate hType

theorem createsLast_of_sort_ok {s : Session} (hs : s.Listed) (h : s.sort.1.ok = true) :
    s.CreatesLast := by
  intro a ha c hc hType hCreate
  exact sort_precedes hs h (waitsOn_of_create ha hc hType hCreate)

/-! ## Destroys and resizes -/

section

variable {s : Session} (hs : s.Listed) (h : s.sort.1.ok = true)

include hs h

theorem destroysRegisteredFirst_of_destroysFirst (hFirst : s.DestroysFirst) :
    s.DestroysRegisteredFirst := by
  intro d hd r hr hDestroy hResize hFree
  obtain ⟨l₁, l₂, hValue, hr₂⟩ := (hFirst d hd r hr hDestroy hResize).exists_append
  refine sort_first hs h hValue hr₂ fun c hc hrc => ?_
  rw [hFree c hc] at hrc
  exact absurd hrc (by simp)

theorem destroysFirst_of_destroysRegisteredFirst (hFirst : s.DestroysRegisteredFirst) :
    s.DestroysFirst := by
  intro d hd r hr hDestroy hResize
  have hMem : ∀ {id}, id ∈ s.sort.1.value ↔ id ∈ s.registry := (sort_perm hs h).mem_iff
  -- `r₀` is the first resize; what it requires would be an earlier one
  obtain ⟨l₁, r₀, l₂, hValue, hResize₀, hNone⟩ :=
    exists_first (p := fun id => s.typeOf? id = some .resize) ⟨r, hMem.mpr hr, hResize⟩
  have hr₀ : r₀ ∈ s.registry := hMem.mp (by simp [hValue])
  have hFree : ∀ b ∈ s.registry, s.requires r₀ b = false := by
    intro b hb
    by_contra hReq
    rw [Bool.not_eq_false] at hReq
    exact hNone b (mem_of_requires hs h hValue hb hReq)
      (typeOf?_of_requires hResize₀ (Or.inr rfl) hReq)
  -- the first destroy behind `r₀` would have been taken instead of it
  have hBefore : ∀ x ∈ l₂, s.typeOf? x ≠ some .destroy := by
    intro x hx hBehind
    obtain ⟨m₁, d₀, m₂, hl₂, hDestroy₀, hNone₀⟩ :=
      exists_first (p := fun id => s.typeOf? id = some .destroy) ⟨x, hx, hBehind⟩
    have hd₀ : d₀ ∈ s.registry := hMem.mp (by simp [hValue, hl₂])
    have hAfter : Precedes s.registry r₀ d₀ := by
      refine sort_first hs h hValue (by simp [hl₂]) fun c hc hReq => ?_
      have hValue₀ : s.sort.1.value = (l₁ ++ r₀ :: m₁) ++ d₀ :: m₂ := by
        rw [hValue, hl₂]
        simp
      have hDestroy' := typeOf?_of_requires hDestroy₀ (Or.inl rfl) hReq
      rcases List.mem_append.mp (mem_of_requires hs h hValue₀ hc hReq) with hc | hc
      · exact hc
      · rcases List.mem_cons.mp hc with rfl | hc
        · rw [hResize₀] at hDestroy'
          exact absurd hDestroy' (by simp)
        · exact absurd hDestroy' (hNone₀ c hc)
    exact hAfter.asymm hs.nodup (hFirst d₀ hd₀ r₀ hr₀ hDestroy₀ hResize₀ hFree)
  have hd₁ : d ∈ l₁ := by
    have hd := hMem.mpr hd
    rw [hValue] at hd
    rcases List.mem_append.mp hd with hd | hd
    · exact hd
    · rcases List.mem_cons.mp hd with rfl | hd
      · rw [hResize₀] at hDestroy
        exact absurd hDestroy (by simp)
      · exact absurd hDestroy (hBefore d hd)
  have hr₂ : r ∈ r₀ :: l₂ := by
    have hr := hMem.mpr hr
    rw [hValue] at hr
    exact (List.mem_append.mp hr).resolve_left fun hr => hNone r hr hResize
  rw [hValue]
  exact precedes_append hd₁ hr₂

theorem destroysFirst_iff : s.DestroysFirst ↔ s.DestroysRegisteredFirst :=
  ⟨destroysRegisteredFirst_of_destroysFirst hs h, destroysFirst_of_destroysRegisteredFirst hs h⟩

end

/-- **What a sorted plan keeps of "destroy before resize before create"**: creates come last, and
destroys come before resizes exactly when they were registered before the resizes that require
nothing. -/
theorem phases_of_sort_ok (commands : List Command) :
    let s := ({} : Session).performAll commands
    s.sort.1.ok = true →
      s.CreatesLast ∧ (s.DestroysFirst ↔ s.DestroysRegisteredFirst) := by
  intro s h
  have hs : s.Listed := listed_empty.performAll commands
  exact ⟨createsLast_of_sort_ok hs h, destroysFirst_iff hs h⟩

/-- A new partition with its filesystem is registered first, then a destroy, then a resize. -/
theorem phases_of_mixed_plan :
    let s := ({} : Session).performAll [
      .adoptDevice { name := "sda", kind := .disk, size := gibibytes 100 } "" "",
      .adoptDevice { name := "sda1", kind := .partition, size := gibibytes 10, parents := [2] }
        "ext4" "/",
      .adoptDevice { name := "sda2", kind := .partition, size := gibibytes 10, parents := [2] }
        "ext4" "/home",
      .newDevice { name := "sda3", kind := .partition, size := gibibytes 10, parents := [2] },
      .newFormat "xfs" "/srv" false,
      .schedule (.createDevice 10), .schedule (.createFormat 10 11),
      .schedule (.destroyFormat 7), .schedule (.resizeFormat 4 (gibibytes 9))]
    (s.sort.1.ok = true ∧ s.sort.1.value = [15, 16, 12, 13] ∧ s.DestroysFirst) ∧
      s.CreatesLast ∧ (s.DestroysFirst ↔ s.DestroysRegisteredFirst) := by
  intro s
  exact ⟨by decide +kernel, phases_of_sort_ok _ (by decide +kernel)⟩

/-- The shrinking of one filesystem is registered before the destroy of another one, and it stays
before it in the sorted plan. -/
theorem not_destroysFirst_of_resize_registered_first :
    let s := ({} : Session).performAll [
      .adoptDevice { name := "sda", kind := .disk, size := gibibytes 100 } "" "",
      .adoptDevice { name := "sda1", kind := .partition, size := gibibytes 10, parents := [2] }
        "ext4" "/",
      .adoptDevice { name := "sda2", kind := .partition, size := gibibytes 10, parents := [2] }
        "ext4" "/home",
      .schedule (.resizeFormat 4 (gibibytes 9)), .schedule (.destroyFormat 7)]
    s.sort.1.ok = true ∧ s.sort.1.value = [9, 11] ∧ s.typeOf? 9 = some .resize ∧
      s.typeOf? 11 = some .destroy ∧ ¬ s.DestroysFirst := by
  decide +kernel

end Session

end StoragePlan

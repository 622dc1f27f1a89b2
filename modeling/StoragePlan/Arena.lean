import StoragePlan.Id

/-!
# Arenas

An arena keeps every object it was ever given, in the order of insertion, and finds an object by
its id.  Objects are never dropped and their ids never change, so an arena grows only: it refuses
an object whose id is invalid or taken.  The ids of an arena are therefore valid and distinct, which
is part of its type.

* `mem_iff_find?` ties the two views of an arena, the list and the look-up.
* `find?_insert` and `find?_modify` say what each operation does to the look-up.
-/

namespace StoragePlan

/-- Objects that carry their own id. -/
class Identified (α : Type) where
  /-- The id of an object. -/
  id : α → ObjectId

/-- Objects in insertion order, with valid and distinct ids. -/
structure Arena (α : Type) [Identified α] where
  /-- Every object stored, oldest first. -/
  items : List α
  /-- No stored object has the invalid id. -/
  ids_valid : ∀ x ∈ items, Identified.id x ≠ 0
  /-- No two stored objects share an id. -/
  ids_nodup : (items.map Identified.id).Nodup

namespace Arena

variable {α : Type} [Identified α]

/-- The arena that holds nothing. -/
def empty : Arena α where
  items := []
  ids_valid := fun _ h => absurd h List.not_mem_nil
  ids_nodup := List.nodup_nil

instance : Inhabited (Arena α) := ⟨empty⟩

@[ext] theorem ext {a b : Arena α} (h : a.items = b.items) : a = b := by
  cases a; cases b; cases h; rfl

/-- The number of stored objects. -/
def size (a : Arena α) : Nat := a.items.length

/-- The stored object with a given id. -/
def find? (a : Arena α) (i : ObjectId) : Option α :=
  a.items.find? fun x => Identified.id x == i

/-- Whether an object with this id is stored. -/
def contains (a : Arena α) (i : ObjectId) : Bool :=
  a.items.any fun x => Identified.id x == i

/-- Store one more object; refused when its id is invalid or taken. -/
def insert? (a : Arena α) (x : α) : Option (Arena α) :=
  if h : Identified.id x ≠ 0 ∧ a.contains (Identified.id x) = false then
    some {
      items := a.items ++ [x]
      ids_valid := by
        intro y hy
        rcases List.mem_append.1 hy with hy | hy
        · exact a.ids_valid y hy
        · rw [List.mem_singleton.1 hy]; exact h.1
      ids_nodup := by
        rw [List.map_append, List.nodup_append]
        refine ⟨a.ids_nodup, by simp, ?_⟩
        intro i hi j hj hij
        obtain ⟨y, hy, rfl⟩ := List.mem_map.1 hi
        simp only [List.map_cons, List.map_nil, List.mem_singleton] at hj
        have := h.2
        simp only [contains, List.any_eq_false] at this
        exact this y hy (by simp [hij, hj]) }
  else none

/-- Store one more object, or leave the arena as it is when its id is invalid or taken. -/
def insert (a : Arena α) (x : α) : Arena α := (a.insert? x).getD a

/-- Change the object with a given id by a function that keeps ids. -/
def modify (a : Arena α) (i : ObjectId) (f : α → α)
    (keeps : ∀ x, Identified.id (f x) = Identified.id x) : Arena α where
  items := a.items.map fun x => if Identified.id x == i then f x else x
  ids_valid := by
    intro y hy
    obtain ⟨x, hx, rfl⟩ := List.mem_map.1 hy
    have := a.ids_valid x hx
    split <;> simp_all
  ids_nodup := by
    have : (a.items.map fun x => if Identified.id x == i then f x else x).map Identified.id
        = a.items.map Identified.id := by
      rw [List.map_map]
      exact List.map_congr_left fun x _ => by simp only [Function.comp]; split <;> simp [keeps]
    rw [this]; exact a.ids_nodup

/-- The object stored last. -/
def last? (a : Arena α) : Option α := a.items.getLast?

/-! ## The look-up after each operation -/

@[simp] theorem find?_empty (i : ObjectId) : (empty : Arena α).find? i = none := rfl

theorem contains_eq_isSome_find? (a : Arena α) (i : ObjectId) :
    a.contains i = (a.find? i).isSome := by
  rw [Bool.eq_iff_iff]
  simp [contains, find?]

theorem id_of_find? {a : Arena α} {i : ObjectId} {x : α} (h : a.find? i = some x) :
    Identified.id x = i := by
  have := List.find?_some h
  simpa using this

theorem mem_of_find? {a : Arena α} {i : ObjectId} {x : α} (h : a.find? i = some x) :
    x ∈ a.items :=
  List.mem_of_find?_eq_some h

theorem find?_zero (a : Arena α) : a.find? 0 = none := by
  cases h : a.find? 0 with
  | none => rfl
  | some x => exact absurd (id_of_find? h) (a.ids_valid x (mem_of_find? h))

theorem mem_iff_find? (a : Arena α) (x : α) : x ∈ a.items ↔ a.find? (Identified.id x) = some x := by
  refine ⟨fun hx => ?_, mem_of_find?⟩
  obtain ⟨items, _, nodup⟩ := a
  simp only [find?] at hx ⊢
  induction items with
  | nil => simp at hx
  | cons y ys ih =>
    simp only [List.map_cons, List.nodup_cons, List.mem_map, not_exists, not_and] at nodup
    rcases List.mem_cons.1 hx with rfl | hx
    · simp
    · have : Identified.id y ≠ Identified.id x := fun h => nodup.1 x hx h.symm
      rw [List.find?_cons_of_neg (by simpa using this)]
      exact ih (fun z hz => by simp_all) nodup.2 hx

theorem insert?_eq_some {a b : Arena α} {x : α} (h : a.insert? x = some b) :
    b.items = a.items ++ [x] ∧ Identified.id x ≠ 0 ∧ a.find? (Identified.id x) = none := by
  unfold insert? at h
  split at h
  case isTrue hx =>
    cases h
    refine ⟨rfl, hx.1, ?_⟩
    have := hx.2
    rw [contains_eq_isSome_find?] at this
    simpa using this
  case isFalse => simp at h

theorem find?_insert? {a b : Arena α} {x : α} (h : a.insert? x = some b) (i : ObjectId) :
    b.find? i = if Identified.id x = i then some x else a.find? i := by
  obtain ⟨items, _, fresh⟩ := insert?_eq_some h
  have append : b.find? i = (a.find? i).or (if Identified.id x = i then some x else none) := by
    simp only [find?, items, List.find?_append]
    congr 1
    by_cases hi : Identified.id x = i <;> simp [hi]
  rw [append]
  by_cases hi : Identified.id x = i
  · subst hi; simp [fresh]
  · simp [hi]

@[simp] theorem items_modify (a : Arena α) (i : ObjectId) (f : α → α)
    (keeps : ∀ x, Identified.id (f x) = Identified.id x) :
    (a.modify i f keeps).items = a.items.map fun x => if Identified.id x == i then f x else x :=
  rfl

/-- A change of every object that keeps ids changes what is found. -/
theorem find?_of_map {a b : Arena α} {f : α → α} (hItems : b.items = a.items.map f)
    (keeps : ∀ x, Identified.id (f x) = Identified.id x) (i : ObjectId) :
    b.find? i = (a.find? i).map f := by
  have sameId : ((fun x => Identified.id x == i) ∘ f) = fun x : α => Identified.id x == i := by
    funext x
    simp [keeps]
  rw [find?, hItems, List.find?_map, sameId]
  rfl

theorem find?_modify (a : Arena α) (i : ObjectId) (f : α → α)
    (keeps : ∀ x, Identified.id (f x) = Identified.id x) (j : ObjectId) :
    (a.modify i f keeps).find? j = (a.find? j).map fun x => if j = i then f x else x := by
  rw [find?_of_map (items_modify a i f keeps) (fun x => by split <;> simp [keeps])]
  refine Option.map_congr fun x hx => ?_
  simp [id_of_find? (Option.mem_def.mp hx)]

/-- Storing one more object keeps what could be found. -/
theorem find?_insert_of_find? {a : Arena α} {i : ObjectId} {y : α} (h : a.find? i = some y)
    (x : α) : (a.insert x).find? i = some y := by
  rw [insert]
  cases hInsert : a.insert? x with
  | none => exact h
  | some b =>
    obtain ⟨_, _, hFresh⟩ := insert?_eq_some hInsert
    rw [Option.getD_some, find?_insert? hInsert, if_neg, h]
    rintro rfl
    rw [hFresh] at h
    cases h

/-- What is found after storing one more object was found before, or is that object. -/
theorem of_find?_insert {a : Arena α} {i : ObjectId} {x y : α} (h : (a.insert x).find? i = some y) :
    a.find? i = some y ∨ y = x ∧ a.find? i = none := by
  rw [insert] at h
  cases hInsert : a.insert? x with
  | none =>
    rw [hInsert] at h
    exact Or.inl h
  | some b =>
    obtain ⟨_, _, hFresh⟩ := insert?_eq_some hInsert
    rw [hInsert, Option.getD_some, find?_insert? hInsert] at h
    by_cases hi : Identified.id x = i
    · rw [if_pos hi, Option.some_inj] at h
      exact Or.inr ⟨h.symm, hi ▸ hFresh⟩
    · rw [if_neg hi] at h
      exact Or.inl h

/-- A change that takes another one back restores the arena. -/
theorem modify_modify_of_find? {a : Arena α} {i : ObjectId} {f g : α → α}
    (hf : ∀ x, Identified.id (f x) = Identified.id x)
    (hg : ∀ x, Identified.id (g x) = Identified.id x)
    (h : ∀ x, a.find? i = some x → g (f x) = x) : (a.modify i f hf).modify i g hg = a := by
  apply ext
  rw [items_modify, items_modify, List.map_map]
  refine (List.map_congr_left fun x hx => ?_).trans (List.map_id _)
  simp only [Function.comp, id]
  by_cases hi : Identified.id x = i
  · have hFind := (mem_iff_find? a x).mp hx
    rw [hi] at hFind
    simp [hi, hf, h x hFind]
  · simp [hi]

end Arena

end StoragePlan

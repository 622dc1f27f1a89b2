import Mathlib.Data.Set.Finite.List
import Mathlib.Logic.Relation
import Mathlib.Order.WellFounded
import StoragePlan.Precedence

/-!
# What an arrangement keeps

`Precedence.arrange` takes the first ready item of a list again and again.  This file says what that
makes of the list, for any relation `waits`.

* `arrange_perm`: no item is lost and none comes twice.
* `arrange_precedes`: an item comes after all that it waits for.
* `arrange_first`: an item that could have come earlier is not overtaken by one behind it.
* `arrange_stuck_eq_nil_iff`: nothing gets stuck **exactly when the relation has no cycle** in the
  list.
* `arrange_map`: only the relation between the items matters, not the items.
-/

namespace StoragePlan.Precedence

variable {α β : Type}

/-- `a` stands before `b` in a list. -/
def Precedes (l : List α) (a b : α) : Prop := [a, b].Sublist l

instance [DecidableEq α] (l : List α) (a b : α) : Decidable (Precedes l a b) :=
  inferInstanceAs (Decidable ([a, b].Sublist l))

/-- `a` waits for `b`, and both are in the list. -/
def WaitsIn (waits : α → α → Bool) (l : List α) (a b : α) : Prop :=
  a ∈ l ∧ b ∈ l ∧ waits a b = true

/-- No chain of items of the list, each waiting for the next one, closes. -/
def Acyclic (waits : α → α → Bool) (l : List α) : Prop :=
  ∀ a, ¬ Relation.TransGen (WaitsIn waits l) a a

/-! ## Standing before another item -/

theorem precedes_append {l₁ l₂ : List α} {a b : α} (ha : a ∈ l₁) (hb : b ∈ l₂) :
    Precedes (l₁ ++ l₂) a b :=
  (List.singleton_sublist.mpr ha).append (List.singleton_sublist.mpr hb)

theorem Precedes.mem {l : List α} {a b : α} (h : Precedes l a b) : a ∈ l ∧ b ∈ l :=
  ⟨h.subset (by simp), h.subset (by simp)⟩

theorem Precedes.exists_append {l : List α} {a b : α} (h : Precedes l a b) :
    ∃ l₁ l₂, l = l₁ ++ a :: l₂ ∧ b ∈ l₂ := by
  obtain ⟨m₁, m₂, rfl, ha, hb⟩ := List.cons_sublist_iff.mp h
  obtain ⟨l₁, l₂, rfl⟩ := List.mem_iff_append.mp ha
  exact ⟨l₁, l₂ ++ m₂, by simp, List.mem_append_right l₂ (List.singleton_sublist.mp hb)⟩

/-- The first place of a list where something holds. -/
theorem exists_first {p : α → Prop} [DecidablePred p] {l : List α} (h : ∃ a ∈ l, p a) :
    ∃ l₁ a l₂, l = l₁ ++ a :: l₂ ∧ p a ∧ ∀ b ∈ l₁, ¬ p b := by
  obtain ⟨a, ha, hp⟩ := h
  obtain ⟨b, hb⟩ := Option.isSome_iff_exists.mp
    (List.find?_isSome.mpr ⟨a, ha, decide_eq_true hp⟩ : (l.find? fun x => decide (p x)).isSome)
  obtain ⟨hpb, l₁, l₂, he, hBefore⟩ := List.find?_eq_some_iff_append.mp hb
  exact ⟨l₁, b, l₂, he, of_decide_eq_true hpb, fun c hc => by simpa using hBefore c hc⟩

theorem Precedes.ne {l : List α} {a b : α} (hl : l.Nodup) (h : Precedes l a b) : a ≠ b := by
  have := h.nodup hl
  simpa using this

theorem Precedes.asymm {l : List α} {a b : α} (hl : l.Nodup) (h : Precedes l a b) :
    ¬ Precedes l b a := by
  intro h'
  have hab := h.ne hl
  induction l with
  | nil => exact absurd h.mem.1 (by simp)
  | cons x l ih =>
    obtain ⟨hx, hl⟩ := List.nodup_cons.mp hl
    rcases List.cons_sublist_cons'.mp h with hTail | ⟨rfl, hTail⟩
    · rcases List.cons_sublist_cons'.mp h' with hTail' | ⟨rfl, _⟩
      · exact ih hl hTail hTail'
      · exact hx (Precedes.mem hTail).2
    · rcases List.cons_sublist_cons'.mp h' with hTail' | ⟨he, _⟩
      · exact hx (Precedes.mem hTail').2
      · exact hab he.symm

theorem precedes_or_precedes {l : List α} {a b : α} (ha : a ∈ l) (hb : b ∈ l) (hab : a ≠ b) :
    Precedes l a b ∨ Precedes l b a := by
  obtain ⟨l₁, l₂, rfl⟩ := List.mem_iff_append.mp ha
  rcases List.mem_append.mp hb with hb | hb
  · exact Or.inr (precedes_append hb List.mem_cons_self)
  · have hb : b ∈ l₂ := (List.mem_cons.mp hb).resolve_left (Ne.symm hab)
    exact Or.inl (List.Sublist.trans (by simpa using hb) (List.sublist_append_right l₁ _))

/-! ## The two ways in which an arrangement goes on -/

variable {waits : α → α → Bool}

theorem isReady_iff {l : List α} {a : α} :
    isReady waits l a = true ↔ ∀ b ∈ l, waits a b = false := by
  simp [isReady]

theorem arrange_of_not_ready {l : List α} (h : ∀ a ∈ l, isReady waits l a = false) :
    arrange waits l = ([], l) :=
  arrange_of_none waits (List.find?_eq_none.mpr fun a ha => by simp [h a ha])

theorem arrange_of_ready {l₁ l₂ : List α} {a : α}
    (h₁ : ∀ b ∈ l₁, isReady waits (l₁ ++ a :: l₂) b = false)
    (ha : isReady waits (l₁ ++ a :: l₂) a = true) :
    arrange waits (l₁ ++ a :: l₂)
      = (a :: (arrange waits (l₁ ++ l₂)).1, (arrange waits (l₁ ++ l₂)).2) := by
  have hFind : (l₁ ++ a :: l₂).find? (isReady waits (l₁ ++ a :: l₂)) = some a :=
    List.find?_eq_some_iff_append.mpr ⟨ha, l₁, l₂, rfl, fun b hb => by simp [h₁ b hb]⟩
  have hErase : (l₁ ++ a :: l₂).eraseP (isReady waits (l₁ ++ a :: l₂)) = l₁ ++ l₂ := by
    rw [List.eraseP_append_right _ (fun b hb => by simp [h₁ b hb]), List.eraseP_cons_of_pos ha]
  rw [arrange_of_some waits hFind, hErase]

/-- Either no item is ready, or the first ready one is taken out. -/
@[elab_as_elim]
theorem arrange_induction (waits : α → α → Bool) {motive : List α → Prop} (l : List α)
    (stuck : ∀ l, (∀ a ∈ l, isReady waits l a = false) → motive l)
    (step : ∀ l₁ a l₂, (∀ b ∈ l₁, isReady waits (l₁ ++ a :: l₂) b = false) →
      isReady waits (l₁ ++ a :: l₂) a = true → motive (l₁ ++ l₂) → motive (l₁ ++ a :: l₂)) :
    motive l := by
  induction hn : l.length using Nat.strong_induction_on generalizing l with
  | _ n ih =>
    cases h : l.find? (isReady waits l) with
    | none => exact stuck l fun a ha => by simpa using List.find?_eq_none.mp h a ha
    | some a =>
      obtain ⟨ha, l₁, l₂, rfl, h₁⟩ := List.find?_eq_some_iff_append.mp h
      refine step l₁ a l₂ (fun b hb => by simpa using h₁ b hb) ha (ih _ ?_ _ rfl)
      simp only [List.length_append, List.length_cons] at hn ⊢
      omega

/-! ## Nothing is lost -/

theorem arrange_perm (waits : α → α → Bool) (l : List α) :
    ((arrange waits l).1 ++ (arrange waits l).2).Perm l := by
  induction l using arrange_induction waits with
  | stuck l h => rw [arrange_of_not_ready h]; exact List.Perm.refl l
  | step l₁ a l₂ h₁ ha ih =>
    rw [arrange_of_ready h₁ ha]
    exact (ih.cons a).trans List.perm_middle.symm

theorem mem_arrange (waits : α → α → Bool) {l : List α} {a : α} :
    a ∈ l ↔ a ∈ (arrange waits l).1 ∨ a ∈ (arrange waits l).2 := by
  rw [← (arrange_perm waits l).mem_iff, List.mem_append]

/-! ## Every item comes after those it waits for -/

/-- **When an item is placed, it waits for nothing that is still pending**: neither for a later
item, nor for one that gets stuck, nor for itself. -/
theorem not_waits_of_arrange {l l₁ l₂ : List α} {a : α}
    (h : (arrange waits l).1 = l₁ ++ a :: l₂) :
    ∀ b ∈ a :: l₂ ++ (arrange waits l).2, waits a b = false := by
  induction l using arrange_induction waits generalizing l₁ with
  | stuck l hl => rw [arrange_of_not_ready hl] at h; simp at h
  | step m₁ x m₂ hm hx ih =>
    rw [arrange_of_ready hm hx] at h ⊢
    cases l₁ with
    | nil =>
      obtain ⟨rfl, hTail⟩ := List.cons_eq_cons.mp h
      intro b hb
      refine isReady_iff.mp hx b ?_
      have hPerm := ((arrange_perm waits (m₁ ++ m₂)).cons x).trans List.perm_middle.symm
      refine hPerm.mem_iff.mp ?_
      rw [hTail]
      exact hb
    | cons y l₁ =>
      obtain ⟨rfl, hTail⟩ := List.cons_eq_cons.mp h
      exact ih hTail

/-- What an item waits for is placed before it. -/
theorem mem_before_of_waits {l l₁ l₂ : List α} {a b : α} (h : (arrange waits l).1 = l₁ ++ a :: l₂)
    (hb : b ∈ l) (hw : waits a b = true) : b ∈ l₁ := by
  by_contra hb₁
  have hLater : b ∈ a :: l₂ ++ (arrange waits l).2 := by
    rcases (mem_arrange waits).mp hb with hb | hb
    · rw [h] at hb
      exact List.mem_append_left _ ((List.mem_append.mp hb).resolve_left hb₁)
    · exact List.mem_append_right _ hb
  rw [not_waits_of_arrange h b hLater] at hw
  exact absurd hw (by simp)

/-- An item that is placed comes after all that it waits for. -/
theorem arrange_precedes {l : List α} {a b : α} (ha : a ∈ (arrange waits l).1) (hb : b ∈ l)
    (h : waits a b = true) : Precedes (arrange waits l).1 b a := by
  obtain ⟨l₁, l₂, he⟩ := List.mem_iff_append.mp ha
  rw [he]
  exact precedes_append (mem_before_of_waits he hb h) List.mem_cons_self

/-- **The first ready item goes first.**  When `a` is placed and `b` waits only for items placed
before `a`, then `a` stands before `b` in the list. -/
theorem arrange_first {l l₁ l₂ : List α} {a b : α} (hl : l.Nodup)
    (h : (arrange waits l).1 = l₁ ++ a :: l₂) (hb : b ∈ l) (hab : b ≠ a) (hb₁ : b ∉ l₁)
    (hReady : ∀ c ∈ l, waits b c = true → c ∈ l₁) : Precedes l a b := by
  induction l using arrange_induction waits generalizing l₁ with
  | stuck l hNone => rw [arrange_of_not_ready hNone] at h; simp at h
  | step m₁ x m₂ hm hx ih =>
    rw [arrange_of_ready hm hx] at h
    cases l₁ with
    | nil =>
      obtain ⟨rfl, _⟩ := List.cons_eq_cons.mp h
      have hbReady : isReady waits (m₁ ++ x :: m₂) b = true := by
        refine isReady_iff.mpr fun c hc => ?_
        by_contra hw
        exact absurd (hReady c hc (by simpa using hw)) (by simp)
      have hbm : b ∉ m₁ := fun hbm => by simp [hm b hbm] at hbReady
      have hb₂ : b ∈ m₂ := by
        rcases List.mem_append.mp hb with hb | hb
        · exact absurd hb hbm
        · exact (List.mem_cons.mp hb).resolve_left hab
      exact List.Sublist.trans (by simpa using hb₂) (List.sublist_append_right m₁ _)
    | cons y l₁ =>
      obtain ⟨rfl, hTail⟩ := List.cons_eq_cons.mp h
      have hSub : (m₁ ++ m₂).Sublist (m₁ ++ x :: m₂) :=
        (List.Sublist.refl m₁).append (List.sublist_cons_self x m₂)
      have hxm : x ∉ m₁ ++ m₂ := (List.nodup_middle.mp hl).notMem
      have hbx : b ≠ x := fun hbx => hb₁ (by simp [hbx])
      have hbm : b ∈ m₁ ++ m₂ := by
        have := List.perm_middle.mem_iff.mp hb
        exact (List.mem_cons.mp this).resolve_left hbx
      have hbl₁ : b ∉ l₁ := fun hbl₁ => hb₁ (List.mem_cons_of_mem x hbl₁)
      refine List.Sublist.trans (ih (hl.sublist hSub) hTail hbm hbl₁ ?_) hSub
      intro c hc hw
      have hcx : c ≠ x := fun hcx => hxm (hcx ▸ hc)
      exact (List.mem_cons.mp (hReady c (hSub.subset hc) hw)).resolve_left hcx

/-! ## When something gets stuck -/

/-- The place of an item that is placed is behind the places of all that it waits for. -/
theorem idxOf_lt_of_waits [DecidableEq α] {l : List α} {a b : α} (ha : a ∈ (arrange waits l).1)
    (hb : b ∈ l) (hw : waits a b = true) :
    (arrange waits l).1.idxOf b < (arrange waits l).1.idxOf a := by
  obtain ⟨l₁, l₂, he, ha₁⟩ := List.eq_append_cons_of_mem ha
  have hb₁ := mem_before_of_waits he hb hw
  rw [he, List.idxOf_append_of_mem hb₁, List.idxOf_append_of_notMem ha₁, List.idxOf_cons_self,
    Nat.add_zero]
  exact List.idxOf_lt_length_of_mem hb₁

/-- What is stuck waits for something stuck. -/
theorem exists_waits_of_stuck {l : List α} {a : α} (h : a ∈ (arrange waits l).2) :
    ∃ b ∈ (arrange waits l).2, waits a b = true := by
  induction l using arrange_induction waits with
  | stuck l hl =>
    rw [arrange_of_not_ready hl] at h ⊢
    simpa [isReady] using hl a h
  | step m₁ x m₂ hm hx ih =>
    rw [arrange_of_ready hm hx] at h ⊢
    exact ih h

theorem WaitsIn.mono {l l' : List α} (h : l ⊆ l') {a b : α} (hab : WaitsIn waits l a b) :
    WaitsIn waits l' a b :=
  ⟨h hab.1, h hab.2.1, hab.2.2⟩

theorem Acyclic.mono {l l' : List α} (h : l ⊆ l') (hl : Acyclic waits l') : Acyclic waits l :=
  fun a ha => hl a (Relation.TransGen.mono (fun _ _ hab => WaitsIn.mono h hab) a a ha)

/-- Without a cycle some item of a nonempty list waits for no other item of it. -/
theorem Acyclic.exists_free {l : List α} (hl : Acyclic waits l) (hne : l ≠ []) :
    ∃ a ∈ l, ∀ b ∈ l, waits a b = false := by
  let r : {a // a ∈ l} → {a // a ∈ l} → Prop :=
    fun a b => Relation.TransGen (WaitsIn waits l) b.1 a.1
  have : Finite {a // a ∈ l} := (List.finite_toSet l).to_subtype
  have : IsTrans {a // a ∈ l} r := ⟨fun _ _ _ hab hbc => Relation.TransGen.trans hbc hab⟩
  have : Std.Irrefl r := ⟨fun a h => hl a.1 h⟩
  have hWF : WellFounded r := Finite.wellFounded_of_trans_of_irrefl r
  obtain ⟨x, hx⟩ := List.exists_mem_of_ne_nil l hne
  obtain ⟨a, -, ha⟩ := hWF.has_min Set.univ ⟨⟨x, hx⟩, trivial⟩
  refine ⟨a.1, a.2, fun b hb => ?_⟩
  by_contra hw
  exact ha ⟨b, hb⟩ trivial (.single ⟨a.2, hb, by simpa using hw⟩)

/-- A rank that goes down along every edge leaves no cycle. -/
theorem not_transGen_self {γ : Type} [Preorder γ] {r : α → α → Prop} (f : α → γ)
    (h : ∀ a b, r a b → f b < f a) (a : α) : ¬ Relation.TransGen r a a := by
  intro ha
  have hDown : ∀ b, Relation.TransGen r a b → f b < f a := by
    intro b hab
    induction hab with
    | single hab => exact h a _ hab
    | tail _ hbc ih => exact lt_trans (h _ _ hbc) ih
  exact lt_irrefl _ (hDown a ha)

/-- **Nothing gets stuck exactly when no chain of waiting items closes.** -/
theorem arrange_stuck_eq_nil_iff [DecidableEq α] {l : List α} :
    (arrange waits l).2 = [] ↔ Acyclic waits l := by
  constructor
  · intro h
    have hPlaced : ∀ a ∈ l, a ∈ (arrange waits l).1 := by
      intro a ha
      have := (mem_arrange waits).mp ha
      rw [h] at this
      simpa using this
    -- along a chain the place in the arrangement goes down
    exact not_transGen_self (fun a => (arrange waits l).1.idxOf a) fun a b ⟨ha, hb, hw⟩ =>
      idxOf_lt_of_waits (hPlaced a ha) hb hw
  · intro hl
    by_contra hne
    have hSub : (arrange waits l).2 ⊆ l := fun a ha => (mem_arrange waits).mpr (Or.inr ha)
    obtain ⟨a, ha, hFree⟩ := (hl.mono hSub).exists_free hne
    obtain ⟨b, hb, hw⟩ := exists_waits_of_stuck ha
    rw [hFree b hb] at hw
    exact absurd hw (by simp)

/-! ## Only the relation matters -/

theorem isReady_map {waits' : β → β → Bool} {f : α → β} {l : List α}
    (h : ∀ a ∈ l, ∀ b ∈ l, waits' (f a) (f b) = waits a b) {a : α} (ha : a ∈ l) :
    isReady waits' (l.map f) (f a) = isReady waits l a := by
  rw [Bool.eq_iff_iff, isReady_iff, isReady_iff]
  constructor
  · intro hf b hb
    rw [← h a ha b hb]
    exact hf (f b) (List.mem_map_of_mem hb)
  · intro hr c hc
    obtain ⟨b, hb, rfl⟩ := List.mem_map.mp hc
    rw [h a ha b hb]
    exact hr b hb

theorem arrange_map {waits' : β → β → Bool} (f : α → β) {l : List α}
    (h : ∀ a ∈ l, ∀ b ∈ l, waits' (f a) (f b) = waits a b) :
    arrange waits' (l.map f) = ((arrange waits l).1.map f, (arrange waits l).2.map f) := by
  induction l using arrange_induction waits with
  | stuck l hl =>
    have hl' : ∀ b ∈ l.map f, isReady waits' (l.map f) b = false := by
      intro b hb
      obtain ⟨a, ha, rfl⟩ := List.mem_map.mp hb
      rw [isReady_map h ha, hl a ha]
    rw [arrange_of_not_ready hl, arrange_of_not_ready hl']
    rfl
  | step l₁ a l₂ h₁ ha ih =>
    have hSub : l₁ ++ l₂ ⊆ l₁ ++ a :: l₂ :=
      ((List.Sublist.refl l₁).append (List.sublist_cons_self a l₂)).subset
    have h₁' : ∀ b ∈ l₁.map f, isReady waits' (l₁.map f ++ f a :: l₂.map f) b = false := by
      intro b hb
      obtain ⟨c, hc, rfl⟩ := List.mem_map.mp hb
      rw [← List.map_cons, ← List.map_append, isReady_map h (List.mem_append_left _ hc), h₁ c hc]
    have ha' : isReady waits' (l₁.map f ++ f a :: l₂.map f) (f a) = true := by
      rw [← List.map_cons, ← List.map_append, isReady_map h (by simp), ha]
    rw [List.map_append] at ih
    rw [List.map_append, List.map_cons, arrange_of_ready h₁' ha', arrange_of_ready h₁ ha,
      ih fun b hb c hc => h b (hSub hb) c (hSub hc)]
    rfl

end StoragePlan.Precedence

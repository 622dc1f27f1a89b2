import Mathlib.Data.Prod.Lex
import StoragePlan.Action.Requires
import StoragePlan.Proofs.Ancestry

/-!
# A rank for actions

The rules of `DeviceTree.requires` order actions by phase, by the device graph, by kind and by
partition number.  Where the devices have levels that rise along the graph (`Graded`), the rules all
agree with one rank, so that no chain of them closes.

The rank is a lexicographic quadruple.  Its first entry is the phase: destroys, growing resizes,
shrinking resizes, creates together with additions of members, removals of members.  The second one
is the level of the device, taken negatively where the work goes from the top down; an addition of a
member counts at the level of its container.  The third one separates the kinds of action on one
device, and the last one the partitions of one disk.

* `graded_depth`: on an acyclic tree the depth is such a level.
* `rank_lt_of_requires`: **an action has a higher rank than each action it requires**.
-/

namespace StoragePlan

theorem Action.not_isGrow_of_isShrink {a : Action} (h : a.isShrink = true) : a.isGrow = false := by
  unfold isShrink at h
  unfold isGrow
  rw [beq_iff_eq] at h
  rw [h]
  rfl

namespace DeviceTree

variable {t : DeviceTree} {level : ObjectId → ℕ} {a b : Action} {d x : ObjectId}

/-- A quadruple of the lexicographic order. -/
def place (phase depth step number : ℤ) : ℤ ×ₗ ℤ ×ₗ ℤ ×ₗ ℤ :=
  toLex (phase, toLex (depth, toLex (step, number)))

section

variable {p p' u u' v v' n n' : ℤ}

theorem place_lt_of_phase (h : p < p') : place p u v n < place p' u' v' n' :=
  Prod.Lex.toLex_lt_toLex.mpr (Or.inl h)

theorem place_lt_of_depth (h : u < u') : place p u v n < place p u' v' n' :=
  Prod.Lex.toLex_lt_toLex.mpr (Or.inr ⟨rfl, Prod.Lex.toLex_lt_toLex.mpr (Or.inl h)⟩)

theorem place_lt_of_step (h : v < v') : place p u v n < place p u v' n' :=
  Prod.Lex.toLex_lt_toLex.mpr (Or.inr ⟨rfl, Prod.Lex.toLex_lt_toLex.mpr
    (Or.inr ⟨rfl, Prod.Lex.toLex_lt_toLex.mpr (Or.inl h)⟩)⟩)

theorem place_lt_of_number (h : n < n') : place p u v n < place p u v n' :=
  Prod.Lex.toLex_lt_toLex.mpr (Or.inr ⟨rfl, Prod.Lex.toLex_lt_toLex.mpr
    (Or.inr ⟨rfl, Prod.Lex.toLex_lt_toLex.mpr (Or.inr ⟨rfl, h⟩)⟩)⟩)

end

/-- A level for each device: it rises along the graph, and the partitions of one disk share it. -/
structure Graded (t : DeviceTree) (level : ObjectId → ℕ) : Prop where
  rises : ∀ d x, t.dependsOn d x = true → level x < level d
  shared : ∀ d x, t.shareDisk d x = true → level d = level x

/-- On an acyclic tree the devices are graded by their depth. -/
theorem graded_depth (ht : t.Acyclic) (hOne : t.OneDisk) : t.Graded t.depth :=
  ⟨fun _ _ h => depth_lt_of_dependsOn ht h, fun _ _ h => depth_eq_of_shareDisk ht hOne h⟩

/-- The rank of an action in a plan. -/
def rank (t : DeviceTree) (level : ObjectId → ℕ) (a : Action) : ℤ ×ₗ ℤ ×ₗ ℤ ×ₗ ℤ :=
  match a.kind with
  | .destroyFormat => place 0 (-level a.device) 0 0
  | .destroyDevice => place 0 (-level a.device) 1 (-t.partitionNumberOf a.device)
  | .resizeDevice => if a.isGrow then place 1 (level a.device) 0 0
    else place 2 (-level a.device) 1 0
  | .resizeFormat => if a.isGrow then place 1 (level a.device) 1 0
    else place 2 (-level a.device) 0 0
  | .createDevice => place 3 (level a.device) 0 (t.partitionNumberOf a.device)
  | .createFormat => place 3 (level a.device) 1 0
  | .addMember => place 3 (level (a.container?.getD 0)) 1 0
  | .removeMember => place 4 0 0 0

/-- A member that an action adds is on a lower level than its container. -/
def AddsBelow (level : ObjectId → ℕ) (a : Action) : Prop :=
  ∀ container, a.operation = .addMember container → level a.device < level container

/-- A member that an action adds still belongs to what the container stands on. -/
def KeepsMember (t : DeviceTree) (a : Action) : Prop :=
  ∀ container, a.operation = .addMember container → t.dependsOn container a.device = true

instance (t : DeviceTree) (a : Action) : Decidable (t.KeepsMember a) :=
  match h : a.operation with
  | .addMember container =>
    decidable_of_iff (t.dependsOn container a.device = true)
      ⟨fun hd c hc => by rw [h] at hc; cases hc; exact hd, fun hk => hk container h⟩
  | .createDevice | .destroyDevice | .createFormat .. | .destroyFormat .. | .resizeDevice ..
  | .resizeFormat .. | .removeMember .. => isTrue fun c hc => by rw [h] at hc; cases hc

theorem exists_container_of_addMember (h : a.kind = .addMember) :
    ∃ container, a.operation = .addMember container ∧ a.container? = some container := by
  unfold Action.kind at h
  cases hOp : a.operation with
  | addMember container => exact ⟨container, rfl, by rw [Action.container?, hOp]; rfl⟩
  | _ => rw [hOp] at h; simp [Operation.kind] at h

section

variable (ht : t.Graded level)

include ht in
theorem cast_level_lt (h : t.dependsOn d x = true) : (level x : ℤ) < level d :=
  Int.ofNat_lt.mpr (ht.rises d x h)

include ht in
theorem level_eq_of_partitionAfter (h : t.partitionAfter d x = true) :
    level d = level x ∧ t.partitionNumberOf x < t.partitionNumberOf d := by
  rw [partitionAfter, Bool.and_eq_true, decide_eq_true_eq] at h
  exact ⟨ht.shared d x h.1, h.2⟩

/-! ## One kind of action at a time -/

include ht in
theorem rank_lt_of_destroyDevice (ha : a.kind = .destroyDevice) (h : t.requiresByKind a b = true) :
    t.rank level b < t.rank level a := by
  unfold requiresByKind at h
  cases hb : b.kind <;>
    simp only [ha, hb, Bool.or_eq_true, beq_iff_eq, Bool.false_eq_true] at h <;>
    simp only [rank, ha, hb]
  case destroyDevice =>
    rcases h with h | h
    · exact place_lt_of_depth (Int.neg_lt_neg (cast_level_lt ht h))
    · obtain ⟨hLevel, hNumber⟩ := level_eq_of_partitionAfter ht h
      rw [hLevel]
      exact place_lt_of_number (Int.neg_lt_neg hNumber)
  case destroyFormat =>
    rcases h with h | h
    · rw [h]
      exact place_lt_of_step Int.zero_lt_one
    · exact place_lt_of_depth (Int.neg_lt_neg (cast_level_lt ht h))

include ht in
theorem rank_lt_of_destroyFormat (ha : a.kind = .destroyFormat) (h : t.requiresByKind a b = true) :
    t.rank level b < t.rank level a := by
  unfold requiresByKind at h
  cases hb : b.kind <;> simp only [ha, hb, Bool.false_eq_true] at h <;> simp only [rank, ha, hb]
  case destroyDevice | destroyFormat =>
    exact place_lt_of_depth (Int.neg_lt_neg (cast_level_lt ht h))

include ht in
/-- Of two resizes that follow each other along the graph, the one that follows has the higher
rank. -/
theorem rank_lt_of_resizeFollows (ha : a.kind = .resizeDevice)
    (hb : b.kind = .resizeDevice ∨ b.kind = .resizeFormat) (h : t.resizeFollows a b = true) :
    t.rank level b < t.rank level a := by
  unfold resizeFollows at h
  simp only [Bool.or_eq_true, Bool.and_eq_true] at h
  rcases h with ⟨⟨hga, hgb⟩, h⟩ | ⟨⟨hsa, hsb⟩, h⟩
  · rcases hb with hb | hb <;> simp only [rank, ha, hb, hga, hgb, if_true] <;>
      exact place_lt_of_depth (cast_level_lt ht h)
  · have hga := Action.not_isGrow_of_isShrink hsa
    have hgb := Action.not_isGrow_of_isShrink hsb
    rcases hb with hb | hb <;> simp only [rank, ha, hb, hga, hgb, Bool.false_eq_true, if_false] <;>
      exact place_lt_of_depth (Int.neg_lt_neg (cast_level_lt ht h))

include ht in
theorem rank_lt_of_resizeDevice (ha : a.kind = .resizeDevice) (h : t.requiresByKind a b = true) :
    t.rank level b < t.rank level a := by
  unfold requiresByKind at h
  cases hb : b.kind <;>
    simp only [ha, hb, Bool.or_eq_true, Bool.and_eq_true, beq_iff_eq, Bool.false_eq_true] at h
  case resizeDevice => exact rank_lt_of_resizeFollows ht ha (Or.inl hb) h
  case resizeFormat =>
    rcases h with ⟨⟨hsa, hsb⟩, h⟩ | h
    · have hga := Action.not_isGrow_of_isShrink hsa
      have hgb := Action.not_isGrow_of_isShrink hsb
      simp only [rank, ha, hb, hga, hgb, Bool.false_eq_true, if_false, h]
      exact place_lt_of_step Int.zero_lt_one
    · exact rank_lt_of_resizeFollows ht ha (Or.inr hb) h

include ht in
theorem rank_lt_of_resizeFormat (ha : a.kind = .resizeFormat) (h : t.requiresByKind a b = true) :
    t.rank level b < t.rank level a := by
  unfold requiresByKind at h
  cases hb : b.kind <;>
    simp only [ha, hb, Bool.or_eq_true, Bool.and_eq_true, beq_iff_eq, Bool.false_eq_true] at h
  case resizeDevice =>
    obtain ⟨⟨hga, hgb⟩, h⟩ := h
    simp only [rank, ha, hb, hga, hgb, if_true]
    rcases h with h | h
    · rw [h]
      exact place_lt_of_step Int.zero_lt_one
    · exact place_lt_of_depth (cast_level_lt ht h)
  case resizeFormat =>
    obtain ⟨⟨hga, hgb⟩, h⟩ := h
    simp only [rank, ha, hb, hga, hgb, if_true]
    exact place_lt_of_depth (cast_level_lt ht h)

include ht in
theorem rank_lt_of_createDevice (ha : a.kind = .createDevice) (h : t.requiresByKind a b = true) :
    t.rank level b < t.rank level a := by
  unfold requiresByKind at h
  cases hb : b.kind <;> simp only [ha, hb, Bool.or_eq_true, Bool.false_eq_true] at h <;>
    simp only [rank, ha, hb]
  case createDevice =>
    rcases h with h | h
    · exact place_lt_of_depth (cast_level_lt ht h)
    · obtain ⟨hLevel, hNumber⟩ := level_eq_of_partitionAfter ht h
      rw [hLevel]
      exact place_lt_of_number hNumber
  case createFormat => exact place_lt_of_depth (cast_level_lt ht h)
  case addMember =>
    obtain ⟨container, _, hc⟩ := exists_container_of_addMember hb
    rw [hc, Option.any_some] at h
    rw [hc, Option.getD_some]
    exact place_lt_of_depth (cast_level_lt ht h)

include ht in
theorem rank_lt_of_createFormat (ha : a.kind = .createFormat) (h : t.requiresByKind a b = true) :
    t.rank level b < t.rank level a := by
  unfold requiresByKind at h
  cases hb : b.kind <;>
    simp only [ha, hb, Bool.or_eq_true, beq_iff_eq, Bool.false_eq_true] at h <;>
    simp only [rank, ha, hb]
  case createDevice =>
    rcases h with h | h
    · rw [h]
      exact place_lt_of_step Int.zero_lt_one
    · exact place_lt_of_depth (cast_level_lt ht h)
  case createFormat => exact place_lt_of_depth (cast_level_lt ht h)

/-- An addition counts at the level of its container, which is above the member. -/
theorem rank_lt_of_addMember (ha : a.kind = .addMember) (hBelow : AddsBelow level a)
    (h : t.requiresByKind a b = true) : t.rank level b < t.rank level a := by
  obtain ⟨container, hOp, hc⟩ := exists_container_of_addMember ha
  have hMember : (level a.device : ℤ) < level container := Int.ofNat_lt.mpr (hBelow container hOp)
  unfold requiresByKind at h
  cases hb : b.kind <;>
    simp only [ha, hb, hc, Bool.or_eq_true, beq_iff_eq, Option.some.injEq, Bool.false_eq_true]
      at h <;>
    simp only [rank, ha, hb, hc, Option.getD_some]
  case createDevice =>
    rcases h with h | h
    · rw [h]
      exact place_lt_of_depth hMember
    · rw [h]
      exact place_lt_of_step Int.zero_lt_one
  case createFormat =>
    rw [h]
    exact place_lt_of_depth hMember
  case resizeDevice | resizeFormat =>
    split <;> exact place_lt_of_phase (by omega)

theorem rank_lt_of_removeMember (ha : a.kind = .removeMember) (h : t.requiresByKind a b = true) :
    t.rank level b < t.rank level a := by
  unfold requiresByKind at h
  cases hb : b.kind <;> simp only [ha, hb, Bool.false_eq_true] at h
  simp only [rank, ha, hb]
  exact place_lt_of_phase (by omega)

/-- Creates come after every destroy and every resize, whatever the devices. -/
theorem rank_lt_of_create (ha : a.type = .create) (hb : b.type = .destroy ∨ b.type = .resize) :
    t.rank level b < t.rank level a := by
  unfold Action.type at ha hb
  cases hka : a.kind <;> rw [hka] at ha <;> simp only [ActionKind.type, reduceCtorEq] at ha <;>
    cases hkb : b.kind <;> rw [hkb] at hb <;>
    simp only [ActionKind.type, reduceCtorEq, or_self] at hb <;>
    simp only [rank, hka, hkb] <;> (try split) <;> exact place_lt_of_phase (by omega)

include ht in
/-- **An action has a higher rank than each action it requires.** -/
theorem rank_lt_of_requires (hBelow : AddsBelow level a) (h : t.requires a b = true) :
    t.rank level b < t.rank level a := by
  unfold requires at h
  simp only [Bool.and_eq_true, Bool.or_eq_true, beq_iff_eq] at h
  rcases h.2 with ⟨ha, hb⟩ | h
  · exact rank_lt_of_create ha hb
  · cases ha : a.kind with
    | createDevice => exact rank_lt_of_createDevice ht ha h
    | destroyDevice => exact rank_lt_of_destroyDevice ht ha h
    | createFormat => exact rank_lt_of_createFormat ht ha h
    | destroyFormat => exact rank_lt_of_destroyFormat ht ha h
    | resizeDevice => exact rank_lt_of_resizeDevice ht ha h
    | resizeFormat => exact rank_lt_of_resizeFormat ht ha h
    | addMember => exact rank_lt_of_addMember ha hBelow h
    | removeMember => exact rank_lt_of_removeMember ha h

end

end DeviceTree

end StoragePlan

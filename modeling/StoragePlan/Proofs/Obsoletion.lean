import StoragePlan.Proofs.Survival
import Mathlib.Data.Set.Function

/-!
# Obsoletion among distinct actions

An action that creates, destroys or resizes is made unnecessary only by a newer one, so no two such
actions make each other unnecessary (`id_lt_of_obsoletes`).  Membership actions go by the member and
not by age: an addition and a removal of one member cancel out, whichever came first.

* `obsoletes_membership_iff`: which membership action makes which unnecessary.
* `mutual_iff_cancels`: only an addition and a removal of one member make each other unnecessary.
* `obsoletion_order`: **among the other actions obsoletion is transitive and goes from newer to
  older ones**.
-/

namespace StoragePlan

variable {a b : Action}

namespace Action

/-- One action adds a member to a container and the other one takes it out. -/
def Cancels (a b : Action) : Prop :=
  (a.kind = .addMember ∧ b.kind = .removeMember ∨ a.kind = .removeMember ∧ b.kind = .addMember) ∧
    a.device = b.device ∧ a.container? = b.container?

/-- An action creates, destroys or resizes, be it a device or a format. -/
def IsWork (a : Action) : Prop := a.type = .create ∨ a.type = .destroy ∨ a.type = .resize

theorem IsWork.object (h : a.IsWork) : a.object ≠ .container := by
  unfold IsWork Action.type at h
  unfold Action.object
  cases hKind : a.kind <;> simp [hKind, ActionKind.type, ActionKind.object] at h ⊢

theorem kind_of_container (h : a.object = .container) :
    a.kind = .addMember ∨ a.kind = .removeMember := by
  unfold Action.object at h
  cases hKind : a.kind <;> simp [hKind, ActionKind.object] at h ⊢

end Action

namespace DeviceTree

variable {t : DeviceTree}

/-- An action without the id of another one makes it unnecessary only by being newer. -/
theorem id_lt_of_obsoletes (hb : b.object ≠ .container) (hIds : a.id ≠ b.id)
    (h : t.obsoletes a b = true) : b.id < a.id :=
  (UInt64.le_iff_lt_or_eq.mp (id_le_of_obsoletes hb h)).resolve_right hIds.symm

/-- Of the membership actions on one member, an addition and a removal make each other unnecessary,
and what is done again is made unnecessary by the first time. -/
theorem obsoletes_membership_iff (ha : a.object = .container) (hb : b.object = .container) :
    t.obsoletes a b = true ↔
      (a.device = b.device ∧ a.container? = b.container?) ∧ (a.kind ≠ b.kind ∨ a.id < b.id) := by
  rcases Action.kind_of_container ha with ha | ha <;>
    rcases Action.kind_of_container hb with hb | hb <;>
    simp [obsoletes, ha, hb, Action.sameMembership]

/-- Only an addition and a removal of one member make each other unnecessary. -/
theorem mutual_iff_cancels (hIds : a.id ≠ b.id) :
    (t.obsoletes a b = true ∧ t.obsoletes b a = true) ↔ a.Cancels b := by
  constructor
  · rintro ⟨hab, hba⟩
    -- Work on a device is not older than what makes it unnecessary, so both are on members.
    have hb : b.object = .container := by
      by_contra hb
      have ha := object_of_obsoletes hb hab
      exact UInt64.lt_asymm (id_lt_of_obsoletes hb hIds hab) (id_lt_of_obsoletes ha hIds.symm hba)
    have ha : a.object = .container := by
      by_contra ha
      exact object_of_obsoletes ha hba hb
    obtain ⟨hSame, hOrder⟩ := (obsoletes_membership_iff ha hb).mp hab
    obtain ⟨_, hOrder'⟩ := (obsoletes_membership_iff hb ha).mp hba
    have hKinds : a.kind ≠ b.kind := by
      intro hKinds
      exact UInt64.lt_asymm (hOrder.resolve_left (absurd hKinds))
        (hOrder'.resolve_left (absurd hKinds.symm))
    refine ⟨?_, hSame⟩
    rcases Action.kind_of_container ha with ha | ha <;>
      rcases Action.kind_of_container hb with hb | hb
    · exact absurd (ha.trans hb.symm) hKinds
    · exact Or.inl ⟨ha, hb⟩
    · exact Or.inr ⟨ha, hb⟩
    · exact absurd (ha.trans hb.symm) hKinds
  · rintro ⟨⟨ha, hb⟩ | ⟨ha, hb⟩, hDevice, hContainer⟩ <;>
      simp [obsoletes, ha, hb, Action.sameMembership, hDevice, hContainer]

/-- **Obsoletion has no cycles besides an addition and a removal of one member.**  Among actions
with ids of their own these pairs are the only ones that make each other unnecessary; among
creations, destructions and resizes obsoletion is transitive and goes from newer to older
actions. -/
theorem obsoletion_order (t : DeviceTree) (actions : Set Action)
    (hIds : actions.InjOn Action.id) :
    (∀ a ∈ actions, ∀ b ∈ actions, a ≠ b →
      ((t.obsoletes a b = true ∧ t.obsoletes b a = true) ↔ a.Cancels b)) ∧
    (∀ a ∈ actions, ∀ b ∈ actions, ∀ c ∈ actions, a.IsWork → b.IsWork → c.IsWork →
      t.obsoletes a b = true → t.obsoletes b c = true → t.obsoletes a c = true) ∧
    ∀ a ∈ actions, ∀ b ∈ actions, a.IsWork → b.IsWork → a ≠ b → t.obsoletes a b = true →
      b.id < a.id := by
  refine ⟨?_, ?_, ?_⟩
  · intro a ha b hb hne
    exact mutual_iff_cancels fun hEq => hne (hIds ha hb hEq)
  · intro a _ b _ c _ _ _ hc hab hbc
    exact obsoletes_trans hc.object hab hbc
  · intro a ha b hb _ hWork hne h
    exact id_lt_of_obsoletes hWork.object (fun hEq => hne (hIds ha hb hEq)) h

/-- A proposed partition is created, put into a group and taken out again, formatted twice and
destroyed. -/
theorem obsoletion_of_discarded_member :
    let t := (({} : Session).performAll [
      .newDevice { name := "sda", kind := .disk },
      .newDevice { name := "sda1", kind := .partition, parents := [2] }]).tree
    let add : Action := { id := 5, displayId := "A-000001", device := 4, operation := .addMember 9 }
    let take : Action :=
      { id := 6, displayId := "A-000002", device := 4, operation := .removeMember 9 0 }
    let first : Action :=
      { id := 7, displayId := "A-000003", device := 4, operation := .createFormat 10 3 }
    let second : Action :=
      { id := 8, displayId := "A-000004", device := 4, operation := .createFormat 11 10 }
    let destroy : Action :=
      { id := 12, displayId := "A-000005", device := 4, operation := .destroyDevice }
    let actions : Set Action := {x | x ∈ [add, take, first, second, destroy]}
    actions.InjOn Action.id ∧
    (t.obsoletes add take = true ∧ t.obsoletes take add = true) ∧
    (t.obsoletes destroy second = true ∧ t.obsoletes second first = true ∧
      t.obsoletes destroy first = true) ∧
    second.id < destroy.id := by
  intro t add take first second destroy actions
  have hDistinct : ∀ x ∈ [add, take, first, second, destroy],
      ∀ y ∈ [add, take, first, second, destroy], x.id = y.id → x = y := by decide +kernel
  have hIds : actions.InjOn Action.id := fun x hx y hy => hDistinct x hx y hy
  have hMem : add ∈ actions ∧ take ∈ actions ∧ first ∈ actions ∧ second ∈ actions ∧
      destroy ∈ actions := by simp [actions]
  obtain ⟨hAdd, hTake, hFirst, hSecond, hDestroy⟩ := hMem
  have hLater : t.obsoletes destroy second = true := by decide +kernel
  have hEarlier : t.obsoletes second first = true := by decide +kernel
  obtain ⟨hMutual, hTrans, hNewer⟩ := obsoletion_order t actions hIds
  refine ⟨hIds, (hMutual add hAdd take hTake (by decide)).mpr ⟨Or.inl ⟨rfl, rfl⟩, rfl, rfl⟩,
    ⟨hLater, hEarlier, ?_⟩, ?_⟩
  · exact hTrans destroy hDestroy second hSecond first hFirst (Or.inr (Or.inl rfl)) (Or.inl rfl)
      (Or.inl rfl) hLater hEarlier
  · exact hNewer destroy hDestroy second hSecond (Or.inr (Or.inl rfl)) (Or.inl rfl) (by decide)
      hLater

end DeviceTree

end StoragePlan

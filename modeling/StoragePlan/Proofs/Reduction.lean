import StoragePlan.Proofs.Composing
import StoragePlan.Proofs.Phases

/-!
# Reducing a container and destroying its member

No rule makes the destruction of a device wait for its removal from a container, or the removal for
the destruction.  Which one comes first in a sorted plan depends on what each of them has to wait
for: an action is taken as soon as all of that is taken, so the one comes first whose last
requirement was registered first.

* `precedes_of_closure`: an action comes first if all that it waits for, itself included, was
  registered before something that the other one waits for.
* `exists_later_of_precedes`: what comes first was registered before something that only the other
  one waits for.
* `removal_precedes_iff`: for a removal and a destruction **the converse holds too**, because what
  they wait for has nothing in common, unless the removal waits for a creation and so for every
  destruction.
* `reduced_before_destroyed_iff`: the two actions in a plan that was scheduled on populated devices.
-/

namespace StoragePlan

open Relation

namespace Precedence

variable {α : Type} {l l₁ l₂ : List α} {a b : α}

/-- The last place of a list where something holds. -/
theorem exists_last {p : α → Prop} [DecidablePred p] (h : ∃ a ∈ l, p a) :
    ∃ l₁ a l₂, l = l₁ ++ a :: l₂ ∧ p a ∧ ∀ b ∈ l₂, ¬ p b := by
  obtain ⟨l₁, a, l₂, hReverse, ha, hNone⟩ :=
    exists_first (l := l.reverse) (p := p) (by simpa using h)
  refine ⟨l₂.reverse, a, l₁.reverse, ?_, ha, fun b hb => hNone b (List.mem_reverse.mp hb)⟩
  rw [← List.reverse_reverse l, hReverse]
  simp

/-- What stands behind an item of the rest of a list is in the rest, too. -/
theorem Precedes.mem_right (hl : (l₁ ++ l₂).Nodup) (h : Precedes (l₁ ++ l₂) a b) (ha : a ∈ l₂) :
    b ∈ l₂ := by
  rcases List.mem_append.mp h.mem.2 with hb | hb
  · exact absurd (precedes_append hb ha) (h.asymm hl)
  · exact hb

end Precedence

namespace DeviceTree

variable {t : DeviceTree} {a b : Action}

/-- A removal waits for additions only. -/
theorem type_of_requires_remove (ha : a.type = .remove) (h : t.requires a b = true) :
    b.type = .add := by
  unfold requires requiresByKind at h
  unfold Action.type at *
  cases hka : a.kind <;> simp only [hka, ActionKind.type, reduceCtorEq] at ha
  cases hkb : b.kind <;> simp_all [ActionKind.type]

/-- An addition waits for creates and resizes only. -/
theorem type_of_requires_add (ha : a.type = .add) (h : t.requires a b = true) :
    b.type = .create ∨ b.type = .resize := by
  unfold requires requiresByKind at h
  unfold Action.type at *
  cases hka : a.kind <;> simp only [hka, ActionKind.type, reduceCtorEq] at ha
  cases hkb : b.kind <;> simp_all [ActionKind.type]

end DeviceTree

namespace Session

open Precedence

variable {s : Session} {a b x y : ObjectId}

/-! ## What has to be taken before an action -/

theorem mem_of_waitsOn (ha : a ∈ s.registry) (h : ReflTransGen s.WaitsOn a x) :
    x ∈ s.registry := by
  induction h with
  | refl => exact ha
  | tail _ hWaits _ => exact hWaits.2.1

section

variable (hs : s.Listed) (h : s.sort.1.ok = true)

include hs h

/-- What an action waits for, directly or through others, is taken before it. -/
theorem mem_of_closure {l₁ l₂ : List ObjectId} (hValue : s.sort.1.value = l₁ ++ a :: l₂)
    (hx : ReflTransGen s.WaitsOn a x) : x = a ∨ x ∈ l₁ := by
  induction hx using ReflTransGen.head_induction_on generalizing l₁ l₂ with
  | refl => exact Or.inl rfl
  | head hWaits _ ih =>
    obtain ⟨_, hb, _, hReq⟩ := hWaits
    obtain ⟨k₁, k₂, rfl⟩ := List.mem_iff_append.mp (mem_of_requires hs h hValue hb hReq)
    rw [List.append_assoc, List.cons_append] at hValue
    refine Or.inr ?_
    rcases ih hValue with rfl | hx
    · exact List.mem_append_right _ List.mem_cons_self
    · exact List.mem_append_left _ hx

theorem precedes_of_waits (hab : Precedes s.sort.1.value a b)
    (hx : ReflTransGen s.WaitsOn a x) : Precedes s.sort.1.value x b := by
  obtain ⟨l₁, l₂, hValue, hb⟩ := hab.exists_append
  rcases mem_of_closure hs h hValue hx with rfl | hx
  · exact hab
  · rw [hValue]
    exact precedes_append hx (List.mem_cons_of_mem a hb)

theorem not_waits_of_precedes (hab : Precedes s.sort.1.value a b) :
    ¬ ReflTransGen s.WaitsOn a b := by
  intro hWaits
  exact (precedes_of_waits hs h hab hWaits).ne ((sort_perm hs h).nodup_iff.mpr hs.nodup) rfl

/-- An action is taken before another one if all that it waits for, itself included, was registered
before something that the other one waits for. -/
theorem precedes_of_closure (ha : a ∈ s.registry) (hb : b ∈ s.registry) (hne : a ≠ b)
    (hBefore : ∀ x, ReflTransGen s.WaitsOn a x →
      ∃ y, ReflTransGen s.WaitsOn b y ∧ Precedes s.registry x y) :
    Precedes s.sort.1.value a b := by
  classical
  have hMem : ∀ {id}, id ∈ s.sort.1.value ↔ id ∈ s.registry := (sort_perm hs h).mem_iff
  rcases precedes_or_precedes (hMem.mpr ha) (hMem.mpr hb) hne with hab | hba
  · exact hab
  exfalso
  -- `m` is the last one registered of what `b` waits for
  obtain ⟨r₁, m, r₂, hRegistry, hm, hLast⟩ := exists_last (l := s.registry)
    (p := fun y => ReflTransGen s.WaitsOn b y) ⟨b, hb, .refl⟩
  have hNodup := hs.nodup
  have hLater : ∀ {x}, ReflTransGen s.WaitsOn a x → ¬ Precedes s.registry m x ∧ x ≠ m := by
    intro x hx
    obtain ⟨y, hy, hxy⟩ := hBefore x hx
    have hRest : ∀ {z}, Precedes s.registry m z → z ∈ r₂ := by
      intro z hz
      have hne := (hz.ne hNodup).symm
      rw [hRegistry] at hz hNodup
      exact (List.mem_cons.mp (hz.mem_right hNodup List.mem_cons_self)).resolve_left hne
    refine ⟨fun hmx => ?_, ?_⟩
    · have hx₂ := hRest hmx
      rw [hRegistry, List.append_cons] at hxy hNodup
      exact hLast y (hxy.mem_right hNodup hx₂) hy
    · rintro rfl
      exact hLast y (hRest hxy) hy
  -- it is taken before `a`, since `b` is
  obtain ⟨k₁, k₂, hValue, hak⟩ : ∃ k₁ k₂, s.sort.1.value = k₁ ++ m :: k₂ ∧ a ∈ k₂ := by
    obtain ⟨l₁, l₂, hValue, hal⟩ := hba.exists_append
    rcases mem_of_closure hs h hValue hm with rfl | hml
    · exact ⟨l₁, l₂, hValue, hal⟩
    · obtain ⟨k₁, k₂, rfl⟩ := List.mem_iff_append.mp hml
      refine ⟨k₁, k₂ ++ b :: l₂, by rw [hValue, List.append_assoc]; rfl, ?_⟩
      exact List.mem_append_right _ (List.mem_cons_of_mem b hal)
  -- the first one behind it of what `a` waits for could have been taken instead
  obtain ⟨m₁, x, m₂, hk₂, hx, hFirst⟩ := exists_first (l := k₂)
    (p := fun x => ReflTransGen s.WaitsOn a x) ⟨a, hak, .refl⟩
  refine (hLater hx).1 (sort_first hs h hValue (by simp [hk₂]) fun c hc hReq => ?_)
  have hac := hx.tail (waitsOn_iff.mpr ⟨mem_of_waitsOn ha hx, hc, hReq⟩)
  have hValue' : s.sort.1.value = (k₁ ++ m :: m₁) ++ x :: m₂ := by
    rw [hValue, hk₂]
    simp
  rcases List.mem_append.mp (mem_of_requires hs h hValue' hc hReq) with hck | hck
  · exact hck
  · rcases List.mem_cons.mp hck with rfl | hcm
    · exact absurd rfl (hLater hac).2
    · exact absurd hac (hFirst c hcm)

/-- An action that is taken before another one was registered before something that only the other
one waits for. -/
theorem exists_later_of_precedes (ha : a ∈ s.registry) (hab : Precedes s.sort.1.value a b)
    (hFree : ¬ ReflTransGen s.WaitsOn b a) :
    ∃ y, ReflTransGen s.WaitsOn b y ∧ ¬ ReflTransGen s.WaitsOn a y ∧ Precedes s.registry a y := by
  classical
  obtain ⟨l₁, l₂, hValue, hb⟩ := hab.exists_append
  -- the first one behind `a` of what `b` waits for could have been taken instead
  obtain ⟨m₁, y, m₂, hl₂, hy, hFirst⟩ := exists_first (l := l₂)
    (p := fun y => ReflTransGen s.WaitsOn b y) ⟨b, hb, .refl⟩
  have hValue' : s.sort.1.value = (l₁ ++ a :: m₁) ++ y :: m₂ := by
    rw [hValue, hl₂]
    simp
  have hay : Precedes s.sort.1.value a y := by
    rw [hValue']
    exact precedes_append (by simp) List.mem_cons_self
  refine ⟨y, hy, not_waits_of_precedes hs h hay,
    sort_first hs h hValue (by simp [hl₂]) fun c hc hReq => ?_⟩
  have hyr : y ∈ s.registry := (sort_perm hs h).mem_iff.mp hay.mem.2
  have hbc := hy.tail (waitsOn_iff.mpr ⟨hyr, hc, hReq⟩)
  rcases List.mem_append.mp (mem_of_requires hs h hValue' hc hReq) with hc₁ | hc₁
  · exact hc₁
  · rcases List.mem_cons.mp hc₁ with rfl | hcm
    · exact absurd hbc hFree
    · exact absurd hbc (hFirst c hcm)

end

/-! ## Removals and destructions -/

theorem typeOf?_of_waitsOn_destroy (ha : s.typeOf? a = some .destroy)
    (hx : ReflTransGen s.WaitsOn a x) : s.typeOf? x = some .destroy := by
  induction hx with
  | refl => exact ha
  | tail _ hWaits ih => exact typeOf?_of_requires ih (Or.inl rfl) hWaits.2.2.2

/-- A removal waits for no destruction, unless it waits for a creation. -/
theorem typeOf?_of_waitsOn_remove (ha : s.typeOf? a = some .remove)
    (hx : ReflTransGen s.WaitsOn a x) :
    (∃ z ∈ s.registry, ReflTransGen s.WaitsOn a z ∧ s.typeOf? z = some .create) ∨
    s.typeOf? x = some .remove ∨ s.typeOf? x = some .add ∨ s.typeOf? x = some .resize := by
  induction hx with
  | refl => exact Or.inr (Or.inl ha)
  | @tail b c hab hWaits ih =>
    obtain ⟨u, v, hu, hv, hReq⟩ := exists_of_requires hWaits.2.2.2
    have hNext : ∀ {type}, v.type = type → s.typeOf? c = some type :=
      fun hType => typeOf?_eq_some.mpr ⟨v, hv, hType⟩
    have hThis : ∀ {type}, s.typeOf? b = some type → u.type = type := by
      intro type hType
      obtain ⟨u', hu', hType⟩ := typeOf?_eq_some.mp hType
      exact Option.some.inj (hu ▸ hu') ▸ hType
    rcases ih with hCreate | hRemove | hAdd | hResize
    · exact Or.inl hCreate
    · exact Or.inr (Or.inr (Or.inl
        (hNext (DeviceTree.type_of_requires_remove (hThis hRemove) hReq))))
    · rcases DeviceTree.type_of_requires_add (hThis hAdd) hReq with hCreate | hResize
      · exact Or.inl ⟨_, hWaits.2.1, hab.tail hWaits, hNext hCreate⟩
      · exact Or.inr (Or.inr (Or.inr (hNext hResize)))
    · exact Or.inr (Or.inr (Or.inr (typeOf?_of_requires hResize (Or.inr rfl) hWaits.2.2.2)))

/-- **A removal comes before a destruction exactly when all that it waits for, itself included, was
registered before something that the destruction waits for.** -/
theorem removal_precedes_iff (hs : s.Listed) (h : s.sort.1.ok = true) (ha : a ∈ s.registry)
    (hb : b ∈ s.registry) (hRemove : s.typeOf? a = some .remove)
    (hDestroy : s.typeOf? b = some .destroy) :
    Precedes s.sort.1.value a b ↔ ∀ x, ReflTransGen s.WaitsOn a x →
      ∃ y, ReflTransGen s.WaitsOn b y ∧ Precedes s.registry x y := by
  have hne : a ≠ b := by
    rintro rfl
    rw [hRemove] at hDestroy
    cases hDestroy
  refine ⟨fun hab x hx => ?_, precedes_of_closure hs h ha hb hne⟩
  have hApart : ¬ ReflTransGen s.WaitsOn b x := by
    intro hbx
    have hType := typeOf?_of_waitsOn_destroy hDestroy hbx
    rcases typeOf?_of_waitsOn_remove hRemove hx with ⟨z, hz, haz, hCreate⟩ | hOther
    · -- a creation waits for every destruction
      exact not_waits_of_precedes hs h hab
        (haz.tail (waitsOn_of_create hb hz (Or.inl hDestroy) hCreate))
    · rw [hType] at hOther
      simp at hOther
  obtain ⟨y, hy, _, hxy⟩ := exists_later_of_precedes hs h (mem_of_waitsOn ha hx)
    (precedes_of_waits hs h hab hx) hApart
  exact ⟨y, hy, hxy⟩

/-! ## Plans that were scheduled on populated devices -/

/-- The removals of a device stand before its destructions in the registry. -/
def RemovedFirst (m : ObjectId) (s : Session) : Prop :=
  ∀ r ∈ s.plan, ∀ d ∈ s.plan, r.kind = .removeMember → d.kind = .destroyDevice → r.device = m →
    d.device = m → Precedes s.registry r.id d.id

/-- A device that was there from the start is gone once its destruction is registered, and then it
cannot be removed from a container any more. -/
theorem Underway.removedFirst {populated : List ObjectId} (h : Underway populated s) {m : ObjectId}
    (hm : m ∈ populated) (hFirst : RemovedFirst m s) {command : Command}
    (hComposes : command.composes = true) : RemovedFirst m (s.perform command).2 := by
  cases h.composed hComposes with
  | quiet hPlan hRegistry hGrows =>
    unfold RemovedFirst
    rw [hPlan, hRegistry]
    exact hFirst
  | added p changes hPrepares hApply hPlan hRegistry hNewest =>
    have hOld : ∀ {b}, b ∈ s.plan → b.id ∈ s.registry := fun hb => (mem_plan_iff.mp hb).1
    have hRecords := carryOut_records (s := s) hPrepares
    intro r hr d hd hRemove hDestroy hrm hdm
    rw [hPlan] at hr hd
    rw [hRegistry]
    rcases List.mem_append.mp hr with hr | hr <;> rcases List.mem_append.mp hd with hd | hd
    · exact (hFirst r hr d hd hRemove hDestroy hrm hdm).trans (List.sublist_append_left _ _)
    · rw [List.mem_singleton.mp hd]
      exact precedes_append (hOld hr) (List.mem_singleton_self _)
    · -- the member is present, so its destruction is not registered
      obtain rfl := List.mem_singleton.mp hr
      have hPresent : (s.actionOf p).device ∈ s.tree.order := by
        refine (h.linked.tree.inStep.contains_iff _).mp ((hRecords.contains _).symm.trans ?_)
        refine DeviceTree.present_of_applyRegistration hApply ?_
        rw [show (s.actionOf p).kind = .removeMember from hRemove]
        simp
      refine absurd ?_ (h.not_mem_destroyed (hrm ▸ hm) hPresent)
      refine List.mem_map.mpr ⟨d, List.mem_filter.mpr ⟨hd, beq_iff_eq.mpr hDestroy⟩, ?_⟩
      exact hdm.trans hrm.symm
    · rw [List.mem_singleton.mp hr] at hRemove
      rw [List.mem_singleton.mp hd, hRemove] at hDestroy
      cases hDestroy

/-- **When a container is reduced before its member is destroyed.**  Actions are scheduled on a tree
that was populated, and devices and formats are made for them.  If the plan can be sorted, a
registered removal comes before a registered destruction of the same device exactly when each
action that the removal waits for, itself included, was registered before an action that the
destruction waits for, or before the destruction itself.  For a device that was present at the start
the removal itself always was. -/
theorem reduced_before_destroyed_iff (populating planning : List Command)
    (hPopulates : ∀ command ∈ populating, command.populates = true)
    (hComposes : ∀ command ∈ planning, command.composes = true) :
    let start := ({} : Session).performAll populating
    let s := start.performAll planning
    s.sort.1.ok = true → ∀ r ∈ s.plan, ∀ d ∈ s.plan,
      r.kind = .removeMember → d.kind = .destroyDevice → d.device = r.device →
      (Precedes s.sort.1.value r.id d.id ↔ ∀ x, ReflTransGen s.WaitsOn r.id x →
        ∃ y, ReflTransGen s.WaitsOn d.id y ∧ Precedes s.registry x y) ∧
      (r.device ∈ start.tree.order → Precedes s.registry r.id d.id) := by
  intro start s hOk r hr d hd hRemove hDestroy hSame
  obtain ⟨hEmpty, hStart⟩ := underway_of_populated hPopulates
  have hRun := along_of_forall hComposes start
  have hUnderway : Underway start.tree.order s :=
    hRun.performAll (fun _ _ hCommand h => h.perform hCommand) hStart
  obtain ⟨hrId, hrFind⟩ := mem_plan_iff.mp hr
  obtain ⟨hdId, hdFind⟩ := mem_plan_iff.mp hd
  refine ⟨removal_precedes_iff hUnderway.listed hOk hrId hdId (typeOf?_of hrFind hRemove)
    (typeOf?_of hdFind hDestroy), fun hThere => ?_⟩
  have hFirst : RemovedFirst r.device start := by
    intro r hr
    rw [hEmpty] at hr
    cases hr
  have hBoth := hRun.performAll
    (I := fun s => Underway start.tree.order s ∧ RemovedFirst r.device s)
    (fun _ _ hCommand h => ⟨h.1.perform hCommand, h.1.removedFirst hThere h.2 hCommand⟩)
    ⟨hStart, hFirst⟩
  exact hBoth.2 r hr d hd hRemove hDestroy rfl hSame

/-- A volume group takes in a partition before another one is taken out of it and destroyed. -/
theorem reduced_before_destroyed_of_extended_group :
    let populating : List Command := [
      .adoptDevice { name := "sda", kind := .disk } "" "",
      .adoptDevice { name := "sda1", kind := .partition, parents := [2] } "lvmpv" "",
      .adoptDevice { name := "sda2", kind := .partition, parents := [2] } "lvmpv" "",
      .adoptDevice { name := "sda3", kind := .partition, parents := [2] } "lvmpv" "",
      .adoptDevice { name := "vg", kind := .volumeGroup, parents := [4, 7] } "" ""]
    let planning : List Command := [.schedule (.addMember 13 10), .schedule (.removeMember 13 7),
      .schedule (.removeMember 13 4), .schedule (.destroyDevice 7)]
    let start := ({} : Session).performAll populating
    let s := start.performAll planning
    ((∀ command ∈ populating, command.populates = true) ∧
      (∀ command ∈ planning, command.composes = true) ∧
      s.sort.1.ok = true ∧ s.sort.1.value = [14, 15, 16, 17] ∧ start.tree.contains 7 = true) ∧
    ∀ r ∈ s.plan, ∀ d ∈ s.plan,
      r.kind = .removeMember → d.kind = .destroyDevice → d.device = r.device →
      (Precedes s.sort.1.value r.id d.id ↔ ∀ x, ReflTransGen s.WaitsOn r.id x →
        ∃ y, ReflTransGen s.WaitsOn d.id y ∧ Precedes s.registry x y) ∧
      (r.device ∈ start.tree.order → Precedes s.registry r.id d.id) := by
  intro populating planning start s
  have hPopulates : ∀ command ∈ populating, command.populates = true := by decide
  have hComposes : ∀ command ∈ planning, command.composes = true := by decide
  have hOk : s.sort.1.ok = true := by decide +kernel
  exact ⟨⟨hPopulates, hComposes, hOk, by decide +kernel, by decide +kernel⟩,
    reduced_before_destroyed_iff populating planning hPopulates hComposes hOk⟩

/-- A partition is taken out of a volume group and destroyed before another one is added, and a
partition is replaced by a new one.  Both times the destruction comes before the removal. -/
theorem not_reduced_before_destroyed_of_added_later :
    let extended := ({} : Session).performAll [
      .adoptDevice { name := "sda", kind := .disk } "" "",
      .adoptDevice { name := "sda1", kind := .partition, parents := [2] } "lvmpv" "",
      .adoptDevice { name := "sda2", kind := .partition, parents := [2] } "lvmpv" "",
      .adoptDevice { name := "sda3", kind := .partition, parents := [2] } "lvmpv" "",
      .adoptDevice { name := "vg", kind := .volumeGroup, parents := [4, 7] } "" "",
      .schedule (.removeMember 13 4), .schedule (.destroyDevice 4), .schedule (.addMember 13 10)]
    let replaced := ({} : Session).performAll [
      .adoptDevice { name := "sda", kind := .disk } "" "",
      .adoptDevice { name := "sda1", kind := .partition, parents := [2] } "lvmpv" "",
      .adoptDevice { name := "vg", kind := .volumeGroup, parents := [4] } "" "",
      .newDevice { name := "sda2", kind := .partition, parents := [2] },
      .schedule (.createDevice 9), .schedule (.addMember 7 9), .schedule (.removeMember 7 4),
      .schedule (.destroyDevice 4)]
    (extended.plan.map (fun a => (a.kind, a.device))
        = [(.removeMember, 4), (.destroyDevice, 4), (.addMember, 10)] ∧
      extended.registry = [14, 15, 16] ∧ extended.sort.1.ok = true ∧
      extended.sort.1.value = [15, 16, 14] ∧ ¬ Precedes extended.sort.1.value 14 15) ∧
    (replaced.plan.map (fun a => (a.kind, a.device))
        = [(.createDevice, 9), (.addMember, 9), (.removeMember, 4), (.destroyDevice, 4)] ∧
      replaced.registry = [10, 11, 12, 13] ∧ replaced.sort.1.ok = true ∧
      replaced.sort.1.value = [13, 10, 11, 12] ∧ ¬ Precedes replaced.sort.1.value 12 13) := by
  decide +kernel

end Session

end StoragePlan

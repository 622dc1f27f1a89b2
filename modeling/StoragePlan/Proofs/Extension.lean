import StoragePlan.Proofs.Reduction

/-!
# Extending a container and growing what lies on it

A logical volume may be made larger than the members of its group allow now, if the plan adds
members to the group.  No rule makes the growth wait for the addition.  An addition that was
registered before the growth still comes before it, unless it has to wait for something that the
growth does not wait for: a creation, which waits for every resize, or a shrinking of the new
member.

* `DeviceTree.of_requires_add`: what an addition waits for.
* `addition_precedes_iff`: when an addition that was registered first **stays first**.
* `extended_before_grown_iff`: the two actions in a plan that was scheduled on populated devices.
-/

namespace StoragePlan

open Relation

namespace DeviceTree

variable {t : DeviceTree} {a b : Action} {d p x c : ObjectId}

theorem dependsOn_trans_of_builtOn (ht : t.Acyclic) (hd : t.BuiltOn d p) (hp : t.BuiltOn p x) :
    t.dependsOn d x = true := by
  have hStands : t.StandsOn d x := .head hd (.single hp)
  exact dependsOn_iff.mpr ⟨fun hSame => ht d (hSame ▸ hStands), hStands⟩

/-! ## What resizes and additions wait for -/

theorem type_of_direction (h : a.isGrow = true ∨ a.isShrink = true) : a.type = .resize := by
  unfold Action.isGrow Action.isShrink at h
  unfold Action.type Action.kind
  cases hOp : a.operation <;>
    simp [hOp, Operation.direction?, Operation.kind, ActionKind.type] at h ⊢

theorem isShrink_eq_not_isGrow (h : a.type = .resize) : a.isShrink = !a.isGrow := by
  unfold Action.type Action.kind at h
  unfold Action.isGrow Action.isShrink
  cases hOp : a.operation with
  | resizeDevice _ _ direction | resizeFormat _ _ _ direction => cases direction <;> rfl
  | _ => simp [hOp, Operation.kind, ActionKind.type] at h

theorem isGrow_or_isShrink (h : a.type = .resize) : a.isGrow = true ∨ a.isShrink = true := by
  rw [isShrink_eq_not_isGrow h]
  cases a.isGrow <;> simp

theorem isGrow_of_isShrink (h : a.isShrink = true) : a.isGrow = false := by
  simpa [isShrink_eq_not_isGrow (type_of_direction (Or.inr h))] using h

/-- A resize waits only for resizes that go its own way. -/
theorem direction_of_requires (ha : a.type = .resize) (h : t.requires a b = true) :
    (a.isGrow = true ∧ b.isGrow = true) ∨ (a.isShrink = true ∧ b.isShrink = true) := by
  unfold requires requiresByKind resizeFollows at h
  unfold Action.type at ha h
  cases hka : a.kind <;> simp [hka, ActionKind.type] at ha <;>
    cases hkb : b.kind <;> simp_all [ActionKind.type] <;> grind

theorem isGrow_of_requires (ha : a.isGrow = true) (h : t.requires a b = true) :
    b.isGrow = true := by
  rcases direction_of_requires (type_of_direction (Or.inl ha)) h with ⟨_, hb⟩ | ⟨hShrink, _⟩
  · exact hb
  · rw [isGrow_of_isShrink hShrink] at ha
    cases ha

theorem isShrink_of_requires (ha : a.isShrink = true) (h : t.requires a b = true) :
    b.isShrink = true := by
  rcases direction_of_requires (type_of_direction (Or.inr ha)) h with ⟨hGrow, _⟩ | ⟨_, hb⟩
  · rw [isGrow_of_isShrink ha] at hGrow
    cases hGrow
  · exact hb

theorem requires_of_grow (hId : a.id ≠ b.id) (ha : a.kind = .resizeDevice)
    (hGrow : a.isGrow = true) (hb : b.isGrow = true)
    (hDepends : t.dependsOn a.device b.device = true) :
    t.requires a b = true := by
  have hType := type_of_direction (Or.inl hb)
  unfold requires requiresByKind resizeFollows
  unfold Action.type at *
  cases hkb : b.kind <;> simp_all [ActionKind.type]

theorem of_requires_add (ha : a.kind = .addMember) (h : t.requires a b = true) :
    b.type = .create ∨ b.device = a.device ∧ (b.isGrow = true ∨ b.isShrink = true) := by
  have hDirection : b.type = .resize → b.isGrow = true ∨ b.isShrink = true := isGrow_or_isShrink
  unfold requires requiresByKind at h
  unfold Action.type at *
  cases hkb : b.kind <;> simp_all [ActionKind.type]

theorem device?_changeParents_of_eq {change : List ObjectId → List ObjectId}
    (h : change (t.parentsOf c) = t.parentsOf c) :
    (t.changeParents c change).device? = t.device? := by
  funext d
  rw [changeParents, device?_modifyDevice]
  cases hd : t.device? d with
  | none => rfl
  | some device =>
    rw [Option.map_some]
    split
    · rename_i hSame
      rw [parentsOf_eq (hSame ▸ hd)] at h
      rw [h]
    · rfl

end DeviceTree

namespace Precedence

theorem Precedes.mem_left {α : Type} {l₁ l₂ : List α} {a b : α} (hl : (l₁ ++ b :: l₂).Nodup)
    (h : Precedes (l₁ ++ b :: l₂) a b) : a ∈ l₁ := by
  rcases List.mem_append.mp h.mem.1 with ha | ha
  · exact ha
  · rcases List.mem_cons.mp ha with rfl | ha
    · exact absurd rfl (h.ne hl)
    · have hBack : Precedes (l₁ ++ b :: l₂) b a := by
        rw [List.append_cons]
        exact precedes_append (by simp) ha
      exact absurd hBack (h.asymm hl)

end Precedence

namespace Session

open Precedence

variable {s : Session} {a b g : Action} {c x : ObjectId}

/-! ## What the actions of a plan wait for -/

theorem exists_of_waitsOn (ha : a ∈ s.plan) (h : s.WaitsOn a.id x) :
    ∃ b ∈ s.plan, b.id = x ∧ s.tree.requires a b = true := by
  obtain ⟨_, hx, _, hReq⟩ := h
  obtain ⟨_, b, _, hb, _⟩ := exists_of_requires hReq
  obtain rfl := id_of_action? hb
  have hPlan : b ∈ s.plan := mem_plan_iff.mpr ⟨hx, hb⟩
  exact ⟨b, hPlan, rfl, requires_of_plan ha hPlan ▸ hReq⟩

theorem waitsOn_of_plan (ha : a ∈ s.plan) (hb : b ∈ s.plan) (h : s.tree.requires a b = true) :
    s.WaitsOn a.id b.id :=
  waitsOn_iff.mpr ⟨(mem_plan_iff.mp ha).1, (mem_plan_iff.mp hb).1, requires_of_plan ha hb ▸ h⟩

/-- What the rules hand on from an action to those that it requires, they hand on to all that it
waits for. -/
theorem exists_of_waits {p : Action → Prop}
    (hp : ∀ {a b}, p a → s.tree.requires a b = true → p b) (ha : a ∈ s.plan) (hpa : p a)
    (hx : ReflTransGen s.WaitsOn a.id x) : ∃ b ∈ s.plan, b.id = x ∧ p b := by
  induction hx with
  | refl => exact ⟨a, ha, rfl, hpa⟩
  | tail _ hWaits ih =>
    obtain ⟨b, hb, rfl, hpb⟩ := ih
    obtain ⟨b', hb', hId, hReq⟩ := exists_of_waitsOn hb hWaits
    exact ⟨b', hb', hId, hp hpb hReq⟩

/-! ## An addition and a growth -/

section

variable (hs : s.Listed) (h : s.sort.1.ok = true) (hg : g ∈ s.plan) (hGrow : g.isGrow = true)
  (ha : a ∈ s.plan)

include hGrow hg

/-- A growth waits for nothing but growths. -/
theorem not_waits_of_grow (hb : b ∈ s.plan) (hOther : b.isGrow = false) :
    ¬ ReflTransGen s.WaitsOn g.id b.id := by
  intro hWaits
  obtain ⟨b', hb', hId, hGrow'⟩ :=
    exists_of_waits (p := fun b => b.isGrow = true) DeviceTree.isGrow_of_requires hg hGrow hWaits
  rw [eq_of_mem_plan hb' hb hId, hOther] at hGrow'
  cases hGrow'

include hs h ha

/-- **When an addition that was registered before a growth stays before it**: it waits for no
creation, and each shrinking that it waits for was registered before something that the growth waits
for. -/
theorem addition_precedes_iff (hKind : g.kind = .resizeDevice) (hAdd : a.kind = .addMember)
    (hDepends : s.tree.dependsOn g.device a.device = true)
    (hRegistered : Precedes s.registry a.id g.id) :
    Precedes s.sort.1.value a.id g.id ↔
      (∀ z ∈ s.plan, z.type = .create → ¬ s.WaitsOn a.id z.id) ∧
      ∀ x ∈ s.plan, x.isShrink = true → ReflTransGen s.WaitsOn a.id x.id →
        ∃ y, ReflTransGen s.WaitsOn g.id y ∧ Precedes s.registry x.id y := by
  have hReg : ∀ {b}, b ∈ s.plan → b.id ∈ s.registry := fun hb => (mem_plan_iff.mp hb).1
  have hType := DeviceTree.type_of_direction (Or.inl hGrow)
  constructor
  · refine fun hag => ⟨fun z hz hCreate hWaits => ?_, fun x hx hShrink hWaits => ?_⟩
    · -- the creation waits for the growth
      have hId : z.id ≠ g.id := by
        intro hId
        rw [eq_of_mem_plan hz hg hId, hType] at hCreate
        cases hCreate
      have hzg := waitsOn_of_plan hz hg (DeviceTree.requires_of_create hId hCreate (Or.inr hType))
      exact not_waits_of_precedes hs h hag (.head hWaits (.single hzg))
    · have hOther := DeviceTree.isGrow_of_isShrink hShrink
      obtain ⟨y, hy, _, hxy⟩ := exists_later_of_precedes hs h (hReg hx)
        (precedes_of_waits hs h hag hWaits) (not_waits_of_grow hg hGrow hx hOther)
      exact ⟨y, hy, hxy⟩
  · rintro ⟨hFree, hBefore⟩
    have hMem : ∀ {id}, id ∈ s.sort.1.value ↔ id ∈ s.registry := (sort_perm hs h).mem_iff
    rcases precedes_or_precedes (hMem.mpr (hReg ha)) (hMem.mpr (hReg hg))
      (hRegistered.ne hs.nodup) with hag | hga
    · exact hag
    exfalso
    -- all that the addition waits for is taken before the growth, so it could have been taken too
    obtain ⟨l₁, l₂, hValue, hal⟩ := hga.exists_append
    refine hRegistered.asymm hs.nodup (sort_first hs h hValue hal fun c hc hReq => ?_)
    obtain ⟨b, hb, rfl, hab⟩ := exists_of_waitsOn ha (waitsOn_iff.mpr ⟨hReg ha, hc, hReq⟩)
    rcases DeviceTree.of_requires_add hAdd hab with hCreate | ⟨hDevice, hbGrow | hbShrink⟩
    · exact absurd (waitsOn_of_plan ha hb hab) (hFree b hb hCreate)
    · have hId : g.id ≠ b.id := by
        intro hId
        rw [eq_of_mem_plan hg hb hId, hDevice] at hDepends
        exact (DeviceTree.dependsOn_iff.mp hDepends).1 rfl
      have hgb := DeviceTree.requires_of_grow hId hKind hGrow hbGrow (hDevice ▸ hDepends)
      exact mem_of_requires hs h hValue (hReg hb) (requires_of_plan hg hb ▸ hgb)
    · have hId : b.id ≠ g.id := by
        intro hId
        have hOther := DeviceTree.isGrow_of_isShrink hbShrink
        rw [eq_of_mem_plan hb hg hId, hGrow] at hOther
        cases hOther
      have hbg : Precedes s.sort.1.value b.id g.id := by
        refine precedes_of_closure hs h (hReg hb) (hReg hg) hId fun x hx => ?_
        obtain ⟨b', hb', rfl, hShrink'⟩ := exists_of_waits (p := fun b => b.isShrink = true)
          DeviceTree.isShrink_of_requires hb hbShrink hx
        exact hBefore b' hb' hShrink' (.head (waitsOn_of_plan ha hb hab) hx)
      have hNodup := (sort_perm hs h).nodup_iff.mpr hs.nodup
      rw [hValue] at hbg hNodup
      exact hbg.mem_left hNodup

end

/-! ## The room that additions give -/

/-- The registered additions to a container. -/
def additionsTo (s : Session) (c : ObjectId) : List Action :=
  s.plan.filter fun a => a.operation == .addMember c

/-- The tree without the members that registered actions add to a container. -/
def withoutAdditions (s : Session) (c : ObjectId) : DeviceTree :=
  s.tree.changeParents c fun members =>
    members.filter fun m => (s.additionsTo c).all fun a => a.device != m

/-- A container that offers less without them has members that were added. -/
theorem exists_addition (h : (s.withoutAdditions c).capacity c ≠ s.tree.capacity c) :
    ∃ a ∈ s.additionsTo c, a.device ∈ s.tree.parentsOf c := by
  by_contra hNone
  push Not at hNone
  refine h ?_
  have hAll : (s.tree.parentsOf c).filter
      (fun m => (s.additionsTo c).all fun a => a.device != m) = s.tree.parentsOf c := by
    refine List.filter_eq_self.mpr fun m hm => List.all_eq_true.mpr fun a ha => ?_
    exact bne_iff_ne.mpr fun hSame => hNone a ha (hSame ▸ hm)
  have hDevices : (s.withoutAdditions c).device? = s.tree.device? :=
    DeviceTree.device?_changeParents_of_eq hAll
  unfold DeviceTree.capacity
  rw [hDevices]

/-! ## Plans that were scheduled on populated devices -/

/-- **When a container is extended before what lies on it grows.**  Actions are scheduled on a tree
that was populated, and devices and formats are made for them.  Suppose that the plan can be sorted,
and that a registered growth fits on its container only thanks to members that registered actions
add.  There are such members.  If such an addition was registered before the growth, it comes before
it in the sorted plan exactly when it waits for no creation and each shrinking that it waits for was
registered before the growth or before something that the growth waits for.  One that was registered
after the growth can come before it only if something that only the growth waits for was registered
later still. -/
theorem extended_before_grown_iff (populating planning : List Command)
    (hPopulates : ∀ command ∈ populating, command.populates = true)
    (hComposes : ∀ command ∈ planning, command.composes = true) :
    let s := (({} : Session).performAll populating).performAll planning
    s.sort.1.ok = true → ∀ g ∈ s.plan, ∀ size previous,
      g.operation = .resizeDevice size previous .grow →
      ∀ vg ∈ s.tree.parentsOf g.device,
      size ≤ s.tree.capacity vg → (s.withoutAdditions vg).capacity vg < size →
      (∃ a ∈ s.additionsTo vg, a.device ∈ s.tree.parentsOf vg) ∧
      ∀ a ∈ s.additionsTo vg, a.device ∈ s.tree.parentsOf vg →
        (Precedes s.registry a.id g.id →
          (Precedes s.sort.1.value a.id g.id ↔
            (∀ z ∈ s.plan, z.type = .create → ¬ s.WaitsOn a.id z.id) ∧
            ∀ x ∈ s.plan, x.isShrink = true → ReflTransGen s.WaitsOn a.id x.id →
              ∃ y, ReflTransGen s.WaitsOn g.id y ∧ Precedes s.registry x.id y)) ∧
        (Precedes s.sort.1.value a.id g.id →
          ∃ y, ReflTransGen s.WaitsOn g.id y ∧ ¬ ReflTransGen s.WaitsOn a.id y ∧
            Precedes s.registry a.id y) := by
  intro s hOk g hg size previous hOp vg hvg hFits hShort
  obtain ⟨_, hStart⟩ := underway_of_populated hPopulates
  have hUnderway : Underway (({} : Session).performAll populating).tree.order s :=
    (along_of_forall hComposes _).performAll (fun _ _ hCommand h => h.perform hCommand) hStart
  have hKind : g.kind = .resizeDevice := by rw [Action.kind, hOp]; rfl
  have hGrow : g.isGrow = true := by rw [Action.isGrow, hOp]; rfl
  refine ⟨exists_addition fun hSame => ?_, fun a ha hMember => ⟨fun hRegistered => ?_, ?_⟩⟩
  · rw [hSame] at hShort
    exact UInt64.not_lt.mpr hFits hShort
  · obtain ⟨ha, hAdd⟩ := List.mem_filter.mp ha
    have hAdd : a.kind = .addMember := by rw [Action.kind, eq_of_beq hAdd]; rfl
    exact addition_precedes_iff hUnderway.listed hOk hg hGrow ha hKind hAdd
      (DeviceTree.dependsOn_trans_of_builtOn hUnderway.dag.acyclic hvg hMember) hRegistered
  · intro hag
    obtain ⟨ha, hAdd⟩ := List.mem_filter.mp ha
    have hOther : a.isGrow = false := by rw [Action.isGrow, eq_of_beq hAdd]; rfl
    exact exists_later_of_precedes hUnderway.listed hOk (mem_plan_iff.mp ha).1 hag
      (not_waits_of_grow hg hGrow ha hOther)

/-- A volume group takes in a partition that is ready for it, and then a volume grows. -/
theorem extended_before_grown_of_ready_member :
    let populating : List Command := [
      .adoptDevice { name := "sda", kind := .disk, size := gibibytes 100 } "" "",
      .adoptDevice { name := "sda1", kind := .partition, size := gibibytes 10, parents := [2] }
        "lvmpv" "",
      .adoptDevice { name := "sda2", kind := .partition, size := gibibytes 10, parents := [2] }
        "lvmpv" "",
      .adoptDevice { name := "vg", kind := .volumeGroup, parents := [4] } "" "",
      .adoptDevice { name := "root", kind := .logicalVolume, size := gibibytes 8, parents := [10] }
        "" ""]
    let planning : List Command := [.schedule (.addMember 10 7),
      .schedule (.resizeDevice 12 (gibibytes 15))]
    let s := (({} : Session).performAll populating).performAll planning
    let g : Action :=
      { id := 14, displayId := "A-000002", device := 12
        operation := .resizeDevice (gibibytes 15) 0 .grow, state := .registered }
    ((∀ command ∈ populating, command.populates = true) ∧
      (∀ command ∈ planning, command.composes = true) ∧
      s.sort.1.ok = true ∧ s.sort.1.value = [13, 14] ∧ g ∈ s.plan ∧
      10 ∈ s.tree.parentsOf g.device ∧ gibibytes 15 ≤ s.tree.capacity 10 ∧
      (s.withoutAdditions 10).capacity 10 < gibibytes 15) ∧
    (∃ a ∈ s.additionsTo 10, a.device ∈ s.tree.parentsOf 10) ∧
    ∀ a ∈ s.additionsTo 10, a.device ∈ s.tree.parentsOf 10 →
      (Precedes s.registry a.id g.id →
        (Precedes s.sort.1.value a.id g.id ↔
          (∀ z ∈ s.plan, z.type = .create → ¬ s.WaitsOn a.id z.id) ∧
          ∀ x ∈ s.plan, x.isShrink = true → ReflTransGen s.WaitsOn a.id x.id →
            ∃ y, ReflTransGen s.WaitsOn g.id y ∧ Precedes s.registry x.id y)) ∧
      (Precedes s.sort.1.value a.id g.id →
        ∃ y, ReflTransGen s.WaitsOn g.id y ∧ ¬ ReflTransGen s.WaitsOn a.id y ∧
          Precedes s.registry a.id y) := by
  intro populating planning s g
  have hPopulates : ∀ command ∈ populating, command.populates = true := by decide
  have hComposes : ∀ command ∈ planning, command.composes = true := by decide
  have hOk : s.sort.1.ok = true := by decide +kernel
  have hg : g ∈ s.plan := by decide +kernel
  have hvg : 10 ∈ s.tree.parentsOf g.device := by decide +kernel
  have hFits : gibibytes 15 ≤ s.tree.capacity 10 := by decide +kernel
  have hShort : (s.withoutAdditions 10).capacity 10 < gibibytes 15 := by decide +kernel
  exact ⟨⟨hPopulates, hComposes, hOk, by decide +kernel, hg, hvg, hFits, hShort⟩,
    extended_before_grown_iff populating planning hPopulates hComposes hOk g hg _ _ rfl 10 hvg
      hFits hShort⟩

/-- A partition is added to a volume group, a volume grows into the new room, and the partition is
made smaller; and a new partition is made for the group.  Both times the volume grows before the
group has the room. -/
theorem not_extended_before_grown_of_unready_member :
    let shrunk := ({} : Session).performAll [
      .adoptDevice { name := "sda", kind := .disk, size := gibibytes 100 } "" "",
      .adoptDevice { name := "sda1", kind := .partition, size := gibibytes 10, parents := [2] }
        "lvmpv" "",
      .adoptDevice { name := "sda2", kind := .partition, size := gibibytes 10, parents := [2] }
        "" "",
      .adoptDevice { name := "vg", kind := .volumeGroup, parents := [4] } "" "",
      .adoptDevice { name := "root", kind := .logicalVolume, size := gibibytes 8, parents := [9] }
        "" "",
      .schedule (.addMember 9 7), .schedule (.resizeDevice 11 (gibibytes 15)),
      .schedule (.resizeDevice 7 (gibibytes 8))]
    let created := ({} : Session).performAll [
      .adoptDevice { name := "sda", kind := .disk, size := gibibytes 100 } "" "",
      .adoptDevice { name := "sda1", kind := .partition, size := gibibytes 10, parents := [2] }
        "lvmpv" "",
      .adoptDevice { name := "vg", kind := .volumeGroup, parents := [4] } "" "",
      .adoptDevice { name := "root", kind := .logicalVolume, size := gibibytes 8, parents := [7] }
        "" "",
      .newDevice { name := "sda2", kind := .partition, size := gibibytes 10, parents := [2] },
      .newFormat "lvmpv" "" false,
      .schedule (.createDevice 11), .schedule (.createFormat 11 12), .schedule (.addMember 7 11),
      .schedule (.resizeDevice 9 (gibibytes 15))]
    (shrunk.plan.map (fun a => (a.kind, a.device))
        = [(.addMember, 7), (.resizeDevice, 11), (.resizeDevice, 7)] ∧
      (shrunk.additionsTo 9).map Action.id = [12] ∧ shrunk.tree.parentsOf 11 = [9] ∧
      gibibytes 15 ≤ shrunk.tree.capacity 9 ∧
      (shrunk.withoutAdditions 9).capacity 9 < gibibytes 15 ∧ shrunk.sort.1.ok = true ∧
      shrunk.sort.1.value = [13, 14, 12] ∧ ¬ Precedes shrunk.sort.1.value 12 13) ∧
    (created.plan.map (fun a => (a.kind, a.device))
        = [(.createDevice, 11), (.createFormat, 11), (.addMember, 11), (.resizeDevice, 9)] ∧
      (created.additionsTo 7).map Action.id = [15] ∧ created.tree.parentsOf 9 = [7] ∧
      gibibytes 15 ≤ created.tree.capacity 7 ∧
      (created.withoutAdditions 7).capacity 7 < gibibytes 15 ∧ created.sort.1.ok = true ∧
      created.sort.1.value = [16, 13, 14, 15] ∧ ¬ Precedes created.sort.1.value 15 16) := by
  decide +kernel

end Session

end StoragePlan

import StoragePlan.Proofs.Orderings

/-!
# Creating and destroying mirror each other

The rules for creations and those for destructions are written separately, but they are the same
rules with the roles exchanged: what is created later is destroyed earlier.

* `requires_of_mirrors`: a creation requires another one exactly when the destruction of what the
  other one creates requires the destruction of what the first one creates.
* `requires_mirrored`: so an order in which a stack can be created is, **read backwards, an order in
  which it can be destroyed**, and no other one is.
-/

namespace StoragePlan

open Precedence

variable {x x' y y' : Action}

/-- One action destroys what another one creates: a device, or what it holds. -/
structure Action.Mirrors (x' x : Action) : Prop where
  creates : x.type = .create
  destroys : x'.type = .destroy
  device : x'.device = x.device
  object : x'.object = x.object

instance (x' x : Action) : Decidable (x'.Mirrors x) :=
  decidable_of_iff
    (x.type = .create ∧ x'.type = .destroy ∧ x'.device = x.device ∧ x'.object = x.object)
    ⟨fun h => ⟨h.1, h.2.1, h.2.2.1, h.2.2.2⟩,
      fun h => ⟨h.creates, h.destroys, h.device, h.object⟩⟩

theorem Action.Mirrors.kinds (h : x'.Mirrors x) :
    (x.kind = .createDevice ∧ x'.kind = .destroyDevice) ∨
    (x.kind = .createFormat ∧ x'.kind = .destroyFormat) := by
  obtain ⟨hCreates, hDestroys, _, hObject⟩ := h
  unfold Action.type at hCreates hDestroys
  unfold Action.object at hObject
  cases hx : x.kind <;> simp [hx, ActionKind.type] at hCreates <;>
    cases hx' : x'.kind <;> simp [hx, hx', ActionKind.type, ActionKind.object] at hDestroys hObject ⊢

namespace DeviceTree

variable {t : DeviceTree}

theorem requires_self (t : DeviceTree) (a : Action) : t.requires a a = false := by
  simp [requires]

/-- The rules for what is created are the rules for what is destroyed, the other way round. -/
theorem requiresByKind_of_mirrors (hx : x'.Mirrors x) (hy : y'.Mirrors y) :
    t.requiresByKind x y = t.requiresByKind y' x' := by
  unfold requiresByKind
  rw [hx.device, hy.device]
  rcases hx.kinds with ⟨hkx, hkx'⟩ | ⟨hkx, hkx'⟩ <;>
    rcases hy.kinds with ⟨hky, hky'⟩ | ⟨hky, hky'⟩ <;>
    simp only [hkx, hkx', hky, hky']
  -- the format of a device stands and falls with it
  rw [Bool.beq_comm]

/-- **A creation requires another one exactly when the destructions require each other the other way
round**, whatever the devices and the objects. -/
theorem requires_of_mirrors (hx : x'.Mirrors x) (hy : y'.Mirrors y)
    (hIds : x.id = y.id ↔ x'.id = y'.id) : t.requires x y = t.requires y' x' := by
  have hDiffer : (x.id != y.id) = (y'.id != x'.id) := by
    rw [Bool.eq_iff_iff, bne_iff_ne, bne_iff_ne, ne_eq, ne_eq, hIds, eq_comm]
  unfold requires
  rw [requiresByKind_of_mirrors hx hy, hDiffer, hx.creates, hy.creates, hx.destroys, hy.destroys]
  rfl

/-- **The reverse of a creation order is a destruction order.**  The rules between two creations are
those between the destructions of the same objects, the other way round.  So a list of creations
respects the rules exactly when the list of the corresponding destructions does, read backwards. -/
theorem requires_mirrored (t : DeviceTree) :
    (∀ x y x' y' : Action, x'.Mirrors x → y'.Mirrors y → x.id ≠ y.id → x'.id ≠ y'.id →
      (t.requires x y = true ↔ t.requires y' x' = true)) ∧
    ∀ stack : List (Action × Action), (∀ p ∈ stack, p.2.Mirrors p.1) →
      (stack.map fun p => p.1.id).Nodup → (stack.map fun p => p.2.id).Nodup →
      (Respects t.requires (stack.map Prod.fst) ↔
        Respects t.requires (stack.map Prod.snd).reverse) := by
  refine ⟨fun x y x' y' hx hy hIds hIds' => ?_, fun stack hStack hIds hIds' => ?_⟩
  · rw [requires_of_mirrors hx hy (iff_of_false hIds hIds')]
  · have hCreations : (stack.map Prod.fst).Nodup :=
      .of_map Action.id (by simpa only [List.map_map, Function.comp_def] using hIds)
    have hDestructions : (stack.map Prod.snd).Nodup :=
      .of_map Action.id (by simpa only [List.map_map, Function.comp_def] using hIds')
    rw [respects_iff_pairwise hCreations t.requires_self,
      respects_iff_pairwise (List.nodup_reverse.mpr hDestructions) t.requires_self,
      List.pairwise_reverse, List.pairwise_map, List.pairwise_map]
    refine List.Pairwise.iff_of_mem fun {p q} hp hq => ?_
    have hSame : p.1.id = q.1.id ↔ p.2.id = q.2.id :=
      ⟨fun h => List.inj_on_of_nodup_map hIds hp hq h ▸ rfl,
        fun h => List.inj_on_of_nodup_map hIds' hp hq h ▸ rfl⟩
    rw [requires_of_mirrors (hStack p hp) (hStack q hq) hSame]

/-- A partition with its content, a volume group over it and a filesystem on a volume of that group
are planned; then the stack above the disk is taken down again. -/
theorem requires_mirrored_of_removed_stack :
    let s := ({} : Session).performAll [
      .adoptDevice { name := "sda", kind := .disk, size := gibibytes 100 } "" "",
      .newDevice { name := "sda1", kind := .partition, size := gibibytes 10, parents := [2] },
      .newDevice { name := "vg", kind := .volumeGroup, parents := [4] },
      .newDevice { name := "root", kind := .logicalVolume, size := gibibytes 5, parents := [6] },
      .newFormat "lvmpv" "" false, .newFormat "ext4" "/" false,
      .schedule (.createDevice 4), .schedule (.createFormat 4 9), .schedule (.createDevice 6),
      .schedule (.createDevice 8), .schedule (.createFormat 8 10), .removeStack 2 false]
    let stack := (s.plan.take 5).zip (s.plan.drop 5).reverse
    (stack.length = 5 ∧ (∀ p ∈ stack, p.2.Mirrors p.1) ∧
      (stack.map fun p => p.1.id).Nodup ∧ (stack.map fun p => p.2.id).Nodup ∧
      Respects s.tree.requires (stack.map Prod.fst)) ∧
    (∀ p ∈ stack, ∀ q ∈ stack, p ≠ q →
      (s.tree.requires p.1 q.1 = true ↔ s.tree.requires q.2 p.2 = true)) ∧
    Respects s.tree.requires (stack.map Prod.snd).reverse := by
  intro s stack
  have hMirrors : ∀ p ∈ stack, p.2.Mirrors p.1 := by decide +kernel
  have hIds : (stack.map fun p => p.1.id).Nodup := by decide +kernel
  have hIds' : (stack.map fun p => p.2.id).Nodup := by decide +kernel
  have hOrder : Respects s.tree.requires (stack.map Prod.fst) := by decide +kernel
  refine ⟨⟨by decide +kernel, hMirrors, hIds, hIds', hOrder⟩, fun p hp q hq hne => ?_,
    ((requires_mirrored s.tree).2 stack hMirrors hIds hIds').mp hOrder⟩
  exact (requires_mirrored s.tree).1 p.1 q.1 p.2 q.2 (hMirrors p hp) (hMirrors q hq)
    (fun h => hne (List.inj_on_of_nodup_map hIds hp hq h))
    (fun h => hne (List.inj_on_of_nodup_map hIds' hp hq h))

end DeviceTree

end StoragePlan

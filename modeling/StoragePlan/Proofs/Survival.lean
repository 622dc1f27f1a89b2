import StoragePlan.Proofs.Sweeping
import Mathlib.Data.Finset.Max

/-!
# What pruning keeps

Among creations, destructions and resizes one action makes another unnecessary only if both are on
the same device and the other is not newer (`obsoletes_iff`).  This is transitive
(`obsoletes_trans`): what an action would have dropped that goes before its turn is also dropped by
the newest action that makes the same one unnecessary, and nothing drops that one before its turn.

* `mem_registry_prune_iff`: pruning keeps exactly those of these actions that nothing registered
  makes unnecessary and whose device is not both created and destroyed.
* `prune_keeps_the_needed`: so what it keeps of them depends neither on the order of the plan nor on
  its membership actions.
-/

namespace StoragePlan

namespace DeviceTree

variable {t t' : DeviceTree} {a b c : Action}

/-- The kinds of earlier work on its device that an action leaves without effect. -/
def outdates (t : DeviceTree) (a : Action) (kind : ActionKind) : Bool :=
  match a.kind with
  | .destroyDevice =>
    ((t.device? a.device).map Device.onMedia).any fun onMedia =>
      !onMedia || kind.type == .create || kind.type == .resize
  | .destroyFormat => kind.object == .format
  | .createFormat => kind == .createFormat || kind == .resizeFormat
  | _ => kind == a.kind

/-- Whether an action destroys what never reached the media. -/
def destroysUnwritten (t : DeviceTree) (a : Action) : Bool :=
  match a.kind with
  | .destroyDevice => ((t.device? a.device).map Device.onMedia).any fun onMedia => !onMedia
  | .destroyFormat => t.removesUnwritten a
  | _ => false

theorem destroyObsoletes_iff (hb : b.object ≠ .container) :
    t.destroyObsoletes a b = true ↔
      b.device = a.device ∧ ∃ device, t.device? a.device = some device ∧
        if device.onMedia then b.id < a.id ∧ (b.type = .create ∨ b.type = .resize)
        else b.id ≤ a.id := by
  unfold destroyObsoletes
  cases t.device? a.device with
  | none => simp
  | some device =>
    have hConcerns : b.concerns a.device = true ↔ b.device = a.device := by
      simp [Action.concerns, container?_eq_none hb]
    cases hMedia : device.onMedia
    · simp [hMedia, hConcerns]
    · simp [hMedia, and_assoc]

/-- An action makes one that is no membership action unnecessary if that one is earlier work on the
same device which is left without effect, or if it is the destruction itself of something that never
reached the media. -/
theorem obsoletes_iff (hb : b.object ≠ .container) :
    t.obsoletes a b = true ↔ b.device = a.device ∧ t.outdates a b.kind = true ∧
      (b.id < a.id ∨ b.id = a.id ∧ t.destroysUnwritten a = true) := by
  have hKind : b.kind.object ≠ .container := hb
  unfold obsoletes outdates destroysUnwritten
  cases ha : a.kind with
  | destroyDevice =>
    rw [destroyObsoletes_iff hb]
    cases t.device? a.device with
    | none => simp
    | some device =>
      cases hMedia : device.onMedia
      · simp [hMedia, UInt64.le_iff_lt_or_eq]
      · simp [hMedia, Action.type, and_comm]
  | destroyFormat => simp [Action.object, and_assoc, and_left_comm]
  | _ => cases hb : b.kind <;> simp [hb, ActionKind.object] at hKind ⊢

/-- Only an action on the same device that is not older makes an action unnecessary. -/
theorem device_of_obsoletes (hb : b.object ≠ .container) (h : t.obsoletes a b = true) :
    b.device = a.device :=
  ((obsoletes_iff hb).mp h).1

theorem id_le_of_obsoletes (hb : b.object ≠ .container) (h : t.obsoletes a b = true) :
    b.id ≤ a.id := by
  obtain ⟨_, _, hLt | ⟨hEq, _⟩⟩ := (obsoletes_iff hb).mp h
  · exact UInt64.le_of_lt hLt
  · exact hEq ▸ UInt64.le_refl _

/-- A membership action makes only membership actions unnecessary. -/
theorem object_of_obsoletes (hb : b.object ≠ .container) (h : t.obsoletes a b = true) :
    a.object ≠ .container := by
  obtain ⟨_, hOutdates, _⟩ := (obsoletes_iff hb).mp h
  have hKind : b.kind.object ≠ .container := hb
  unfold outdates at hOutdates
  unfold Action.object
  cases ha : a.kind <;> simp [ha, ActionKind.object] at hOutdates ⊢
  all_goals exact hKind (hOutdates ▸ rfl)

/-- What is not a destruction leaves work of its own kind without effect, and a new format also the
resizes of the old one. -/
theorem kind_of_outdates {kind : ActionKind} (hType : a.type ≠ .destroy)
    (h : t.outdates a kind = true) :
    kind = a.kind ∨ a.kind = .createFormat ∧ kind = .resizeFormat := by
  unfold outdates at h
  unfold Action.type at hType
  cases hKind : a.kind <;> simp only [hKind] at hType h
  case destroyDevice | destroyFormat => exact absurd rfl hType
  case createFormat =>
    rcases Bool.or_eq_true_iff.mp h with h | h
    · exact Or.inl (eq_of_beq h)
    · exact Or.inr ⟨rfl, eq_of_beq h⟩
  all_goals exact Or.inl (eq_of_beq h)

theorem type_of_outdates {kind : ActionKind} (ha : a.type = .create ∨ a.type = .resize)
    (h : t.outdates a kind = true) : kind.type = .create ∨ kind.type = .resize := by
  have hType : a.type ≠ .destroy := by rcases ha with ha | ha <;> simp [ha]
  rcases kind_of_outdates hType h with rfl | ⟨_, rfl⟩
  · exact ha
  · exact Or.inr rfl

theorem object_of_outdates {kind : ActionKind} (ha : a.object = .format)
    (h : t.outdates a kind = true) : kind.object = .format := by
  by_cases hType : a.type = .destroy
  · have hKind : a.kind = .destroyFormat := by
      unfold Action.type at hType
      unfold Action.object at ha
      cases hKind : a.kind <;> simp [hKind, ActionKind.type, ActionKind.object] at hType ha ⊢
    simpa [outdates, hKind] using h
  · rcases kind_of_outdates hType h with rfl | ⟨_, rfl⟩
    · exact ha
    · rfl

theorem outdates_of_kind {kind : ActionKind} (hDevice : b.device = a.device)
    (hKind : b.kind = a.kind) : t.outdates b kind = t.outdates a kind := by
  unfold outdates
  rw [hKind, hDevice]

/-- What is left without effect leaves nothing else without effect. -/
theorem outdates_trans {kind : ActionKind} (hDevice : b.device = a.device)
    (hab : t.outdates a b.kind = true) (hbc : t.outdates b kind = true) :
    t.outdates a kind = true := by
  cases ha : a.kind with
  | destroyDevice =>
    simp only [outdates, ha, Option.any_eq_true, Bool.or_eq_true, beq_iff_eq, or_assoc] at hab ⊢
    obtain ⟨onMedia, hFound, hProposed | hType⟩ := hab
    · exact ⟨onMedia, hFound, Or.inl hProposed⟩
    · exact ⟨onMedia, hFound, Or.inr (type_of_outdates hType hbc)⟩
  | destroyFormat =>
    simp only [outdates, ha, beq_iff_eq] at hab ⊢
    exact object_of_outdates hab hbc
  | createFormat =>
    rw [outdates, ha] at hab
    rcases Bool.or_eq_true_iff.mp hab with hb | hb
    · rwa [← outdates_of_kind hDevice ((eq_of_beq hb).trans ha.symm)]
    · simp only [outdates, ha, eq_of_beq hb] at hbc ⊢
      rw [hbc, Bool.or_true]
  | _ =>
    have hb : b.kind = a.kind := by simpa [outdates, ha] using hab
    rwa [← outdates_of_kind hDevice hb]

theorem obsoletes_trans (hc : c.object ≠ .container) (hab : t.obsoletes a b = true)
    (hbc : t.obsoletes b c = true) : t.obsoletes a c = true := by
  have hb := object_of_obsoletes hc hbc
  obtain ⟨hDevice, hOutdates, hOrder⟩ := (obsoletes_iff hb).mp hab
  obtain ⟨hDevice', hOutdates', hOrder'⟩ := (obsoletes_iff hc).mp hbc
  refine (obsoletes_iff hc).mpr
    ⟨hDevice'.trans hDevice, outdates_trans hDevice hOutdates hOutdates', ?_⟩
  rcases hOrder' with hLt | ⟨hSame, _⟩
  · rcases hOrder with hLt' | ⟨hSame', _⟩
    · exact Or.inl (UInt64.lt_trans hLt hLt')
    · exact Or.inl (hSame' ▸ hLt)
  · rw [hSame]
    exact hOrder

/-- Two trees hold the same devices and formats as far as their being on the media goes. -/
structure SameMedia (t t' : DeviceTree) : Prop where
  device : ∀ id, (t'.device? id).map Device.onMedia = (t.device? id).map Device.onMedia
  format : ∀ id, (t'.format? id).map Format.onMedia = (t.format? id).map Format.onMedia

theorem SameMedia.outdates (h : SameMedia t t') (a : Action) (kind : ActionKind) :
    t'.outdates a kind = t.outdates a kind := by
  unfold DeviceTree.outdates
  rw [h.device]

theorem SameMedia.removesUnwritten (h : SameMedia t t') (a : Action) :
    t'.removesUnwritten a = t.removesUnwritten a := by
  have hFormat : ∀ id, (t'.format? id).all (fun format => !format.onMedia) =
      (t.format? id).all fun format => !format.onMedia := by
    intro id
    exact Option.all_map.symm.trans ((congrArg _ (h.format id)).trans Option.all_map)
  unfold DeviceTree.removesUnwritten
  simp only [hFormat]

theorem SameMedia.destroysUnwritten (h : SameMedia t t') (a : Action) :
    t'.destroysUnwritten a = t.destroysUnwritten a := by
  unfold DeviceTree.destroysUnwritten
  rw [h.device, h.removesUnwritten]

/-- Nothing else of the tree bears on which of these actions makes which unnecessary. -/
theorem SameMedia.obsoletes (h : SameMedia t t') (hb : b.object ≠ .container) :
    t'.obsoletes a b = t.obsoletes a b := by
  rw [Bool.eq_iff_iff, obsoletes_iff hb, obsoletes_iff hb, h.outdates, h.destroysUnwritten]

end DeviceTree

namespace Session

variable {s s' : Session} {n id : ObjectId} {a b : Action}

/-- An action that no other one makes unnecessary is there for its turn, and drops what it makes
unnecessary. -/
theorem not_mem_sweep (hn : n ∈ s.registry)
    (hAlone : ∀ x ∈ s.registry, s.obsoletes x n = true → x = n)
    (h : s.obsoletes n id = true) : id ∉ s.sweep.2.registry := by
  obtain ⟨_, _, hFound, _, _⟩ := exists_of_obsoletes h
  have hClosed : ∀ x ∈ s.registry, ∀ y, s.obsoletes x y = true → y = n → x = n := by
    rintro x hx y hObsoletes rfl
    exact hAlone x hx hObsoletes
  obtain ⟨s', hBefore, -, a, ha, rfl, hAfter⟩ := exists_turn hClosed rfl hn
    (Option.isSome_of_eq_some hFound) fun _ hne _ => hne
  intro hKept
  obtain ⟨_, hStays⟩ := (mem_registry_pruneFor ha).mp (hAfter.registry.subset hKept)
  rw [← hBefore.obsoletes] at h
  split at hStays
  · rename_i hSelf
    exact hStays (Or.inl (hSelf ▸ h))
  · rw [hStays] at h
    cases h

/-- Among the actions that make one unnecessary there is a newest one, and no other action makes
that one unnecessary. -/
theorem exists_newest_obsoleting (ha : a.object ≠ .container)
    (h : ∃ b ∈ s.plan, s.tree.obsoletes b a = true) :
    ∃ b ∈ s.plan, s.tree.obsoletes b a = true ∧
      ∀ c ∈ s.plan, s.tree.obsoletes c b = true → c = b := by
  obtain ⟨b₀, hb₀, hObsoletes₀⟩ := h
  obtain ⟨b, hb, hNewest⟩ := Finset.exists_max_image
    (s.plan.filter fun b => s.tree.obsoletes b a).toFinset (fun b => b.id.toNat)
    ⟨b₀, by simp [hb₀, hObsoletes₀]⟩
  simp only [List.mem_toFinset, List.mem_filter] at hb hNewest
  refine ⟨b, hb.1, hb.2, fun c hc hcb => ?_⟩
  have hLe := DeviceTree.id_le_of_obsoletes (DeviceTree.object_of_obsoletes ha hb.2) hcb
  have hGe := hNewest c ⟨hc, DeviceTree.obsoletes_trans ha hcb hb.2⟩
  exact eq_of_mem_plan hc hb.1 (UInt64.le_antisymm (UInt64.le_iff_toNat_le.mpr hGe) hLe)

/-- **Pruning keeps an action that is no membership action if and only if its device is not both
created and destroyed and nothing in the plan makes it unnecessary.** -/
theorem mem_registry_prune_iff (ha : a ∈ s.plan) (hObject : a.object ≠ .container) :
    a.id ∈ s.prune.2.registry ↔
      ¬ (a.device ∈ s.devicesOf .createDevice ∧ a.device ∈ s.devicesOf .destroyDevice) ∧
        ∀ b ∈ s.plan, s.tree.obsoletes b a = false := by
  obtain ⟨hid, hFound⟩ := mem_plan_iff.mp ha
  have hFirst := mem_registry_withoutTransient hFound (DeviceTree.container?_eq_none hObject)
  constructor
  · intro hKept
    have hStays := (hFirst.mp ((registry_prune_sublist s).subset hKept)).2
    refine ⟨hStays, ?_⟩
    by_contra hNot
    push Not at hNot
    simp only [Bool.ne_false_iff] at hNot
    obtain ⟨b, hb, hObsoletes, hNewest⟩ := exists_newest_obsoleting hObject hNot
    -- the newest of them is on the same device, so the first pass leaves it
    have hObject' := DeviceTree.object_of_obsoletes hObject hObsoletes
    obtain ⟨hid', hFound'⟩ := mem_plan_iff.mp hb
    have hThere : b.id ∈ s.withoutTransient.registry :=
      (mem_registry_withoutTransient hFound' (DeviceTree.container?_eq_none hObject')).mpr
        ⟨hid', DeviceTree.device_of_obsoletes hObject hObsoletes ▸ hStays⟩
    refine not_mem_sweep hThere ?_ ?_ ((pruned_sweep s.withoutTransient).registry.subset hKept)
    · intro x hx hOut
      rw [obsoletes_withoutTransient] at hOut
      obtain ⟨c, hc, rfl, hcb⟩ :=
        exists_of_obsoletes_plan ((registry_withoutTransient_sublist s).subset hx) hb hOut
      rw [hNewest c hc hcb]
    · rw [obsoletes_withoutTransient, obsoletes_of_plan hb ha, hObsoletes]
  · rintro ⟨hStays, hNone⟩
    refine mem_registry_prune (hFirst.mpr ⟨hid, hStays⟩) fun hOutdone => ?_
    obtain ⟨b, hb, _, hObsoletes⟩ :=
      exists_of_outdone (fun _ h => h) (fun _ _ => rfl) ha hOutdone
    rw [hNone b hb] at hObsoletes
    cases hObsoletes

theorem mem_devicesOf_congr {kind : ActionKind} {d : ObjectId}
    (h : ∀ a : Action, a.kind = kind → (a ∈ s'.plan ↔ a ∈ s.plan)) :
    d ∈ s'.devicesOf kind ↔ d ∈ s.devicesOf kind := by
  simp only [devicesOf, List.mem_map, List.mem_filter, beq_iff_eq]
  exact exists_congr fun a => and_congr_left fun _ => and_congr_left fun hKind => h a hKind

/-- **Pruning keeps those of the creations, destructions and resizes that are needed.**  Which these
are depends on the set of these actions alone: not on the order of the plan, and not on its
membership actions. -/
theorem prune_keeps_the_needed (s : Session) :
    (∀ a ∈ s.plan, a.object ≠ .container →
      (a.id ∈ s.prune.2.registry ↔
        ¬ (a.device ∈ s.devicesOf .createDevice ∧ a.device ∈ s.devicesOf .destroyDevice) ∧
          ∀ b ∈ s.plan, s.tree.obsoletes b a = false)) ∧
    ∀ s' : Session, s.tree.SameMedia s'.tree →
      (∀ a : Action, a.object ≠ .container → (a ∈ s'.plan ↔ a ∈ s.plan)) →
      ∀ a ∈ s.plan, a.object ≠ .container →
        (a.id ∈ s'.prune.2.registry ↔ a.id ∈ s.prune.2.registry) := by
  refine ⟨fun a => mem_registry_prune_iff, fun s' hMedia hSame a ha hObject => ?_⟩
  have hDevices : ∀ kind : ActionKind, kind.object ≠ .container → ∀ d,
      d ∈ s'.devicesOf kind ↔ d ∈ s.devicesOf kind :=
    fun kind hKind d => mem_devicesOf_congr fun b hb => hSame b (by rwa [Action.object, hb])
  rw [mem_registry_prune_iff ((hSame a hObject).mpr ha) hObject, mem_registry_prune_iff ha hObject,
    hDevices _ (by decide), hDevices _ (by decide)]
  refine and_congr_right fun _ => forall_congr' fun b => ?_
  rw [hMedia.obsoletes hObject]
  cases hObsoletes : s.tree.obsoletes b a with
  | false => simp
  | true => rw [hSame b (DeviceTree.object_of_obsoletes hObject hObsoletes)]

end Session

end StoragePlan

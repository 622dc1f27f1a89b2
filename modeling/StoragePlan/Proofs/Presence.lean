import StoragePlan.Proofs.Links

/-!
# What is there

Whether a stored device is there already is decided when it is stored.  No action changes it: a plan
creates devices that are not there, and the ones that are there it can only destroy.

* `isThere_schedule`, `isThere_cancel`: the calls of a plan leave it alone.
* `Standing.schedule`: **a device that is there is created by no action**.
* `Standing.not_mem_destroyed`: so it is present only as long as the plan does not destroy it.
-/

namespace StoragePlan

namespace DeviceTree

variable {t t' : DeviceTree} {a : Action} {p : Preparation} {d : ObjectId}

/-- Whether a stored device is there already. -/
def isThere (t : DeviceTree) (d : ObjectId) : Bool := (t.device? d).any Device.onMedia

theorem isThere_of_device? {device : Device} (h : t.device? d = some device) :
    t.isThere d = device.onMedia := by
  rw [isThere, h, Option.any_some]

theorem isSome_of_isThere (h : t.isThere d = true) : (t.device? d).isSome := by
  obtain ⟨device, hd, _⟩ := (Option.any_eq_true _ _).mp h
  exact Option.isSome_of_eq_some hd

theorem isThere_modifyDevice (t : DeviceTree) (id : ObjectId) (change : Device → Device)
    (keeps : ∀ d, (change d).id = d.id) (hMedia : ∀ d, (change d).onMedia = d.onMedia) :
    (t.modifyDevice id change keeps).isThere = t.isThere := by
  funext d
  unfold isThere
  rw [device?_modifyDevice]
  cases t.device? d with
  | none => rfl
  | some device =>
    rw [Option.map_some, Option.any_some, Option.any_some]
    split
    · exact hMedia device
    · rfl

theorem isThere_storeDevice {draft : DeviceDraft} {name : String} {number : Int}
    (h : (t.storeDevice draft name number).2.isThere d = true) :
    t.isThere d = true ∨ draft.onMedia = true := by
  obtain ⟨device, hd, hMedia⟩ := (Option.any_eq_true _ _).mp h
  obtain ⟨new, hSuits, hDevices⟩ := storeDevice_devices t draft name number
  unfold device? at hd
  rw [hDevices] at hd
  rcases Arena.of_find?_insert hd with hd | ⟨rfl, _⟩
  · exact Or.inl ((isThere_of_device? hd).trans hMedia)
  · exact Or.inr (hSuits.onMedia.symm.trans hMedia)

theorem isThere_of_extends (h : t.Extends t') (hd : t.isThere d = true) : t'.isThere d = true := by
  obtain ⟨device, hd, hMedia⟩ := (Option.any_eq_true _ _).mp hd
  obtain ⟨device', hd', hMedia'⟩ := Session.exists_onMedia h ⟨device, hd, hMedia⟩
  rw [isThere_of_device? hd', hMedia']

theorem Prepares.isThere (h : t.Prepares p) : p.tree.isThere = t.isThere := by
  cases h with
  | createDevice | destroyDevice => rfl
  | createFormat | resizeDevice | addMember | removeMember =>
    exact isThere_modifyDevice _ _ _ _ fun _ => rfl
  | destroyFormat => exact isThere_modifyDevice _ _ _ _ fun _ => rfl
  | resizeFormat => rfl

/-- Only a device that is not there can be created. -/
theorem Prepares.isThere_created (h : t.Prepares p) (hKind : p.operation.kind = .createDevice) :
    t.isThere p.device = false := by
  cases h with
  | createDevice hd hProposed => exact (isThere_of_device? hd).trans hProposed
  | _ => cases hKind

theorem isThere_undoConstruction (t : DeviceTree) (a : Action) :
    (t.undoConstruction a).1.isThere = t.isThere := by
  cases hStored : (t.device? a.device).isSome with
  | false => rw [undoConstruction_of_missing hStored]
  | true =>
    rw [undoConstruction_fst hStored]
    cases a.operation with
    | createDevice | destroyDevice => rfl
    | createFormat | destroyFormat | resizeDevice =>
      exact isThere_modifyDevice _ _ _ _ fun _ => rfl
    | resizeFormat => dsimp only; split <;> rfl
    | addMember =>
      dsimp only
      split
      · exact isThere_modifyDevice _ _ _ _ fun _ => rfl
      · rfl
    | removeMember =>
      dsimp only
      split
      · rfl
      · exact isThere_modifyDevice _ _ _ _ fun _ => rfl

theorem isThere_of_moves {enters leaves : ActionKind} (h : t.Moves t' a enters leaves) :
    t'.isThere = t.isThere := by
  obtain ⟨order, presence, rfl⟩ := eq_of_moves h
  rfl

end DeviceTree

namespace Session

variable {s s' : Session} {d : ObjectId}

/-! ## No call of a plan changes what is there -/

theorem isThere_newFormat (s : Session) (typeName mountPoint : String) (onMedia : Bool) :
    (s.newFormat typeName mountPoint onMedia).2.tree.isThere = s.tree.isThere := by
  unfold newFormat DeviceTree.newFormat answerTree
  cases FormatType.named? typeName <;> rfl

theorem newDevice_tree (s : Session) (draft : DeviceDraft) :
    (s.newDevice draft).2.tree = s.tree ∨
    ∃ name number, (s.newDevice draft).2.tree = (s.tree.storeDevice draft name number).2 := by
  unfold newDevice answerTree
  cases hNew : s.tree.newDevice draft with
  | error cause => exact Or.inl rfl
  | ok result => exact Or.inr (DeviceTree.eq_storeDevice_of_newDevice hNew)

theorem sameRecords_newDevice (s : Session) (draft : DeviceDraft) :
    s.tree.SameRecords (s.newDevice draft).2.tree := by
  rcases s.newDevice_tree draft with hSame | ⟨name, number, hTree⟩
  · rw [hSame]
    exact .refl _
  · rw [hTree]
    exact s.tree.sameRecords_storeDevice draft name number

theorem sameRecords_newFormat (s : Session) (typeName mountPoint : String) (onMedia : Bool) :
    s.tree.SameRecords (s.newFormat typeName mountPoint onMedia).2.tree := by
  unfold newFormat DeviceTree.newFormat answerTree
  cases FormatType.named? typeName <;> exact ⟨rfl, rfl⟩

theorem Tallied.newDevice {n : ObjectId → Int} (h : Tallied n s) (draft : DeviceDraft) :
    Tallied n (s.newDevice draft).2 :=
  h.of_same (h.listed.perform (.newDevice draft)) (s.sameRecords_newDevice draft)
    (sameActions_answerTree s _ _) (answerTree_registry s _ _)

theorem Tallied.newFormat {n : ObjectId → Int} (h : Tallied n s) (typeName mountPoint : String)
    (onMedia : Bool) : Tallied n (s.newFormat typeName mountPoint onMedia).2 :=
  h.of_same (h.listed.perform (.newFormat typeName mountPoint onMedia))
    (s.sameRecords_newFormat typeName mountPoint onMedia) (sameActions_answerTree s _ _)
    (answerTree_registry s _ _)

theorem isThere_newDevice (s : Session) (draft : DeviceDraft) (h : s.tree.isThere d = true) :
    (s.newDevice draft).2.tree.isThere d = true := by
  rcases s.newDevice_tree draft with hSame | ⟨name, number, hTree⟩
  · rwa [hSame]
  · rw [hTree]
    exact DeviceTree.isThere_of_extends (DeviceTree.storeDevice_extends _ _ _ _) h

theorem isThere_newDevice_of_proposed (s : Session) {draft : DeviceDraft}
    (hDraft : draft.onMedia = false) : (s.newDevice draft).2.tree.isThere = s.tree.isThere := by
  funext d
  rw [Bool.eq_iff_iff]
  refine ⟨fun h => ?_, fun h => s.isThere_newDevice draft h⟩
  rcases s.newDevice_tree draft with hSame | ⟨name, number, hTree⟩
  · rwa [hSame] at h
  · rw [hTree] at h
    refine (DeviceTree.isThere_storeDevice h).resolve_right ?_
    rw [hDraft]
    exact Bool.false_ne_true

theorem isThere_propose (s : Session) (p : Proposal) :
    (s.propose p).2.tree.isThere = s.tree.isThere := by
  rcases propose_cases s p with
    hSame | ⟨preparation, hPrepare, ⟨_, hSame⟩ | ⟨actions, message, _, hNew⟩⟩
  · rw [hSame]
  · rw [hSame]
    exact (DeviceTree.prepares_of_prepare hPrepare).isThere
  · rw [hNew]
    exact (DeviceTree.prepares_of_prepare hPrepare).isThere

theorem isThere_register (s : Session) (id : ObjectId) :
    (s.register id).2.tree.isThere = s.tree.isThere := by
  rcases register_cases s id with
    hSame | ⟨message, hSame⟩ | ⟨a, t, changes, message, _, _, hApply, hNew⟩
  · rw [hSame]
  · rw [hSame, record_tree]
  · rw [hNew]
    exact DeviceTree.isThere_of_moves (DeviceTree.applyRegistration_ok hApply)

theorem isThere_cancel (s : Session) (id : ObjectId) :
    (s.cancel id).2.tree.isThere = s.tree.isThere := by
  rcases cancel_cases s id with hSame | ⟨message, hSame⟩ | ⟨a, message, _, _, hNew⟩ |
    ⟨a, t, changes, message, _, _, hUndo, hNew⟩
  · rw [hSame]
  · rw [hSame, record_tree]
  · rw [hNew]
    exact s.tree.isThere_undoConstruction a
  · rw [hNew]
    exact (t.isThere_undoConstruction a).trans
      (DeviceTree.isThere_of_moves (DeviceTree.undoRegistration_ok hUndo))

theorem isThere_schedule (s : Session) (p : Proposal) :
    (s.schedule p).2.tree.isThere = s.tree.isThere :=
  schedule_preserves (P := fun s' => s'.tree.isThere = s.tree.isThere)
    (fun s' h => (s'.isThere_propose p).trans h) (fun s' id h => (s'.isThere_register id).trans h)
    (fun s' id h => (s'.isThere_cancel id).trans h) rfl

/-! ## Devices that are there -/

/-- A device is there, and no action creates it. -/
structure Standing (d : ObjectId) (s : Session) : Prop where
  isThere : s.tree.isThere d = true
  uncreated : ∀ id a, s.action? id = some a → a.kind = .createDevice → a.device ≠ d

theorem Standing.of_sameActions (h : Standing d s) (hThere : s'.tree.isThere d = true)
    (hActions : s.SameActions s') : Standing d s' := by
  refine ⟨hThere, fun id a ha hKind => ?_⟩
  obtain ⟨b, hb, hCore⟩ := hActions.exists_core ha
  have hSame := congrArg Action.kind hCore
  have hDevice := congrArg Action.device hCore
  rw [Action.device_core, Action.device_core] at hDevice
  exact hDevice ▸ h.uncreated id b hb (hSame.trans hKind)

theorem Standing.propose (h : Standing d s) (p : Proposal) : Standing d (s.propose p).2 := by
  have hThere : (s.propose p).2.tree.isThere d = true := s.isThere_propose p ▸ h.isThere
  rcases propose_cases s p with
    hSame | ⟨preparation, hPrepare, ⟨_, hSame⟩ | ⟨actions, message, hInsert, hNew⟩⟩
  · rw [hSame]
    exact h
  · rw [hSame] at hThere ⊢
    exact h.of_sameActions hThere fun _ => rfl
  · rw [hNew] at hThere ⊢
    refine ⟨hThere, fun id a ha hKind => ?_⟩
    have hFind : actions.find? id = some a := ha
    rw [Arena.find?_insert? hInsert] at hFind
    split at hFind
    · obtain rfl := Option.some.inj hFind
      rintro rfl
      have hCreated := (DeviceTree.prepares_of_prepare hPrepare).isThere_created hKind
      exact Bool.false_ne_true (hCreated.symm.trans h.isThere)
    · exact h.uncreated id a hFind hKind

theorem Standing.register (h : Standing d s) (id : ObjectId) : Standing d (s.register id).2 :=
  h.of_sameActions (s.isThere_register id ▸ h.isThere) (register_actions s id)

theorem Standing.cancel (h : Standing d s) (id : ObjectId) : Standing d (s.cancel id).2 :=
  h.of_sameActions (s.isThere_cancel id ▸ h.isThere) (cancel_actions s id)

/-- **A device that is there is created by no action.** -/
theorem Standing.schedule (h : Standing d s) (p : Proposal) : Standing d (s.schedule p).2 :=
  schedule_preserves (fun _ h => h.propose p) (fun _ id h => h.register id)
    (fun _ id h => h.cancel id) h

theorem Standing.newDevice (h : Standing d s) (draft : DeviceDraft) :
    Standing d (s.newDevice draft).2 :=
  h.of_sameActions (s.isThere_newDevice draft h.isThere) (sameActions_answerTree s _ _)

theorem Standing.newFormat (h : Standing d s) (typeName mountPoint : String) (onMedia : Bool) :
    Standing d (s.newFormat typeName mountPoint onMedia).2 :=
  h.of_sameActions (s.isThere_newFormat typeName mountPoint onMedia ▸ h.isThere)
    (sameActions_answerTree s _ _)

theorem Standing.not_mem_created (h : Standing d s) : d ∉ s.devicesOf .createDevice := by
  intro hd
  obtain ⟨id, _, hid⟩ := mem_devicesOf.mp hd
  obtain ⟨a, ha, hKind, hDevice⟩ := deviceOf?_eq_some.mp hid
  exact h.uncreated id a ha hKind hDevice

/-- A device that was present and is so still is not destroyed by the plan. -/
theorem Standing.not_mem_destroyed (h : Standing d s) {n : ObjectId → Int} (hTallied : Tallied n s)
    (hOnce : n d ≤ 1) (hd : d ∈ s.tree.order) : d ∉ s.devicesOf .destroyDevice := by
  have hTally := hTallied.tally d
  have hPresent := List.count_pos_iff.mpr hd
  have hCreated := List.count_eq_zero.mpr h.not_mem_created
  unfold Session.tally at hTally
  refine List.count_eq_zero.mp ?_
  omega

end Session

end StoragePlan

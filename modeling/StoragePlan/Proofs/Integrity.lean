import StoragePlan.Proofs.Content
import StoragePlan.Proofs.Facts

/-!
# Referential integrity

The present devices are stored, each listed once and under a name of its own, the set of the present
ids holds what the list holds, and every device carries a stored format and is built on stored
devices (`DeviceTree.Integral`).  The list and the set are written one by one, so their agreement
has to be shown of every call that lets a device in or out (`DeviceTree.InStep`).  Formats and
members come and go, and what was displaced is put back from the id that an action remembers.

* `furnished_kept`: the formats that devices carry, and those that can come back to one, **stay
  stored**, while there are ids left for the blank formats of new devices.
* `integral_performAll`: so a tree **keeps its integrity over every run that overwrites nothing**,
  and its check finds no name that is used twice and no device without a format.
-/

namespace StoragePlan

namespace DeviceTree

variable {t t' : DeviceTree} {f : ObjectId}

/-- Every reference in a tree leads to what is stored.  The list and the set of the present devices
agree, and the devices are told apart by their ids and by their names. -/
structure Integral (t : DeviceTree) : Prop where
  nodup : t.order.Nodup
  listed : ∀ d, t.contains d = true ↔ d ∈ t.order
  present : t.present.map Device.id = t.order
  names : (t.present.map Device.name).Nodup
  formats : ∀ device ∈ t.devices.items, (t.format? device.formatId).isSome
  parents : ∀ device ∈ t.devices.items, ∀ p ∈ device.parents, (t.device? p).isSome

/-! ## The present devices -/

/-- What is read of the present devices, when they are stored. -/
theorem map_filterMap_device? {β : Type} {field : Device → β} {read : ObjectId → β}
    (hRead : ∀ d device, t.device? d = some device → field device = read d) {ids : List ObjectId}
    (hStored : ∀ d ∈ ids, (t.device? d).isSome) :
    (ids.filterMap t.device?).map field = ids.map read := by
  induction ids with
  | nil => rfl
  | cons d ids ih =>
    obtain ⟨device, hd⟩ := Option.isSome_iff_exists.mp (hStored d List.mem_cons_self)
    rw [List.filterMap_cons_some hd, List.map_cons, List.map_cons, hRead d device hd,
      ih fun e he => hStored e (List.mem_cons_of_mem d he)]

theorem map_id_present (hStored : ∀ d ∈ t.order, (t.device? d).isSome) :
    t.present.map Device.id = t.order := by
  have hIds : t.present.map Device.id = t.order.map id :=
    map_filterMap_device? (fun _ _ hd => Arena.id_of_find? hd) hStored
  rw [hIds, List.map_id]

theorem Linked.nodup_names (h : t.Linked) : (t.present.map Device.name).Nodup := by
  have hNames : t.present.map Device.name = t.order.map t.nameOf :=
    map_filterMap_device? (fun d device hd => by rw [nameOf, hd]; rfl) h.stored
  rw [hNames]
  exact h.inStep.nodup.map_on h.names

/-! ## The check -/

/-- Present devices with names of their own, which carry stored formats, give no cause to report
either. -/
theorem code_ne_of_mem_issuesFrom {earlier : List String} {devices : List Device}
    (hNames : (earlier ++ devices.map Device.name).Nodup)
    (hFormats : ∀ device ∈ devices, (t.format? device.formatId).isSome) :
    ∀ issue ∈ t.issuesFrom earlier devices,
      issue.code ≠ "DuplicateDeviceName" ∧ issue.code ≠ "FormatMissing" := by
  induction devices generalizing earlier with
  | nil => exact fun _ h => absurd h List.not_mem_nil
  | cons device devices ih =>
    intro issue hIssue
    rcases List.mem_append.mp hIssue with hIssue | hIssue
    · rcases mem_deviceIssues.mp hIssue with ⟨hTwice, _⟩ | ⟨_, rfl⟩ | ⟨_, rfl⟩ | ⟨hMissing, _⟩
      · exact absurd rfl ((List.nodup_append.mp hNames).2.2 _ hTwice _ List.mem_cons_self)
      · simp [Issue.code]
      · simp [Issue.code]
      · have hStored := hFormats device List.mem_cons_self
        rw [hMissing] at hStored
        cases hStored
    · refine ih ?_ (fun other hOther => hFormats other (List.mem_cons_of_mem _ hOther)) issue hIssue
      rwa [List.append_assoc]

/-! ## Formats stay stored -/

theorem KeepsFacts.isSome_format (h : t.KeepsFacts t') (hf : (t.format? f).isSome) :
    (t'.format? f).isSome := by
  have hIds : ∀ t : DeviceTree,
      t.formats.ids = (t.formats.items.map Format.facts).map Format.id := by
    intro t
    rw [List.map_map]
    rfl
  rw [format?, Arena.isSome_find?_iff, hIds] at hf ⊢
  exact (h.formats.map Format.id).subset hf

end DeviceTree

namespace Session

variable {s s' : Session}

/-- The formats that devices carry, and those that actions took off them, are stored. -/
def Furnished (s : Session) : Prop := s.CarriesOnly fun f => (s.tree.format? f).isSome

theorem furnished_empty : ({} : Session).Furnished :=
  ⟨DeviceTree.carriesOnly_empty _, fun _ _ h => by cases h⟩

theorem Furnished.of_keepsFacts (h : s.Furnished) (hKeeps : s.tree.KeepsFacts s'.tree) :
    s.CarriesOnly fun f => (s'.tree.format? f).isSome :=
  h.mono fun _ hf => hKeeps.isSome_format hf

theorem Furnished.answerTree (h : s.Furnished) {result : Except Refusal (ObjectId × DeviceTree)}
    {changes : ObjectId → Changes}
    (hResult : ∀ id t, result = .ok (id, t) → s.tree.KeepsFacts t ∧
      (s.tree.CarriesOnly (fun f => (t.format? f).isSome) →
        t.CarriesOnly fun f => (t.format? f).isSome)) :
    (s.answerTree result changes).2.Furnished := by
  cases hAnswer : result with
  | error cause => exact h
  | ok answer =>
    obtain ⟨hKeeps, hCarries⟩ := hResult answer.1 answer.2 hAnswer
    have hBefore : s.CarriesOnly fun f => (answer.2.format? f).isSome :=
      h.mono fun _ hf => hKeeps.isSome_format hf
    exact ⟨hCarries hBefore.tree, hBefore.displaced⟩

/-- The blank format of a new device is stored, and so is the one that the device comes with. -/
theorem Furnished.adoptDevice (h : s.Furnished) (hNumbered : s.Numbered 0) (hLeft : s.IdsLeft)
    {draft : DeviceDraft} {typeName mountPoint : String}
    (hAfter : (s.adoptDevice draft typeName mountPoint).2.IdsLeft) :
    (s.adoptDevice draft typeName mountPoint).2.Furnished := by
  have hBefore := h.of_keepsFacts (s.keepsFacts_adoptDevice draft typeName mountPoint)
  have hNext := hNumbered.next_ne_zero hLeft
  rcases adoptDevice_cases s draft typeName mountPoint with
    ⟨_, hSame⟩ | ⟨id, bare, t, hNew, hFormat, hAdopted⟩
  · rw [hSame]
    exact h
  · have hFew := (hNumbered.le_adoptDevice typeName mountPoint hNew).trans_lt hAfter
    have hBare := ((DeviceTree.Numbered.newDevice hNumbered hNew).2.notMem hFew).1
    have hCarries : ∀ F : ObjectId → Prop, s.tree.CarriesOnly F →
        (∀ f, (t.format? f).isSome → F f) → t.CarriesOnly F := by
      intro F hF hStored
      obtain ⟨name, number, rfl⟩ := DeviceTree.eq_storeDevice_of_newDevice hNew
      rcases hFormat with rfl | hFormat
      · exact hF.storeDevice hStored fun hZero => absurd hZero hNext
      · refine DeviceTree.CarriesOnly.adoptFormat ?_ hFormat hStored fun hZero => absurd hZero hBare
        refine hF.storeDevice (fun f hf => hStored f ?_) fun hZero => absurd hZero hNext
        exact (DeviceTree.keepsFacts_adoptFormat hFormat).isSome_format hf
    rcases hAdopted with ⟨_, hTree⟩ | ⟨_, _, t', hAdd, hTree⟩
    · rw [hTree] at hBefore ⊢
      exact ⟨hCarries _ hBefore.tree fun _ hf => hf, hBefore.displaced⟩
    · obtain ⟨_, _, _, rfl⟩ := DeviceTree.add_ok hAdd
      rw [hTree] at hBefore ⊢
      exact ⟨hCarries _ hBefore.tree fun _ hf => hf, hBefore.displaced⟩

theorem furnished_kept : KeptWhileLeft Furnished where
  log := fun _ _ _ h => ⟨h.tree, h.displaced⟩
  newDevice := fun s draft hNumbered hLeft h _ => h.answerTree fun id t hNew => by
    refine ⟨DeviceTree.keepsFacts_newDevice hNew, fun hCarries => ?_⟩
    obtain ⟨name, number, rfl⟩ := DeviceTree.eq_storeDevice_of_newDevice hNew
    exact hCarries.storeDevice (fun _ hf => hf) fun hZero =>
      absurd hZero (hNumbered.next_ne_zero hLeft)
  newFormat := fun s typeName mountPoint onMedia h => h.answerTree fun id t hNew => by
    exact ⟨DeviceTree.keepsFacts_newFormat hNew, fun hCarries => hCarries.newFormat hNew⟩
  addDevice := fun s id h => h.answerTree fun _ t hAdd => by
    obtain ⟨t, hAdd, hPair⟩ := map_ok hAdd
    cases hPair
    obtain ⟨_, _, _, rfl⟩ := DeviceTree.add_ok hAdd
    exact ⟨.of_same rfl rfl, fun hCarries => hCarries⟩
  removeDevice := fun s id force h => h.answerTree fun _ t hRemove => by
    obtain ⟨t, hRemove, hPair⟩ := map_ok hRemove
    cases hPair
    rw [(DeviceTree.remove_eq hRemove).2]
    exact ⟨.of_same rfl rfl, fun hCarries => hCarries⟩
  adoptDevice := fun _ _ _ _ hNumbered hLeft h hAfter => h.adoptDevice hNumbered hLeft hAfter
  propose := fun s p hNumbered hLeft h _ =>
    (h.of_keepsFacts (keepsFacts_propose (.refl _) p)).propose (fun _ hf => hf) fun hZero =>
      absurd hZero (hNumbered.next_ne_zero hLeft)
  register := fun s id h => (h.of_keepsFacts (keepsFacts_register (.refl _) id)).register id
  cancel := fun s id h => (h.of_keepsFacts (keepsFacts_cancel (.refl _) id)).cancel id
  pruneAction := fun s reason id h =>
    CarriesOnly.of_sameActions h (sameActions_drop s id .pruned) h.tree

/-! ## Runs -/

theorem Linked.integral (h : s.Linked) (hFurnished : s.Furnished) : s.tree.Integral where
  nodup := h.tree.inStep.nodup
  listed := h.tree.inStep.contains_iff
  present := DeviceTree.map_id_present h.tree.stored
  names := h.tree.nodup_names
  formats := fun device hDevice => by
    have hd : s.tree.device? device.id = some device := (Arena.mem_iff_find? _ _).mp hDevice
    exact hFurnished.tree device.id _ (by rw [DeviceTree.formatIdOf?, hd]; rfl)
  parents := fun device hDevice p hp => by
    have hd : s.tree.device? device.id = some device := (Arena.mem_iff_find? _ _).mp hDevice
    exact h.tree.parents device.id p (DeviceTree.builtOn_iff.mpr ⟨device, hd, hp⟩)

/-- The check of a session finds no broken reference in a tree that has none. -/
theorem code_ne_of_mem_validate (h : s.tree.Integral) : ∀ issue ∈ s.validate,
    issue.code ≠ "DuplicateDeviceName" ∧ issue.code ≠ "FormatMissing" := by
  have hFormats : ∀ device ∈ s.tree.present, (s.tree.format? device.formatId).isSome := by
    intro device hDevice
    obtain ⟨_, hd⟩ := DeviceTree.mem_present.mp hDevice
    exact h.formats device (Arena.mem_of_find? hd)
  intro issue hIssue
  rcases List.mem_append.mp hIssue with hIssue | hIssue
  · rcases List.mem_append.mp hIssue with hIssue | hIssue
    · exact DeviceTree.code_ne_of_mem_issuesFrom (List.nil_append _ ▸ h.names) hFormats issue hIssue
    · obtain ⟨a, _, rfl⟩ := List.mem_map.mp hIssue
      simp [Issue.code]
  · obtain ⟨d, _, rfl⟩ := List.mem_map.mp hIssue
    simp [Issue.code]

/-- **Referential integrity.**  After any run that overwrites nothing, forced removals and devices
put straight into the tree included, with fewer objects stored than there are ids: the list of the
present devices has no duplicates and names what the set of them contains, they are stored and have
different names, and the format of every stored device and all that it is built on are stored.  So
the check of the session reports no name that is used twice and no device without a format. -/
theorem integral_performAll (commands : List Command)
    (hOverwrites : ∀ command ∈ commands, command.overwrites = false)
    (hFew : (({} : Session).performAll commands).storedIds.length < 2 ^ 64 - 1) :
    let s := ({} : Session).performAll commands
    s.tree.Integral ∧ ∀ issue ∈ s.validate,
      issue.code ≠ "DuplicateDeviceName" ∧ issue.code ≠ "FormatMissing" := by
  intro s
  have hLinked : s.Linked := linked_empty.performAll hOverwrites
  have hFurnished : s.Furnished :=
    (furnished_kept.performAll ⟨numbered_empty, fun _ => furnished_empty⟩ hOverwrites).holds hFew
  have hIntegral := hLinked.integral hFurnished
  exact ⟨hIntegral, code_ne_of_mem_validate hIntegral⟩

/-- A second partition takes the name of one that was destroyed, whose destruction cannot be
withdrawn then, and the disk of both is removed by force. -/
theorem integral_performAll_of_reused_name :
    let commands : List Command := [
      .adoptDevice { name := "sda", kind := .disk, size := gibibytes 100 } "disklabel" "",
      .adoptDevice { name := "sda1", kind := .partition, size := gibibytes 10, parents := [2] }
        "ext4" "/",
      .schedule (.destroyDevice 5),
      .newDevice { name := "sda1", kind := .partition, size := gibibytes 20, parents := [2] },
      .addDevice 9, .cancel 7, .schedule (.destroyFormat 5), .propose (.destroyFormat 9),
      .removeDevice 2 true, .prune]
    let s := ({} : Session).performAll commands
    ((∀ command ∈ commands, command.overwrites = false) ∧ s.storedIds.length < 2 ^ 64 - 1 ∧
      s.tree.order = [9] ∧ [2, 5, 9].map s.tree.contains = [false, false, true] ∧
      s.validate.map Issue.code = ["ParentNotInTree"]) ∧
    s.tree.Integral ∧ ∀ issue ∈ s.validate,
      issue.code ≠ "DuplicateDeviceName" ∧ issue.code ≠ "FormatMissing" := by
  intro commands s
  have hOverwrites : ∀ command ∈ commands, command.overwrites = false := by decide
  have hFew : s.storedIds.length < 2 ^ 64 - 1 := by decide +kernel
  exact ⟨⟨hOverwrites, hFew, by decide +kernel, by decide +kernel, by decide +kernel⟩,
    integral_performAll commands hOverwrites hFew⟩

end Session

end StoragePlan

import StoragePlan.Proofs.Numbering
import StoragePlan.Proofs.Presence

/-!
# The balance of the plan

A device is in the tree when it was taken in or the plan creates it, unless the plan destroys it.
Creations and destructions of one device can be registered and withdrawn in any order: each call
moves its device and the registry together, so the tally of the device only changes when a device is
taken in (`Tallied.perform`).

* `Tallied.performAll`: what a run adds to the tallies is **what it takes in**.
* `nodup_adoptedAll`: no device is taken in twice while ids are left.
* `contains_eq_balance`: the devices of the tree are the **balance of the registered actions**.
-/

namespace StoragePlan

/-- Whether a call moves devices by registered actions only, or takes one in. -/
def Command.balances : Command → Bool
  | newDevice _ | newFormat .. | adoptDevice .. | propose _ | schedule _ | register _ | cancel _
  | registerOrCancel _ | removeStack .. | sort | clearLog => true
  | _ => false

theorem Command.overwrites_of_balances {command : Command} (h : command.balances = true) :
    command.overwrites = false := by
  cases command <;> first | rfl | cases h

namespace Session

/-- The device that a command takes in. -/
def adopted? (s : Session) : Command → Option ObjectId
  | .adoptDevice draft typeName mountPoint =>
    let (o, _) := s.adoptDevice draft typeName mountPoint
    if o.ok then some o.value else none
  | _ => none

/-- The devices that a run takes in, in order. -/
def adoptedAll (s : Session) : List Command → List ObjectId
  | [] => []
  | command :: commands =>
    (s.adopted? command).toList ++ (s.perform command).2.adoptedAll commands

variable {s : Session} {n : ObjectId → Int} {draft : DeviceDraft} {typeName mountPoint : String}

/-! ## What a run takes in -/

/-- A device that enters the tree without an action raises its tally. -/
theorem Tallied.adds (h : Tallied n s) {t t' : DeviceTree} {id : ObjectId}
    (hSame : s.tree.SameRecords t) (hAdd : t.add id = .ok t') :
    Tallied (fun d => n d + [id].count d) { s with tree := t' } := by
  refine ⟨h.listed.of_same rfl rfl, (h.inStep.of_same hSame).add hAdd, fun d => ?_⟩
  obtain ⟨_, _, _, rfl⟩ := DeviceTree.add_ok hAdd
  have hBefore := h.tally d
  unfold Session.tally at hBefore ⊢
  have hCount : (t.order ++ [id]).count d = s.tree.order.count d + [id].count d := by
    rw [hSame.order]
    exact List.count_append
  show ((t.order ++ [id]).count d : Int) + (s.devicesOf .destroyDevice).count d
    - (s.devicesOf .createDevice).count d = _
  omega

theorem Tallied.adoptDevice (h : Tallied n s) (draft : DeviceDraft)
    (typeName mountPoint : String) :
    Tallied (fun d => n d + (s.adopted? (.adoptDevice draft typeName mountPoint)).toList.count d)
      (s.adoptDevice draft typeName mountPoint).2 := by
  unfold adopted?
  rcases adoptDevice_cases s draft typeName mountPoint with
    ⟨hOk, hSame⟩ | ⟨id, bare, t, hNew, hFormat, hAfter⟩
  · simpa [hOk, hSame] using h
  · have hLayout := DeviceTree.SameLayout.of_adopted hFormat
    obtain ⟨name, number, rfl⟩ := DeviceTree.eq_storeDevice_of_newDevice hNew
    have hRecords := (s.tree.sameRecords_storeDevice _ name number).trans hLayout.records
    rcases hAfter with ⟨hOk, hAfter⟩ | ⟨hOk, hValue, t', hAdd, hAfter⟩
    · rw [hAfter]
      have hSame : Tallied n { s with tree := t } :=
        h.of_same (h.listed.of_same rfl rfl) hRecords (fun _ => rfl) rfl
      simpa [hOk] using hSame
    · rw [hAfter]
      simpa [hOk, hValue] using h.adds hRecords hAdd

/-- A call raises the tally of the device that it takes in, and no other one. -/
theorem Tallied.perform (h : Tallied n s) {command : Command}
    (hBalances : command.balances = true) :
    Tallied (fun d => n d + (s.adopted? command).toList.count d) (s.perform command).2 := by
  have hNone : ∀ {s'}, Tallied n s' →
      Tallied (fun d => n d + (none : Option ObjectId).toList.count d) s' := by
    intro s' h'
    simpa using h'
  cases command with
  | adoptDevice draft typeName mountPoint => exact h.adoptDevice draft typeName mountPoint
  | newDevice draft => exact hNone (h.newDevice draft)
  | newFormat typeName mountPoint onMedia => exact hNone (h.newFormat typeName mountPoint onMedia)
  | propose p => exact hNone (h.propose p)
  | schedule p => exact hNone (h.schedule p)
  | register id => exact hNone (h.register id)
  | cancel id => exact hNone (h.cancel id)
  | registerOrCancel id =>
    exact hNone (registerOrCancel_preserves (fun _ id h => h.register id)
      (fun _ id h => h.cancel id) h id)
  | removeStack id includeSelf =>
    exact hNone (removeStack_preserves (fun _ _ h => h.schedule _) (fun _ _ h => h.schedule _) h id
      includeSelf)
  | sort =>
    obtain ⟨level, message, hSort⟩ := s.sort_cases
    have hLog : Tallied n (s.record level .sort 0 message) :=
      h.of_same (h.listed.record _ _ _ _) (.refl _) (fun _ => rfl) rfl
    exact hNone (hSort ▸ hLog)
  | clearLog => exact hNone (h.of_same (h.listed.of_same rfl rfl) (.refl _) (fun _ => rfl) rfl)
  | _ => cases hBalances

/-- **A run raises the tally of each device as often as it takes the device in.** -/
theorem Tallied.performAll (h : Tallied n s) {commands : List Command}
    (hBalances : ∀ command ∈ commands, command.balances = true) :
    Tallied (fun d => n d + (s.adoptedAll commands).count d) (s.performAll commands) := by
  induction commands generalizing s n with
  | nil => simpa [adoptedAll, Session.performAll] using h
  | cons command commands ih =>
    have hFirst := h.perform (hBalances command List.mem_cons_self)
    have hRest := fun other hOther => hBalances other (List.mem_cons_of_mem command hOther)
    have hAll := ih hFirst hRest
    simpa [adoptedAll, Session.performAll, List.count_append, Int.add_assoc] using hAll

/-! ## No device is taken in twice -/

variable {m : Nat} {commands : List Command}

/-- A device that is taken in is stored by that call, while ids are left. -/
theorem adopted?_fresh (h : s.Numbered m) {command : Command} {d : ObjectId}
    (hFew : (s.perform command).2.storedIds.length < 2 ^ 64 - 1)
    (hd : d ∈ s.adopted? command) :
    d ∉ s.tree.devices.ids ∧ d ∈ (s.perform command).2.tree.devices.ids := by
  cases command with
  | adoptDevice draft typeName mountPoint =>
    replace hd : s.adopted? (.adoptDevice draft typeName mountPoint) = some d := hd
    unfold adopted? at hd
    change (s.adoptDevice draft typeName mountPoint).2.storedIds.length < _ at hFew
    show _ ∧ d ∈ (s.adoptDevice draft typeName mountPoint).2.tree.devices.ids
    rcases adoptDevice_cases s draft typeName mountPoint with
      ⟨hOk, _⟩ |
      ⟨id, bare, t, hNew, hFormat, ⟨hOk, _⟩ | ⟨hOk, hValue, t', hAdd, hAfter⟩⟩
    · simp [hOk] at hd
    · simp [hOk] at hd
    · simp only [hOk, if_true, hValue, Option.some.injEq] at hd
      subst hd
      rw [hAfter] at hFew ⊢
      have hBare := DeviceTree.Numbered.newDevice h hNew
      have hLater : t'.Numbered s.actions.ids (bare.storedIds ++ s.actions.ids).length :=
        (DeviceTree.Numbered.of_adopted ⟨le_refl _, hBare.2⟩ hFormat).of_same
          (DeviceTree.add_ids hAdd)
      obtain ⟨_, _, name, number, hStore⟩ := DeviceTree.newDevice_ok hNew
      obtain ⟨rfl, rfl⟩ := Prod.mk.inj hStore
      obtain ⟨hFresh, hStored⟩ :=
        DeviceTree.Numbered.storeDevice_fresh h _ name number (hLater.1.trans_lt hFew)
      refine ⟨hFresh, ?_⟩
      rw [← Arena.isSome_find?_iff] at hStored ⊢
      exact (DeviceTree.add_ids hAdd).isSome_device.mpr
        ((DeviceTree.SameLayout.of_adopted hFormat).extends.keepsNames.isSome hStored)
  | _ => cases hd

/-- What is stored stays stored. -/
theorem devices_ids_subset {command : Command} (hOverwrites : command.overwrites = false) :
    s.tree.devices.ids ⊆ (s.perform command).2.tree.devices.ids := by
  intro d hd
  rw [← Arena.isSome_find?_iff] at hd ⊢
  cases hPut : s.putBack? command with
  | none => exact (perform_edits hOverwrites hPut).isSome hd
  | some removal =>
    obtain ⟨_, a, _, _, _, hTree⟩ := perform_of_putBack hPut
    rw [hTree]
    exact (s.tree.undoConstruction_ids a).isSome_device.mpr hd

/-- While ids are left, the devices that a run takes in are new and differ from each other. -/
theorem nodup_adoptedAll (h : s.Numbered m)
    (hBalances : ∀ command ∈ commands, command.balances = true)
    (hFew : (s.performAll commands).storedIds.length < 2 ^ 64 - 1) :
    (s.adoptedAll commands).Nodup ∧ ∀ d ∈ s.adoptedAll commands, d ∉ s.tree.devices.ids := by
  have hOverwrites := fun command hCommand =>
    Command.overwrites_of_balances (hBalances command hCommand)
  have hAlong := h.along_few hOverwrites hFew
  induction commands generalizing s with
  | nil => exact ⟨List.nodup_nil, fun _ hd => absurd hd List.not_mem_nil⟩
  | cons command commands ih =>
    have hFirst := List.mem_cons_self (a := command) (l := commands)
    have hRest := fun other (hOther : other ∈ commands) =>
      hBalances other (List.mem_cons_of_mem command hOther)
    obtain ⟨hNodup, hNew⟩ := ih (h.perform (hOverwrites command hFirst)) hRest hFew
      (fun other hOther => hOverwrites other (List.mem_cons_of_mem command hOther)) hAlong.2
    have hFresh : ∀ d ∈ (s.adopted? command).toList,
        d ∉ s.tree.devices.ids ∧ d ∈ (s.perform command).2.tree.devices.ids :=
      fun d hd => adopted?_fresh h hAlong.1 (Option.mem_toList.mp hd)
    refine ⟨List.nodup_append.mpr ⟨?_, hNodup, ?_⟩, fun d hd => ?_⟩
    · cases s.adopted? command <;> simp
    · rintro d hd _ hd' rfl
      exact hNew d hd' (hFresh d hd).2
    · rcases List.mem_append.mp hd with hd | hd
      · exact (hFresh d hd).1
      · exact fun hStored => hNew d hd (devices_ids_subset (hOverwrites command hFirst) hStored)

/-! ## The balance -/

theorem tallied_empty : Tallied (fun _ => 0) {} :=
  ⟨listed_empty, DeviceTree.inStep_empty, fun _ => rfl⟩

/-- **The tree holds the balance of the registered actions**: what was taken in and what the plan
creates, less what the plan destroys. -/
theorem contains_eq_balance {commands : List Command}
    (hBalances : ∀ command ∈ commands, command.balances = true)
    (hFew : (({} : Session).performAll commands).storedIds.length < 2 ^ 64 - 1) (d : ObjectId) :
    let s := ({} : Session).performAll commands
    (if s.tree.contains d then 1 else 0 : Int)
      = (if d ∈ ({} : Session).adoptedAll commands then 1 else 0)
        + (s.devicesOf .createDevice).count d - (s.devicesOf .destroyDevice).count d := by
  intro s
  have hTallied : Tallied _ s := tallied_empty.performAll hBalances
  have hTally := hTallied.tally d
  have hPresent : s.tree.contains d = true ↔ d ∈ s.tree.order := hTallied.inStep.contains_iff d
  have hOnce := hTallied.inStep.nodup.count (a := d)
  have hTaken := (nodup_adoptedAll numbered_empty hBalances hFew).1.count (a := d)
  unfold Session.tally at hTally
  simp only [hPresent]
  split at hOnce <;> split at hTaken <;> simp only [*, if_true, if_false] <;> omega

/-- A partition is created, destroyed and created again, and then the first creation is
withdrawn. -/
theorem contains_eq_balance_of_older_withdrawn :
    let commands : List Command := [
      .adoptDevice { name := "sda", kind := .disk } "" "",
      .newDevice { name := "sda1", kind := .partition, parents := [2] },
      .schedule (.createDevice 4), .schedule (.destroyDevice 4), .schedule (.createDevice 4),
      .cancel 5]
    let s := ({} : Session).performAll commands
    ((∀ command ∈ commands, command.balances = true) ∧ s.storedIds.length < 2 ^ 64 - 1 ∧
      s.registry = [6, 7] ∧ s.tree.order = [2] ∧ ({} : Session).adoptedAll commands = [2]) ∧
    (if s.tree.contains 4 then 1 else 0 : Int)
      = (if 4 ∈ ({} : Session).adoptedAll commands then 1 else 0)
        + (s.devicesOf .createDevice).count 4 - (s.devicesOf .destroyDevice).count 4 := by
  intro commands s
  have hBalances : ∀ command ∈ commands, command.balances = true := by decide
  have hFew : s.storedIds.length < 2 ^ 64 - 1 := by decide +kernel
  exact ⟨⟨hBalances, hFew, by decide +kernel, by decide +kernel, by decide +kernel⟩,
    contains_eq_balance hBalances hFew 4⟩

end Session

end StoragePlan

import Mathlib.Data.List.InsertIdx
import StoragePlan.Proofs.Calls
import StoragePlan.Proofs.SoundTree

/-!
# Scheduling an action and taking it back

`Prepares` lists what each of the eight proposals is prepared to, with all that its checks
guarantee.  `Scheduled` and `Cancelled` list the results of the two calls that a plan is made of,
refusals included, up to the log (`Same`).

* `Prepares.undone`: taking back a construction **restores what the construction changed**; it may
  leave a new blank format behind.
* `scheduled`, `cancelled`: every call is one of the listed results.
-/

namespace StoragePlan

namespace DeviceTree

variable {t t' t'' : DeviceTree} {p : Preparation} {a : Action}

/-- What a proposal that passes its checks is prepared to. -/
inductive Prepares (t : DeviceTree) : Preparation → Prop
  | createDevice {device : Device} (hd : t.device? device.id = some device)
      (hProposed : device.onMedia = false) :
      Prepares t { device := device.id, operation := .createDevice, tree := t }
  | destroyDevice {device : Device} (hd : t.device? device.id = some device) :
      Prepares t { device := device.id, operation := .destroyDevice, tree := t }
  | createFormat {device : Device} {format : ObjectId} (hd : t.device? device.id = some device)
      (hFormat : (t.format? format).isSome) :
      Prepares t {
        device := device.id
        operation := .createFormat format device.formatId
        tree := t.setFormat device.id format
        updated := [device.id] }
  | destroyFormat {device : Device} (hd : t.device? device.id = some device) :
      Prepares t {
        device := device.id
        operation := .destroyFormat device.formatId t.ids.next
        tree := (t.storeFormat .blank "" false).2.setFormat device.id t.ids.next
        updated := [device.id] }
  | resizeDevice {device : Device} {size : ByteSize} (hd : t.device? device.id = some device)
      (hSize : t.deviceSizeRefusal? device size = none) :
      Prepares t {
        device := device.id
        operation := .resizeDevice size device.targetSize (.between device.currentSize size)
        tree := t.setTarget device.id size
        updated := [device.id] }
  | resizeFormat {device : Device} {format : Format} {size : ByteSize}
      (hd : t.device? device.id = some device) (hFormat : t.content? device.id = some format)
      (hMedia : format.onMedia = true)
      (hSize : formatSizeRefusal? format (t.contentSize device.id) size = none) :
      Prepares t {
        device := device.id
        operation := .resizeFormat format.id size format.targetSize
          (.between (t.contentSize device.id) size)
        tree := t.setFormatTarget format.id size
        updated := [format.id] }
  | addMember {container member : Device} (hc : t.device? container.id = some container)
      (hm : t.device? member.id = some member) (hne : container.id ≠ member.id)
      (hFree : t.dependsOn member.id container.id = false)
      (hNew : member.id ∉ container.parents) :
      Prepares t {
        device := member.id
        operation := .addMember container.id
        tree := t.changeParents container.id fun parents => parents ++ [member.id]
        updated := [container.id] }
  | removeMember {container member : Device} (hc : t.device? container.id = some container)
      (hm : t.device? member.id = some member) (hMember : member.id ∈ container.parents) :
      Prepares t {
        device := member.id
        operation := .removeMember container.id (container.parents.idxOf member.id)
        tree := t.changeParents container.id fun parents => parents.erase member.id
        updated := [container.id] }

theorem target_self {id : ObjectId} {device : Device} (h : t.target id = .ok device) :
    t.device? device.id = some device := by
  have hd := target_ok h
  obtain rfl : device.id = id := Arena.id_of_find? hd
  exact hd

theorem prepares_of_prepare {proposal : Proposal} (h : t.prepare proposal = .ok p) :
    t.Prepares p := by
  cases proposal with
  | createDevice id =>
    obtain ⟨device, hTarget, h⟩ := bind_ok h
    cases hMedia : device.onMedia with
    | true =>
      rw [hMedia] at h
      cases h
    | false =>
      rw [hMedia] at h
      cases h
      exact .createDevice (target_self hTarget) hMedia
  | destroyDevice id =>
    obtain ⟨device, hTarget, h⟩ := bind_ok h
    cases h
    exact .destroyDevice (target_self hTarget)
  | createFormat id format =>
    obtain ⟨device, hTarget, h⟩ := bind_ok h
    cases hFormat : t.format? format with
    | none =>
      rw [hFormat] at h
      cases h
    | some stored =>
      rw [hFormat] at h
      cases h
      exact .createFormat (target_self hTarget) (by rw [hFormat]; rfl)
  | destroyFormat id =>
    obtain ⟨device, hTarget, h⟩ := bind_ok h
    cases h
    exact .destroyFormat (target_self hTarget)
  | resizeDevice id size =>
    obtain ⟨device, hTarget, h⟩ := bind_ok h
    unfold prepareResizeDevice at h
    split at h
    · cases h
    · cases h
      exact .resizeDevice (target_self hTarget) ‹_›
  | resizeFormat id size =>
    obtain ⟨device, hTarget, h⟩ := bind_ok h
    unfold prepareResizeFormat at h
    split at h
    · cases h
    · rename_i format hContent
      dsimp only at h
      split at h
      · cases h
      · cases h
        obtain ⟨hContent, hMedia⟩ := Option.filter_eq_some_iff.mp hContent
        exact .resizeFormat (target_self hTarget) hContent hMedia ‹_›
  | addMember container member =>
    obtain ⟨container, hContainer, h⟩ := bind_ok h
    obtain ⟨member, hMember, h⟩ := bind_ok h
    unfold prepareAddMember at h
    split at h
    · cases h
    · rename_i hCycle
      split at h
      · cases h
      · cases h
        rw [not_or, Bool.not_eq_true] at hCycle
        exact .addMember (target_self hContainer) (target_self hMember) hCycle.1 hCycle.2 ‹_›
  | removeMember container member =>
    obtain ⟨container, hContainer, h⟩ := bind_ok h
    obtain ⟨member, hMember, h⟩ := bind_ok h
    unfold prepareRemoveMember at h
    split at h
    · cases h
    · cases h
      exact .removeMember (target_self hContainer) (target_self hMember) (not_not.mp ‹_›)

/-- A member that was found acceptable joins the end of its container. -/
theorem prepare_addMember_ok {c m : ObjectId} (h : t.prepare (.addMember c m) = .ok p) :
    (t.device? c).isSome ∧ (t.device? m).isSome ∧
    p = {
      device := m
      operation := .addMember c
      tree := t.changeParents c fun parents => parents ++ [m]
      updated := [c] } := by
  obtain ⟨container, hContainer, hRest⟩ := bind_ok h
  obtain ⟨member, hMember, hPrepare⟩ := bind_ok hRest
  obtain rfl : container.id = c := Arena.id_of_find? (target_ok hContainer)
  obtain rfl : member.id = m := Arena.id_of_find? (target_ok hMember)
  refine ⟨Option.isSome_of_eq_some (target_ok hContainer),
    Option.isSome_of_eq_some (target_ok hMember), ?_⟩
  unfold prepareAddMember at hPrepare
  split at hPrepare
  · cases hPrepare
  · split at hPrepare
    · cases hPrepare
    · cases hPrepare
      rfl

/-- A member leaves its container with the first place that it takes there. -/
theorem prepare_removeMember_ok {c m : ObjectId} (h : t.prepare (.removeMember c m) = .ok p) :
    (t.device? c).isSome ∧ (t.device? m).isSome ∧ m ∈ t.parentsOf c ∧
    p = {
      device := m
      operation := .removeMember c ((t.parentsOf c).idxOf m)
      tree := t.changeParents c fun parents => parents.erase m
      updated := [c] } := by
  obtain ⟨container, hContainer, hRest⟩ := bind_ok h
  obtain ⟨member, hMember, hPrepare⟩ := bind_ok hRest
  have hc := target_ok hContainer
  obtain rfl : container.id = c := Arena.id_of_find? hc
  obtain rfl : member.id = m := Arena.id_of_find? (target_ok hMember)
  have hParents : t.parentsOf container.id = container.parents := by
    rw [parentsOf, hc]
    rfl
  refine ⟨Option.isSome_of_eq_some hc, Option.isSome_of_eq_some (target_ok hMember), ?_⟩
  rw [hParents]
  unfold prepareRemoveMember at hPrepare
  split at hPrepare
  · cases hPrepare
  · cases hPrepare
    exact ⟨not_not.mp ‹_›, rfl⟩

/-! ## Taking back a construction -/

/-- The same devices are stored and present, and every format stored in `t` is in `t'` as it is. -/
structure SameState (t t' : DeviceTree) : Prop where
  devices : t'.devices = t.devices
  present : ∀ d, d ∈ t'.order ↔ d ∈ t.order
  presence : t'.presence = t.presence
  formats : ∀ f format, t.format? f = some format → t'.format? f = some format

theorem SameState.refl (t : DeviceTree) : t.SameState t :=
  ⟨rfl, fun _ => Iff.rfl, rfl, fun _ _ h => h⟩

theorem SameState.trans (h : t.SameState t') (h' : t'.SameState t'') : t.SameState t'' :=
  ⟨h'.devices.trans h.devices, fun d => (h'.present d).trans (h.present d),
    h'.presence.trans h.presence,
    fun f format hf => h'.formats f format (h.formats f format hf)⟩

theorem SameState.device? (h : t.SameState t') (d : ObjectId) : t'.device? d = t.device? d :=
  congrArg (Arena.find? · d) h.devices

theorem SameState.parentsOf (h : t.SameState t') (d : ObjectId) :
    t'.parentsOf d = t.parentsOf d := by
  unfold DeviceTree.parentsOf
  rw [h.device?]

theorem eraseLast_append (x : ObjectId) (l : List ObjectId) : eraseLast x (l ++ [x]) = l := by
  simp [eraseLast]

theorem insertAt_idxOf_erase {x : ObjectId} {l : List ObjectId} (h : x ∈ l) :
    insertAt (l.idxOf x) x (l.erase x) = l := by
  have hlt : l.idxOf x < l.length := List.idxOf_lt_length_of_mem h
  have hle : l.idxOf x ≤ (l.erase x).length := by
    rw [List.length_erase_of_mem h]
    omega
  have hInsert := List.insertIdx_eraseIdx_getElem hlt
  rwa [List.getElem_idxOf, List.eraseIdx_idxOf_eq_erase, ← Nat.min_eq_left hle] at hInsert

theorem isSome_modifyDevice (t : DeviceTree) (id : ObjectId) (change : Device → Device)
    (keeps : ∀ d, (change d).id = d.id) (d : ObjectId) :
    ((t.modifyDevice id change keeps).device? d).isSome = (t.device? d).isSome := by
  rw [device?_modifyDevice, Option.isSome_map]

theorem parentsOf_changeParents {c : ObjectId} (hc : (t.device? c).isSome)
    (change : List ObjectId → List ObjectId) (d : ObjectId) :
    (t.changeParents c change).parentsOf d
      = if d = c then change (t.parentsOf c) else t.parentsOf d := by
  obtain ⟨device, hc⟩ := Option.isSome_iff_exists.mp hc
  unfold parentsOf changeParents
  rw [device?_modifyDevice]
  by_cases hd : d = c
  · subst hd
    simp [hc]
  · simp [hd]

/-- What an action on a stored device takes back. -/
theorem undoConstruction_fst (h : (t.device? a.device).isSome) :
    (t.undoConstruction a).1 = match a.operation with
      | .createDevice | .destroyDevice => t
      | .createFormat _ previous => t.setFormat a.device previous
      | .destroyFormat removed _ => t.setFormat a.device removed
      | .resizeDevice _ previous _ => t.setTarget a.device previous
      | .resizeFormat format _ previous _ =>
        if (t.format? format).isNone then t else t.setFormatTarget format previous
      | .addMember container =>
        if a.device ∈ t.parentsOf container then t.changeParents container (eraseLast a.device)
        else t
      | .removeMember container position =>
        if (t.device? container).isNone then t
        else t.changeParents container (insertAt position a.device) := by
  have hSome : (t.device? a.device).isNone = false := by simpa using h
  unfold undoConstruction
  rw [hSome]
  cases a.operation <;> simp only [Bool.false_eq_true, if_false] <;> split <;> rfl

theorem undoConstruction_of_missing (h : (t.device? a.device).isSome = false) :
    (t.undoConstruction a).1 = t := by
  have hNone : (t.device? a.device).isNone = true := by simpa using h
  rw [undoConstruction, if_pos hNone]

theorem undoConstruction_records (t : DeviceTree) (a : Action) :
    t.SameRecords (t.undoConstruction a).1 := by
  cases hStored : (t.device? a.device).isSome with
  | false =>
    rw [undoConstruction_of_missing hStored]
    exact .refl t
  | true =>
    rw [undoConstruction_fst hStored]
    cases a.operation with
    | resizeFormat | addMember | removeMember => dsimp only; split <;> exact ⟨rfl, rfl⟩
    | _ => exact ⟨rfl, rfl⟩

/-- A change of one device that takes back the last one restores the devices. -/
theorem SameState.of_modifyDevice {id : ObjectId} {change back : Device → Device}
    {keeps : ∀ d, (change d).id = d.id} {keepsBack : ∀ d, (back d).id = d.id}
    (h : (t.modifyDevice id change keeps).SameState t') {device : Device}
    (hd : t.device? id = some device) (hBack : back (change device) = device) :
    t.SameState (t'.modifyDevice id back keepsBack) := by
  refine ⟨?_, h.present, h.presence, h.formats⟩
  show t'.devices.modify id back keepsBack = t.devices
  rw [h.devices]
  refine Arena.modify_modify_of_find? keeps keepsBack fun stored hStored => ?_
  obtain rfl : device = stored := Option.some.inj (hd.symm.trans hStored)
  exact hBack

theorem SameState.of_storeFormat {type : FormatType} {mountPoint : String} {onMedia : Bool}
    (h : (t.storeFormat type mountPoint onMedia).2.SameState t') : t.SameState t' :=
  ⟨h.devices, h.present, h.presence, fun f format hf =>
    h.formats f format (Arena.find?_insert_of_find? hf _)⟩

theorem SameState.of_setFormatTarget {format : Format} {size : ByteSize}
    (h : (t.setFormatTarget format.id size).SameState t')
    (hFormat : t.format? format.id = some format) :
    t.SameState (t'.setFormatTarget format.id format.targetSize) := by
  refine ⟨h.devices, h.present, h.presence, fun f stored hf => ?_⟩
  have hChanged := h.formats f
    (if f = format.id then { stored with targetSize := size } else stored)
    (by rw [setFormatTarget, format?_modifyFormat, hf]; rfl)
  rw [setFormatTarget, format?_modifyFormat, hChanged, Option.map_some]
  by_cases hId : f = format.id
  · subst hId
    obtain rfl : format = stored := Option.some.inj (hFormat ▸ hf)
    simp
  · simp [hId]

theorem format_of_content {d : ObjectId} {format : Format} (h : t.content? d = some format) :
    t.format? format.id = some format ∧ format.kind ≠ .blank := by
  obtain ⟨hFormat, hKind⟩ := Option.filter_eq_some_iff.mp h
  obtain ⟨device, _, hFormat⟩ := Option.bind_eq_some_iff.mp hFormat
  have hId : format.id = device.formatId := Arena.id_of_find? hFormat
  exact ⟨hId ▸ hFormat, by simpa using hKind⟩

theorem Prepares.isSome (h : t.Prepares p) : (t.device? p.device).isSome := by
  cases h <;> simp only <;> exact Option.isSome_of_eq_some ‹_›

theorem Prepares.isSome_container (h : t.Prepares p) {c : ObjectId}
    (hc : c ∈ p.operation.container?) : (t.device? c).isSome := by
  cases h <;> cases hc <;> exact Option.isSome_of_eq_some ‹_›

theorem Prepares.isSome_tree (h : t.Prepares p) (d : ObjectId) :
    (p.tree.device? d).isSome = (t.device? d).isSome := by
  cases h <;> first | rfl | exact isSome_modifyDevice _ _ _ _ d

/-- Constructing an action lets no device in or out. -/
theorem Prepares.records (h : t.Prepares p) : t.SameRecords p.tree := by
  cases h <;> exact ⟨rfl, rfl⟩

theorem Prepares.order (h : t.Prepares p) : p.tree.order = t.order := h.records.order

/-- The construction of an action that moves a device leaves the tree alone. -/
theorem Prepares.tree_eq (h : t.Prepares p)
    (hKind : p.operation.kind = .createDevice ∨ p.operation.kind = .destroyDevice) :
    p.tree = t := by
  cases h <;> first | rfl | (rcases hKind with hKind | hKind <;> cases hKind)

/-- **Taking back a construction restores what it changed.** -/
theorem Prepares.undone (h : t.Prepares p) (hSame : p.tree.SameState t')
    (hDevice : a.device = p.device) (hOp : a.operation = p.operation) :
    t.SameState (t'.undoConstruction a).1 := by
  have hStored : (t'.device? a.device).isSome := by
    rw [hSame.device?, hDevice, h.isSome_tree]
    exact h.isSome
  rw [undoConstruction_fst hStored, hOp, hDevice]
  cases h <;> dsimp only at hSame ⊢
  case createDevice | destroyDevice => exact hSame
  case createFormat device format hd hFormat => exact hSame.of_modifyDevice hd rfl
  case destroyFormat device hd =>
    have hBlank : (t.storeFormat .blank "" false).2.device? device.id = some device := hd
    exact (SameState.of_modifyDevice hSame hBlank rfl).of_storeFormat
  case resizeDevice device size hd hSize => exact hSame.of_modifyDevice hd rfl
  case resizeFormat device format size hd hContent hMedia hSize =>
    obtain ⟨hFormat, _⟩ := format_of_content hContent
    have hThere : (t'.format? format.id).isNone = false := by
      rw [hSame.formats _ _ (by rw [setFormatTarget, format?_modifyFormat, hFormat]; rfl)]
      rfl
    rw [hThere]
    exact hSame.of_setFormatTarget hFormat
  case addMember container member hc hm hne hFree hNew =>
    have hParents : t'.parentsOf container.id = container.parents ++ [member.id] := by
      rw [hSame.parentsOf, parentsOf_changeParents (Option.isSome_of_eq_some hc),
        if_pos rfl, parentsOf, hc]
      rfl
    rw [hParents]
    simp only [List.mem_append, List.mem_singleton, or_true, if_true]
    refine hSame.of_modifyDevice hc ?_
    rw [eraseLast_append]
  case removeMember container member hc hm hMember =>
    have hThere : (t'.device? container.id).isNone = false := by
      rw [hSame.device?, changeParents, device?_modifyDevice, hc]
      rfl
    rw [hThere]
    refine hSame.of_modifyDevice hc ?_
    rw [insertAt_idxOf_erase hMember]

end DeviceTree

/-! ## The calls -/

namespace Session

variable {s s' s'' : Session} {id : ObjectId} {a : Action}

/-- The sessions differ in their logs and in the numbers of texts at most. -/
structure Same (s s' : Session) : Prop where
  tree : s'.tree = s.tree
  actions : s'.actions = s.actions
  registry : s'.registry = s.registry

theorem Same.refl (s : Session) : s.Same s := ⟨rfl, rfl, rfl⟩

theorem Same.action? (h : s.Same s') (id : ObjectId) : s'.action? id = s.action? id :=
  congrArg (Arena.find? · id) h.actions

theorem Same.plan (h : s.Same s') : s'.plan = s.plan := by
  unfold Session.plan
  rw [h.registry]
  exact List.filterMap_congr fun id _ => h.action? id

theorem ne_of_new {actions : Arena Action} {b : Action}
    (hInsert : s.actions.insert? a = some actions) (hb : s.action? id = some b) : id ≠ a.id := by
  have hFresh : s.action? a.id = none := (Arena.insert?_eq_some hInsert).2.2
  rintro rfl
  rw [hFresh] at hb
  cases hb

/-- An action that was stored before keeps its place when a new one is stored and changes its
state. -/
theorem action?_of_new {actions : Arena Action} {b : Action}
    (hInsert : s.actions.insert? a = some actions) (hActions : s'.actions = actions)
    (state : ActionState) (hb : s.action? id = some b) :
    (s'.setState a.id state).action? id = some b := by
  have hne := ne_of_new hInsert hb
  have hFind : s'.action? id = some b := by
    unfold Session.action?
    rw [hActions, Arena.find?_insert? hInsert]
    exact (if_neg (Ne.symm hne)).trans hb
  rw [action?_setState, hFind, Option.map_some, if_neg hne]

theorem action?_self_of_new {actions : Arena Action} (hInsert : s.actions.insert? a = some actions)
    (hActions : s'.actions = actions) (state : ActionState) :
    (s'.setState a.id state).action? a.id = some { a with state } := by
  have hFind : s'.action? a.id = some a := by
    unfold Session.action?
    rw [hActions, Arena.find?_insert? hInsert]
    exact if_pos rfl
  rw [action?_setState, hFind, Option.map_some, if_pos rfl]

/-- The withdrawal of a registered action leaves the other actions as they were. -/
theorem action?_withdrawn (s : Session) (t : DeviceTree) {id other : ObjectId} (hne : other ≠ id) :
    ({ s.drop id .cancelled with tree := t }.setState id .cancelled).action? other
      = s.action? other := by
  have hDrop : ({ s.drop id .cancelled with tree := t } : Session).action? other
      = s.action? other := by
    show (s.drop id .cancelled).action? other = s.action? other
    rw [action?_drop]
    simp [hne]
  rw [action?_setState, hDrop]
  simp [hne]

/-- What becomes of a scheduled proposal. -/
inductive Scheduled (s : Session) (o : Outcome ObjectId) (s' : Session) : Prop
  | refused (hOk : o.ok = false) (hSame : s.Same s')
  /-- The id of the action is taken. -/
  | dropped (p : Preparation) (hPrepares : s.tree.Prepares p)
      (hTaken : s.actions.insert? (s.actionOf p) = none) (hOk : o.ok = false)
      (hSame : (s.carryOut p).Same s')
  | registered (p : Preparation) (actions : Arena Action) (t : DeviceTree) (changes : Changes)
      (hPrepares : s.tree.Prepares p) (hInsert : s.actions.insert? (s.actionOf p) = some actions)
      (hApply : (s.carryOut p).tree.applyRegistration (s.actionOf p) = .ok (t, changes))
      (hOk : o.ok = true) (hValue : o.value = (s.actionOf p).id)
      (hSame : ({ s with tree := t, actions, registry := s.registry ++ [(s.actionOf p).id] }.setState
        (s.actionOf p).id .registered).Same s')
  | takenBack (p : Preparation) (actions : Arena Action) (cause : Refusal)
      (hPrepares : s.tree.Prepares p) (hInsert : s.actions.insert? (s.actionOf p) = some actions)
      (hApply : (s.carryOut p).tree.applyRegistration (s.actionOf p) = .error cause)
      (hOk : o.ok = false)
      (hSame : ({ s with
        tree := ((s.carryOut p).tree.undoConstruction (s.actionOf p)).1, actions }.setState
          (s.actionOf p).id .cancelled).Same s')

/-- What becomes of an action that is to be withdrawn. -/
inductive Cancelled (s : Session) (id : ObjectId) (o : Outcome ObjectId) (s' : Session) : Prop
  | refused (hOk : o.ok = false) (hSame : s.Same s')
  | constructed (a : Action) (ha : s.action? id = some a) (hState : a.state = .constructed)
      (hOk : o.ok = true)
      (hSame : ({ s with tree := (s.tree.undoConstruction a).1 }.setState id .cancelled).Same s')
  | registered (a : Action) (t : DeviceTree) (changes : Changes) (ha : s.action? id = some a)
      (hState : a.state = .registered) (hUndo : s.tree.undoRegistration a = .ok (t, changes))
      (hOk : o.ok = true)
      (hSame : ({ s.drop id .cancelled with tree := (t.undoConstruction a).1 }.setState id
        .cancelled).Same s')

theorem carryOut_records {p : Preparation} (hPrepares : s.tree.Prepares p) :
    s.tree.SameRecords (s.carryOut p).tree :=
  hPrepares.records.trans ⟨rfl, rfl⟩

theorem undo_carryOut_records {p : Preparation} (hPrepares : s.tree.Prepares p) :
    s.tree.SameRecords ((s.carryOut p).tree.undoConstruction (s.actionOf p)).1 :=
  (carryOut_records hPrepares).trans (DeviceTree.undoConstruction_records _ _)

/-- Carrying out a preparation and taking it back restores the tree. -/
theorem undo_carryOut {p : Preparation} (hPrepares : s.tree.Prepares p) :
    s.tree.SameState ((s.carryOut p).tree.undoConstruction (s.actionOf p)).1 := by
  have hCarried : p.tree.SameState (s.carryOut p).tree :=
    ⟨rfl, fun _ => Iff.rfl, rfl, fun _ _ h => h⟩
  exact hPrepares.undone hCarried rfl rfl

theorem cancelled (s : Session) (id : ObjectId) :
    s.Cancelled id (s.cancel id).1 (s.cancel id).2 := by
  unfold cancel
  cases ha : s.action? id with
  | none => exact .refused rfl (Same.refl s)
  | some a =>
    obtain rfl := id_of_action? ha
    cases hState : a.state with
    | constructed =>
      simp only [hState]
      exact .constructed a ha hState rfl ⟨rfl, rfl, rfl⟩
    | registered =>
      cases hUndo : s.tree.undoRegistration a with
      | error cause =>
        simp only [hState, hUndo]
        exact .refused rfl ⟨rfl, rfl, rfl⟩
      | ok result =>
        simp only [hState, hUndo]
        exact .registered a result.1 result.2 ha hState hUndo rfl ⟨rfl, rfl, rfl⟩
    | cancelled | pruned =>
      simp only [hState]
      exact .refused rfl ⟨rfl, rfl, rfl⟩

theorem cancel_of_constructed (ha : s.action? id = some a) (hState : a.state = .constructed) :
    ({ s with tree := (s.tree.undoConstruction a).1 }.setState id .cancelled).Same
      (s.cancel id).2 := by
  obtain rfl := id_of_action? ha
  simp only [cancel, ha, hState]
  exact ⟨rfl, rfl, rfl⟩

theorem cancel_of_registered (ha : s.action? id = some a) (hState : a.state = .registered)
    {t : DeviceTree} {changes : Changes} (hUndo : s.tree.undoRegistration a = .ok (t, changes)) :
    (s.cancel id).1.ok = true ∧
      ({ s.drop id .cancelled with tree := (t.undoConstruction a).1 }.setState id
        .cancelled).Same (s.cancel id).2 := by
  obtain rfl := id_of_action? ha
  simp only [cancel, ha, hState, hUndo]
  exact ⟨rfl, rfl, rfl, rfl⟩

theorem register_of_refused (h : (s.register id).1.ok = false) : s.Same (s.register id).2 := by
  rcases register_cases s id with
    hSame | ⟨message, hSame⟩ | ⟨a, t, changes, message, ha, hState, hApply, _⟩
  · rw [hSame]
    exact Same.refl s
  · rw [hSame]
    exact ⟨rfl, rfl, rfl⟩
  · simp [register, ha, hState, hApply, Outcome.ok] at h

theorem registerOrCancel_snd (s : Session) (id : ObjectId) :
    (s.registerOrCancel id).2
      = if (s.register id).1.ok then (s.register id).2 else ((s.register id).2.cancel id).2 := by
  unfold registerOrCancel Outcome.ok
  cases hRefusal : (s.register id).1.refusal with
  | none => simp only [hRefusal, Option.isNone_none, if_true]
  | some cause => simp [hRefusal]

theorem register_of_applied (ha : s.action? id = some a) (hState : a.state = .constructed)
    {t : DeviceTree} {changes : Changes} (hApply : s.tree.applyRegistration a = .ok (t, changes)) :
    (s.register id).1 = { value := id, changes := changes.update id } ∧
      ({ s with tree := t, registry := s.registry ++ [id] }.setState id .registered).Same
        (s.register id).2 := by
  simp only [register, ha, hState, ne_eq, not_true_eq_false, if_false, hApply]
  exact ⟨trivial, rfl, rfl, rfl⟩

theorem registerOrCancel_of_registered (h : (s.register id).1.ok = true) :
    s.registerOrCancel id = s.register id := by
  have hRefusal : (s.register id).1.refusal = none := Option.isNone_iff_eq_none.mp h
  simp only [registerOrCancel, hRefusal]

theorem registerOrCancel_of_applied (ha : s.action? id = some a) (hState : a.state = .constructed)
    {t : DeviceTree} {changes : Changes} (hApply : s.tree.applyRegistration a = .ok (t, changes)) :
    (s.registerOrCancel id).1.ok = true ∧ (s.registerOrCancel id).1.value = id ∧
      ({ s with tree := t, registry := s.registry ++ [id] }.setState id .registered).Same
        (s.registerOrCancel id).2 := by
  obtain ⟨hOutcome, hSame⟩ := register_of_applied ha hState hApply
  have hOk : (s.register id).1.ok = true := by rw [hOutcome]; rfl
  rw [registerOrCancel_of_registered hOk, hOutcome]
  exact ⟨rfl, rfl, hSame⟩

theorem registerOrCancel_of_error (ha : s.action? id = some a) (hState : a.state = .constructed)
    {cause : Refusal} (hApply : s.tree.applyRegistration a = .error cause) :
    (s.registerOrCancel id).1.ok = false ∧
      ({ s with tree := (s.tree.undoConstruction a).1 }.setState id .cancelled).Same
        (s.registerOrCancel id).2 := by
  have hRegister : s.register id = s.reject id cause (s.describe id ++ ": " ++ cause.message) := by
    simp only [register, ha, hState, ne_eq, not_true_eq_false, if_false, hApply]
  simp only [registerOrCancel, hRegister, reject, Outcome.refused]
  have hCancel := cancel_of_constructed (s := s.record .warning .reject id
    (s.describe id ++ ": " ++ cause.message)) ha hState
  exact ⟨rfl, hCancel.tree, hCancel.actions, hCancel.registry⟩

/-- A proposal that passes its checks stores its action when the id of the action is free; to
schedule it is to register this action then. -/
theorem propose_of_new {proposal : Proposal} {p : Preparation}
    (hPrepare : s.tree.prepare proposal = .ok p) {actions : Arena Action}
    (hInsert : s.actions.insert? (s.actionOf p) = some actions) :
    (s.propose proposal).1
        = { value := (s.actionOf p).id,
            changes := { created := [(s.actionOf p).id], updated := p.updated } } ∧
      ({ s.carryOut p with actions } : Session).Same (s.propose proposal).2 ∧
      (s.propose proposal).2.action? (s.actionOf p).id = some (s.actionOf p) ∧
      s.schedule proposal = (s.propose proposal).2.registerOrCancel (s.actionOf p).id := by
  have hActions : (s.carryOut p).actions = s.actions := rfl
  have hPropose : s.propose proposal
      = ({ value := (s.actionOf p).id,
           changes := { created := [(s.actionOf p).id], updated := p.updated } },
        { s.carryOut p with actions }.record .info .construct (s.actionOf p).id
          ((s.carryOut p).tree.describe (s.actionOf p))) := by
    simp only [propose, hPrepare, construct, hActions, hInsert]
  rw [schedule, hPropose]
  exact ⟨rfl, ⟨rfl, rfl, rfl⟩, (Arena.find?_insert? hInsert _).trans (if_pos rfl), rfl⟩

/-- A proposal is scheduled when its action finds its id free and can be registered. -/
theorem schedule_of_applied {proposal : Proposal} {p : Preparation}
    (hPrepare : s.tree.prepare proposal = .ok p) {actions : Arena Action}
    (hInsert : s.actions.insert? (s.actionOf p) = some actions) {t : DeviceTree}
    {changes : Changes}
    (hApply : (s.carryOut p).tree.applyRegistration (s.actionOf p) = .ok (t, changes)) :
    (s.schedule proposal).1
        = { value := (s.actionOf p).id, changes := changes.update (s.actionOf p).id } ∧
      ({ s with tree := t, actions, registry := s.registry ++ [(s.actionOf p).id] }.setState
        (s.actionOf p).id .registered).Same (s.schedule proposal).2 := by
  obtain ⟨_, hProposed, ha, hSchedule⟩ := propose_of_new hPrepare hInsert
  obtain ⟨hOutcome, hSame⟩ := register_of_applied ha rfl (hProposed.tree ▸ hApply)
  rw [hSchedule, registerOrCancel_of_registered (by rw [hOutcome]; rfl)]
  refine ⟨hOutcome, hSame.tree, ?_, ?_⟩
  · rw [hSame.actions]
    simp only [setState, hProposed.actions]
  · rw [hSame.registry]
    simp only [setState_registry, hProposed.registry]
    rfl

/-- A proposal is scheduled only when its action finds its id free and can be registered. -/
theorem applied_of_schedule_ok {proposal : Proposal} (hOk : (s.schedule proposal).1.ok = true) :
    ∃ p actions t changes, s.tree.prepare proposal = .ok p ∧
      s.actions.insert? (s.actionOf p) = some actions ∧
      (s.carryOut p).tree.applyRegistration (s.actionOf p) = .ok (t, changes) := by
  cases hPrepare : s.tree.prepare proposal with
  | error cause =>
    simp only [schedule, propose, hPrepare] at hOk
    cases hOk
  | ok p =>
    have hActions : (s.carryOut p).actions = s.actions := rfl
    cases hInsert : s.actions.insert? (s.actionOf p) with
    | none =>
      simp only [schedule, propose, hPrepare, construct, hActions, hInsert] at hOk
      cases hOk
    | some actions =>
      cases hApply : (s.carryOut p).tree.applyRegistration (s.actionOf p) with
      | error cause =>
        obtain ⟨_, hProposed, ha, hSchedule⟩ := propose_of_new hPrepare hInsert
        have hRefused := (registerOrCancel_of_error ha rfl (hProposed.tree ▸ hApply)).1
        rw [hSchedule, hRefused] at hOk
        cases hOk
      | ok result => exact ⟨p, actions, result.1, result.2, rfl, hInsert, hApply⟩

theorem scheduled (s : Session) (proposal : Proposal) :
    s.Scheduled (s.schedule proposal).1 (s.schedule proposal).2 := by
  cases hPrepare : s.tree.prepare proposal with
  | error cause =>
    unfold schedule propose
    rw [hPrepare]
    exact .refused rfl (Same.refl s)
  | ok p =>
    have hPrepares := DeviceTree.prepares_of_prepare hPrepare
    cases hInsert : s.actions.insert? (s.actionOf p) with
    | none =>
      have hActions : (s.carryOut p).actions = s.actions := rfl
      have hDropped : s.schedule proposal
          = ({ value := 0, refusal := some .idCollision, changes := { updated := p.updated } },
            s.carryOut p) := by
        simp only [schedule, propose, hPrepare, construct, hActions, hInsert]
        rfl
      rw [hDropped]
      exact .dropped p hPrepares hInsert rfl (.refl _)
    | some actions =>
      cases hApply : (s.carryOut p).tree.applyRegistration (s.actionOf p) with
      | ok result =>
        obtain ⟨hOutcome, hSame⟩ := schedule_of_applied hPrepare hInsert hApply
        exact .registered p actions result.1 result.2 hPrepares hInsert hApply
          (by rw [hOutcome]; rfl) (by rw [hOutcome]) hSame
      | error cause =>
        obtain ⟨_, hProposed, ha, hSchedule⟩ := propose_of_new hPrepare hInsert
        obtain ⟨hOk, hSame⟩ := registerOrCancel_of_error ha rfl (hProposed.tree ▸ hApply)
        rw [hSchedule]
        refine .takenBack p actions cause hPrepares hInsert hApply hOk ⟨?_, ?_, ?_⟩
        · rw [hSame.tree]
          simp only [setState_tree, hProposed.tree]
        · rw [hSame.actions]
          simp only [setState, hProposed.actions]
        · rw [hSame.registry]
          exact hProposed.registry

end Session

end StoragePlan

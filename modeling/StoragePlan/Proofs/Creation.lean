import StoragePlan.Proofs.Dismantling
import StoragePlan.Proofs.Reporting
import StoragePlan.Proofs.Reversal
import StoragePlan.Proofs.Strata

/-!
# Creating devices and formats

A device that is made from a draft is stored aside and enters the tree when its creation is
registered.  While ids are left nothing but a draft that does not fit stands in the way, and all
that was stored and planned before stays (`Gains`).

* `creates_of_newDevice`: **a device that was made is created, unless its draft does not fit**.
* `gains_createFormat`: a stored format can be put on any present device.
-/

namespace StoragePlan

/-- The proposal that an action was constructed from. -/
def Action.proposal (a : Action) : Proposal :=
  match a.operation with
  | .createDevice => .createDevice a.device
  | .destroyDevice => .destroyDevice a.device
  | .createFormat format _ => .createFormat a.device format
  | .destroyFormat .. => .destroyFormat a.device
  | .resizeDevice size .. => .resizeDevice a.device size
  | .resizeFormat _ size .. => .resizeFormat a.device size
  | .addMember container => .addMember container a.device
  | .removeMember container _ => .removeMember container a.device

/-- A device that was made from a draft and stored under a name. -/
structure Device.MadeFrom (device : Device) (draft : DeviceDraft) (name : String) : Prop
    extends device.Suits draft where
  name : device.name = name
  size : device.currentSize = draft.size

/-- Whether a device was made from a draft is not changed by what it carries. -/
theorem Device.MadeFrom.of_frame {device device' : Device} {draft : DeviceDraft} {name : String}
    (h : device.MadeFrom draft name) (hFrame : device'.frame = device.frame) :
    device'.MadeFrom draft name where
  kind := (congrArg Device.kind hFrame).trans h.kind
  onMedia := (congrArg Device.onMedia hFrame).trans h.onMedia
  parents := (congrArg Device.parents hFrame).trans h.parents
  name := (congrArg Device.name hFrame).trans h.name
  size := (congrArg Device.currentSize hFrame).trans h.size

namespace DeviceTree

variable {t t' : DeviceTree} {draft : DeviceDraft} {name : String} {id : ObjectId}

/-! ## Making a device -/

/-- A device that was made from a draft is stored under a name. -/
def Made (t : DeviceTree) (id : ObjectId) (draft : DeviceDraft) (name : String) : Prop :=
  ∃ device, t.device? id = some device ∧ device.MadeFrom draft name

theorem Made.extends (h : t.Made id draft name) (hExtends : t.Extends t') :
    t'.Made id draft name := by
  obtain ⟨device, hd, hMade⟩ := h
  obtain ⟨device', hd', hFrame⟩ := hExtends id device hd
  exact ⟨device', hd', hMade.of_frame hFrame⟩

theorem Made.stored (h : t.Made id draft name) : (t.device? id).isSome := by
  obtain ⟨device, hd, _⟩ := h
  exact Option.isSome_of_eq_some hd

theorem Made.nameOf (h : t.Made id draft name) : t.nameOf id = name := by
  obtain ⟨device, hd, hMade⟩ := h
  rw [DeviceTree.nameOf, hd]
  exact hMade.name

/-- A draft passes its checks, its parents are present, and no present device has the name under
which it would be stored. -/
structure Fits (t : DeviceTree) (draft : DeviceDraft) (name : String) : Prop where
  named : draft.name ≠ ""
  distinct : t.checkParents [] draft.parents = .ok ()
  kind : ∃ number, t.checkKind draft = .ok (name, number)
  parents : ∀ p ∈ draft.parents, p ∈ t.order
  free : t.named? name = none

theorem Fits.newDevice (h : t.Fits draft name) :
    ∃ number, t.newDevice draft = .ok (t.storeDevice draft name number) := by
  obtain ⟨number, hKind⟩ := h.kind
  refine ⟨number, ?_⟩
  simp only [DeviceTree.newDevice, if_neg h.named, h.distinct, hKind]
  rfl

theorem checkParents_singleton {p : ObjectId} (h : (t.device? p).isSome) :
    t.checkParents [] [p] = .ok () := by
  have hThere : (t.device? p).isNone = false := by
    rw [← Option.not_isSome, h]
    rfl
  simp [checkParents, hThere]

/-- A name stays free when no new device takes it. -/
theorem named?_of_extends {entered : List ObjectId} (hExtends : t.Extends t')
    (hStored : ∀ d ∈ t.order, (t.device? d).isSome) (hOrder : t'.order = t.order ++ entered)
    (hFree : t.named? name = none) (hNew : ∀ d ∈ entered, t'.nameOf d ≠ name) :
    t'.named? name = none := by
  refine named?_eq_none_iff.mpr fun d hd device hDevice => ?_
  have hName : t'.nameOf d = device.name := by
    rw [DeviceTree.nameOf, hDevice]
    rfl
  rw [hOrder] at hd
  rcases List.mem_append.mp hd with hOld | hEntered
  · obtain ⟨old, hOldDevice⟩ := Option.isSome_iff_exists.mp (hStored d hOld)
    have hSame : t'.nameOf d = t.nameOf d :=
      hExtends.keepsNames.nameOf (Option.isSome_of_eq_some hOldDevice)
    rw [← hName, hSame, DeviceTree.nameOf, hOldDevice]
    exact named?_eq_none_iff.mp hFree d hOld old hOldDevice
  · rw [← hName]
    exact hNew d hEntered

end DeviceTree

/-! ## Ids that are drawn -/

section

variable {t : DeviceTree} {actions : List ObjectId} {n : Nat}

theorem ahead_storeFormat (h : Ahead t.ids.next (t.storedIds ++ actions) (n + 1))
    (type : FormatType) (mountPoint : String) (onMedia : Bool) :
    Ahead (t.storeFormat type mountPoint onMedia).2.ids.next
      ((t.storeFormat type mountPoint onMedia).2.storedIds ++ actions) n := by
  refine h.draw fun id hid => ?_
  rcases List.mem_append.mp hid with hTree | hAction
  · exact (DeviceTree.mem_storedIds_storeFormat hTree).imp_right (List.mem_append_left _)
  · exact Or.inr (List.mem_append_right _ hAction)

/-- A device that finds its id free is stored under it. -/
theorem storeDevice_of_ahead (h : Ahead t.ids.next (t.storedIds ++ actions) (n + 2))
    (draft : DeviceDraft) (name : String) (number : Int) :
    let made := t.storeDevice draft name number
    made.2.Made made.1 draft name ∧ t.device? made.1 = none ∧
      Ahead made.2.ids.next (made.2.storedIds ++ actions) n := by
  intro made
  let t₁ := (t.storeFormat .blank "" false).2
  have hRoom : Ahead t₁.ids.next (t₁.storedIds ++ actions) (n + 1) :=
    ahead_storeFormat h .blank "" false
  obtain ⟨hZero, hNotMem⟩ := hRoom.free
  obtain ⟨device, hId, hMade, hDevices, hFirst⟩ : ∃ device : Device, device.id = t₁.ids.next ∧
      device.MadeFrom draft name ∧ made.2.devices = t.devices.insert device ∧
      made.1 = ((t.devices.insert device).last?.map Device.id).getD 0 :=
    ⟨_, rfl, ⟨⟨rfl, rfl, rfl⟩, rfl, rfl⟩, rfl, rfl⟩
  have hFree : t.devices.insert? device ≠ none := by
    intro hNone
    rcases Arena.insert?_eq_none_iff.mp hNone with hTaken | hTaken
    · exact hZero (hId.symm.trans hTaken)
    · exact hNotMem (List.mem_append_left _ (List.mem_append_left _ (hId ▸ hTaken)))
  obtain ⟨devices, hInsert⟩ := Option.ne_none_iff_exists'.mp hFree
  have hAfter : t.devices.insert device = devices := by rw [Arena.insert, hInsert, Option.getD_some]
  rw [hAfter] at hDevices hFirst
  have hValue : made.1 = device.id := by
    rw [hFirst, Arena.last?, (Arena.insert?_eq_some hInsert).1, List.getLast?_append]
    rfl
  refine ⟨⟨device, ?_, hMade⟩, ?_, hRoom.draw fun id hid => ?_⟩
  · rw [DeviceTree.device?, hDevices, hValue]
    exact (Arena.find?_insert? hInsert _).trans (if_pos rfl)
  · rw [hValue]
    exact (Arena.insert?_eq_some hInsert).2.2
  · have hIds : made.2.devices.ids = t.devices.ids ++ [device.id] :=
      hDevices ▸ Arena.ids_insert? hInsert
    rw [DeviceTree.storedIds, hIds, hId] at hid
    simp only [List.mem_append, List.mem_singleton] at hid ⊢
    rcases hid with ((hOld | hNew) | hFormat) | hAction
    · exact Or.inr (Or.inl (List.mem_append_left _ hOld))
    · exact Or.inl hNew
    · exact Or.inr (Or.inl (List.mem_append_right _ hFormat))
    · exact Or.inr (Or.inr hAction)

end

namespace Session

variable {s s' s'' : Session} {proposals proposals' : List Proposal}
  {entered entered' : List ObjectId} {draft : DeviceDraft} {n : Nat}

/-! ## What calls gain -/

/-- Newly constructed actions of the proposals were appended to the plan, in this order. -/
def Plans (s : Session) (proposals : List Proposal) (s' : Session) : Prop :=
  ∃ ids, s.Appends ids s' ∧
    ids.map (fun id => (s'.action? id).map Action.proposal) = proposals.map some

theorem Plans.trans (h : s.Plans proposals s') (h' : s'.Plans proposals' s'') :
    s.Plans (proposals ++ proposals') s'' := by
  obtain ⟨ids, hAppends, hRead⟩ := h
  obtain ⟨ids', hAppends', hRead'⟩ := h'
  exact ⟨ids ++ ids', hAppends.trans hAppends', Appends.map_action? hRead hAppends' hRead'⟩

theorem Plans.of_tree (s : Session) (t : DeviceTree) : s.Plans [] { s with tree := t } :=
  ⟨[], ⟨(List.append_nil _).symm, fun _ h => absurd h List.not_mem_nil, fun _ _ h => h⟩, rfl⟩

/-- Proposals were planned, some devices entered the tree, and `left` ids are left.  What was stored
is so still. -/
structure Gains (s : Session) (proposals : List Proposal) (entered : List ObjectId) (left : Nat)
    (s' : Session) : Prop where
  plans : s.Plans proposals s'
  tree : s.tree.Extends s'.tree
  format? : ∀ f format, s.tree.format? f = some format → s'.tree.format? f = some format
  order : s'.tree.order = s.tree.order ++ entered
  contains : ∀ d, s'.tree.contains d = true ↔ s.tree.contains d = true ∨ d ∈ entered
  inStep : s.tree.InStep → s'.tree.InStep
  room : s'.Room left

theorem Gains.trans {left : Nat} (h : s.Gains proposals entered left s')
    (h' : s'.Gains proposals' entered' n s'') :
    s.Gains (proposals ++ proposals') (entered ++ entered') n s'' where
  plans := h.plans.trans h'.plans
  tree := h.tree.trans h'.tree
  format? := fun f format hf => h'.format? f format (h.format? f format hf)
  order := by rw [h'.order, h.order, List.append_assoc]
  contains := fun d => by rw [h'.contains, h.contains, List.mem_append, or_assoc]
  inStep := fun hInStep => h'.inStep (h.inStep hInStep)
  room := h'.room

theorem Gains.mem_order {left : Nat} {d : ObjectId} (h : s.Gains proposals entered left s')
    (hd : d ∈ s.tree.order ∨ d ∈ entered) : d ∈ s'.tree.order :=
  h.order ▸ List.mem_append.mpr hd

/-- The present devices are still filed if those that entered are stored. -/
theorem Gains.filed {left : Nat} (h : s.Gains proposals entered left s') (hFiled : s.tree.Filed)
    (hEntered : ∀ d ∈ entered, (s'.tree.device? d).isSome) : s'.tree.Filed := by
  refine ⟨fun d hd => ?_, h.inStep hFiled.inStep⟩
  rw [h.order] at hd
  rcases List.mem_append.mp hd with hd | hd
  · exact h.tree.keepsNames.isSome (hFiled.stored d hd)
  · exact hEntered d hd

/-- A device that is new after the calls was new before them. -/
theorem Gains.new {left : Nat} {d : ObjectId} (h : s.Gains proposals entered left s')
    (hd : s'.tree.device? d = none) : s.tree.device? d = none := by
  cases hOld : s.tree.device? d with
  | none => rfl
  | some device =>
    obtain ⟨_, hd', _⟩ := h.tree d device hOld
    cases hd.symm.trans hd'

/-- What is planned by scheduling a proposal is the proposal. -/
theorem gains_schedule {proposal : Proposal} {p : Preparation}
    (hPrepare : s.tree.prepare proposal = .ok p) (hProposal : (s.actionOf p).proposal = proposal)
    (hRoom : Ahead p.tree.ids.next (p.tree.storedIds ++ s.actions.ids) (n + 1)) {t : DeviceTree}
    {changes : Changes}
    (hApply : (s.carryOut p).tree.applyRegistration (s.actionOf p) = .ok (t, changes))
    (hTree : s.tree.Extends t)
    (hFormats : ∀ f format, s.tree.format? f = some format → t.format? f = some format)
    (hOrder : t.order = s.tree.order ++ entered)
    (hContains : ∀ d, t.contains d = true ↔ s.tree.contains d = true ∨ d ∈ entered) :
    (s.schedule proposal).1.ok = true ∧
      s.Gains [proposal] entered n (s.schedule proposal).2 := by
  have hRecords := carryOut_records (s := s) (DeviceTree.prepares_of_prepare hPrepare)
  have hInStep : s.tree.InStep → t.InStep := fun h =>
    (h.of_same hRecords).of_moves (DeviceTree.applyRegistration_ok hApply)
  obtain ⟨hOk, hValue, rfl, ha, hLeft⟩ := schedule_of_room hPrepare hRoom hApply
  refine ⟨hOk, ⟨_, appends_schedule hOk, ?_⟩, hTree, hFormats, hOrder, hContains, hInStep, hLeft⟩
  rw [hValue, List.map_singleton, ha]
  exact congrArg (fun proposal => [some proposal]) hProposal

theorem gains_newDevice {id : ObjectId} {t : DeviceTree} (hRoom : s.Room (n + 2))
    (hNew : s.tree.newDevice draft = .ok (id, t)) :
    s.Gains [] [] n { s with tree := t } ∧ s.tree.device? id = none ∧
      ∃ name number, s.tree.checkKind draft = .ok (name, number) ∧ t.Made id draft name := by
  obtain ⟨name, number, hKind, hStore⟩ := DeviceTree.storeDevice_of_newDevice hNew
  obtain ⟨hMade, hNone, hLeft⟩ := storeDevice_of_ahead hRoom draft name number
  rw [← hStore] at hMade hNone hLeft
  have hExtends := s.tree.storeDevice_extends draft name number
  have hGrows := s.tree.storeDevice_grows draft name number
  have hRecords := s.tree.sameRecords_storeDevice draft name number
  rw [← hStore] at hExtends hGrows hRecords
  refine ⟨⟨.of_tree s t, hExtends, hGrows.format?, hRecords.order.trans (List.append_nil _).symm,
    fun d => ?_, fun hInStep => hInStep.of_same hRecords, hLeft⟩, hNone, name, number, hKind, hMade⟩
  rw [hRecords.contains, or_iff_left List.not_mem_nil]

theorem gains_newFormat (type : FormatType) (mountPoint : String) (onMedia : Bool)
    (hRoom : s.Room (n + 1)) :
    let made := s.tree.storeFormat type mountPoint onMedia
    s.Gains [] [] n { s with tree := made.2 } ∧
      made.2.format? made.1 = some (.ofType type made.1 mountPoint onMedia) := by
  intro made
  have hFree : s.tree.formats.insert? (.ofType type made.1 mountPoint onMedia) ≠ none := by
    intro hNone
    rcases Arena.insert?_eq_none_iff.mp hNone with hTaken | hTaken
    · exact hRoom.free.1 hTaken
    · exact hRoom.free.2 (List.mem_append_left _ (List.mem_append_right _ hTaken))
  obtain ⟨formats, hInsert⟩ := Option.ne_none_iff_exists'.mp hFree
  have hFormats : made.2.formats = formats := by
    show s.tree.formats.insert (.ofType type made.1 mountPoint onMedia) = formats
    rw [Arena.insert, hInsert, Option.getD_some]
  refine ⟨⟨.of_tree s made.2, (s.tree.storeFormat_layout type mountPoint onMedia).extends,
    (s.tree.storeFormat_grows type mountPoint onMedia).format?, (List.append_nil _).symm,
    fun d => (or_iff_left List.not_mem_nil).symm, fun hInStep => hInStep.of_same ⟨rfl, rfl⟩,
    ahead_storeFormat hRoom type mountPoint onMedia⟩, ?_⟩
  rw [DeviceTree.format?, hFormats]
  exact (Arena.find?_insert? hInsert _).trans (if_pos rfl)

theorem prepare_createDevice {device : Device} (hd : s.tree.device? device.id = some device)
    (hMedia : device.onMedia = false) :
    s.tree.prepare (.createDevice device.id)
      = .ok { device := device.id, operation := .createDevice, tree := s.tree } := by
  simp only [DeviceTree.prepare, DeviceTree.target, hd]
  simp [hMedia, bind, Except.bind, pure, Except.pure]

theorem gains_createDevice {device : Device} (hd : s.tree.device? device.id = some device)
    (hMedia : device.onMedia = false) (hRoom : s.Room (n + 1))
    (hOk : (s.schedule (.createDevice device.id)).1.ok = true) :
    s.Gains [.createDevice device.id] [device.id] n (s.schedule (.createDevice device.id)).2 := by
  obtain ⟨p, actions, t, changes, hPrepare, hInsert, hApply⟩ := applied_of_schedule_ok hOk
  obtain rfl := Except.ok.inj ((prepare_createDevice hd hMedia).symm.trans hPrepare)
  obtain ⟨hAdd, hContains⟩ : (s.carryOut _).tree.add device.id = .ok t ∧
      ∀ d, t.contains d = true ↔ s.tree.contains d = true ∨ d ∈ [device.id] := by
    rcases DeviceTree.applyRegistration_ok hApply with ⟨_, hAdd⟩ | ⟨hKind, _⟩ | ⟨hKind, _, _⟩
    · refine ⟨hAdd, fun d => ?_⟩
      rw [DeviceTree.contains_of_add hAdd, Bool.or_eq_true, beq_iff_eq, List.mem_singleton, or_comm]
      rfl
    · cases hKind
    · exact absurd rfl hKind
  obtain ⟨_, _, _, rfl⟩ := DeviceTree.add_ok hAdd
  exact (gains_schedule hPrepare rfl hRoom hApply
    (DeviceTree.extends_of_frames [] (List.append_nil _).symm) (fun _ _ hf => hf) rfl hContains).2

/-- A device whose parents are present can be created under a free name. -/
theorem schedule_createDevice_ok {device : Device} (hd : s.tree.device? device.id = some device)
    (hMedia : device.onMedia = false) (hRoom : s.Room (n + 1))
    (hAbsent : s.tree.contains device.id = false)
    (hParents : ∀ p ∈ device.parents, s.tree.contains p = true)
    (hFree : s.tree.named? device.name = none) :
    (s.schedule (.createDevice device.id)).1.ok = true := by
  let p : Preparation := { device := device.id, operation := .createDevice, tree := s.tree }
  have hThere : (s.carryOut p).tree.contains device.id = false := hAbsent
  have hAdd := DeviceTree.add_eq_ok (t := (s.carryOut p).tree) hd hAbsent hParents hFree
  have hApply : (s.carryOut p).tree.applyRegistration (s.actionOf p)
      = .ok ({ (s.carryOut p).tree with
          order := s.tree.order ++ [device.id]
          presence := s.tree.presence.insert device.id }, { created := [device.id] }) := by
    show (if (s.carryOut p).tree.contains device.id then _ else
      ((s.carryOut p).tree.add device.id).map _) = _
    rw [hThere, hAdd]
    rfl
  exact (schedule_of_room (prepare_createDevice hd hMedia) hRoom hApply).1

/-- A device was made from a draft and entered the tree. -/
structure Creates (s : Session) (draft : DeviceDraft) (n : Nat) (id : ObjectId) (s' : Session) :
    Prop where
  gains : s.Gains [.createDevice id] [id] n s'
  new : s.tree.device? id = none
  made : ∃ name number, s.tree.checkKind draft = .ok (name, number) ∧ s'.tree.Made id draft name

/-- A device that was made from a draft is created, unless the draft does not fit into the tree. -/
theorem creates_of_newDevice {id : ObjectId} {t : DeviceTree} (hMedia : draft.onMedia = false)
    (hRoom : s.Room (n + 3)) (hNew : s.tree.newDevice draft = .ok (id, t)) :
    let answer := ({ s with tree := t } : Session).schedule (.createDevice id)
    (answer.1.ok = true ∧ s.Creates draft n id answer.2) ∨
      (answer.1.ok = false ∧ (s.tree.Filed → ∀ name, ¬ s.tree.Fits draft name)) := by
  obtain ⟨hGains, hNone, name, number, hKind, device, hd, hDevice⟩ := gains_newDevice hRoom hNew
  obtain rfl : device.id = id := Arena.id_of_find? hd
  have hProposed : device.onMedia = false := hDevice.onMedia.trans hMedia
  intro answer
  cases hOk : answer.1.ok with
  | true =>
    have hCreated := gains_createDevice hd hProposed hGains.room hOk
    refine Or.inl ⟨rfl, hGains.trans hCreated, hNone, name, number, hKind, ?_⟩
    exact DeviceTree.Made.extends ⟨device, hd, hDevice⟩ hCreated.tree
  | false =>
    refine Or.inr ⟨rfl, fun hFiled other hFits => Bool.false_ne_true (hOk.symm.trans ?_)⟩
    obtain ⟨_, hOther⟩ := hFits.kind
    obtain rfl : name = other := congrArg Prod.fst (Except.ok.inj (hKind.symm.trans hOther))
    have hPresent : ∀ d, t.contains d = true ↔ d ∈ s.tree.order := fun d =>
      (hGains.contains d).trans
        ((or_iff_left List.not_mem_nil).trans (hFiled.inStep.contains_iff d))
    refine schedule_createDevice_ok hd hProposed hGains.room ?_ ?_ ?_
    · refine Bool.eq_false_iff.mpr fun hThere => ?_
      have hStored := hFiled.stored device.id ((hPresent device.id).mp hThere)
      rw [hNone] at hStored
      cases hStored
    · rw [hDevice.parents]
      exact fun p hp => (hPresent p).mpr (hFits.parents p hp)
    · rw [hDevice.name]
      exact DeviceTree.named?_of_extends hGains.tree hFiled.stored hGains.order hFits.free
        fun _ hd => absurd hd List.not_mem_nil

/-- A format that is stored can be put on a present device. -/
theorem gains_createFormat {device : Device} {format : ObjectId}
    (hd : s.tree.device? device.id = some device) (hPresent : s.tree.contains device.id = true)
    (hFormat : (s.tree.format? format).isSome) (hRoom : s.Room (n + 1)) :
    (s.schedule (.createFormat device.id format)).1.ok = true ∧
      s.Gains [.createFormat device.id format] [] n
        (s.schedule (.createFormat device.id format)).2 := by
  let p : Preparation := {
    device := device.id
    operation := .createFormat format device.formatId
    tree := s.tree.setFormat device.id format
    updated := [device.id] }
  have hPrepare : s.tree.prepare (.createFormat device.id format) = .ok p := by
    have hThere : (s.tree.format? format).isNone = false := by
      rw [← Option.not_isSome, hFormat]
      rfl
    simp only [DeviceTree.prepare, DeviceTree.target, hd, hThere]
    rfl
  have hApply : (s.carryOut p).tree.applyRegistration (s.actionOf p)
      = .ok ((s.carryOut p).tree, {}) := by
    have hThere : (s.carryOut p).tree.contains device.id = true := hPresent
    simp [DeviceTree.applyRegistration, actionOf, p, Operation.container?, hThere]
  have hIds := DeviceTree.modifyDevice_ids s.tree device.id
    (fun d => { d with formatId := format }) fun _ => rfl
  refine gains_schedule hPrepare rfl ?_ hApply (s.tree.setFormat_layout device.id format).extends
    (fun _ _ hf => hf) (List.append_nil _).symm fun d => (or_iff_left List.not_mem_nil).symm
  exact hIds.storedIds ▸ hRoom

end Session

end StoragePlan

import StoragePlan.Proofs.Links

/-!
# Ids are drawn in turn

As long as nothing replaces the counter, every id that it gave names a stored object: with `n`
objects stored the next id is `n + 1`, until the counter wraps (`Numbers`).  An object is therefore
refused for its id only in a session that has used up all of them.

* `Session.Numbered.performAll`: **every run keeps the numbering**.
* `Session.Numbered.stores`: a prepared action **finds its id free** while ids are left.
-/

namespace StoragePlan

/-- Until the counter wraps, `next` follows the ids drawn so far, a different one for each of the
objects. -/
def Numbers (next : ObjectId) (ids : List ObjectId) : Prop :=
  ids.length < 2 ^ 64 - 1 →
    next.toNat = ids.length + 1 ∧ (∀ id ∈ ids, id < next) ∧ ids.Nodup

theorem Numbers.notMem {next : ObjectId} {ids : List ObjectId} (h : Numbers next ids)
    (hFew : ids.length < 2 ^ 64 - 1) : next ≠ 0 ∧ next ∉ ids := by
  obtain ⟨hNext, hBelow, _⟩ := h hFew
  refine ⟨?_, fun hMem => ?_⟩
  · rintro rfl
    simp at hNext
  · exact absurd (hBelow next hMem) (UInt64.lt_irrefl next)

/-- An id that is drawn names one more object, unless it was taken. -/
theorem Numbers.draw {next : ObjectId} {ids ids' : List ObjectId} (h : Numbers next ids)
    (hDraw : ids'.Perm (next :: ids) ∨ ids' = ids ∧ (next = 0 ∨ next ∈ ids)) :
    Numbers (next + 1) ids' := by
  intro hFew
  rcases hDraw with hPerm | ⟨rfl, hTaken⟩
  · have hLength : ids'.length = ids.length + 1 := hPerm.length_eq
    have hFewBefore : ids.length < 2 ^ 64 - 1 := by omega
    obtain ⟨hNext, hBelow, hNodup⟩ := h hFewBefore
    have hAfter : (next + 1).toNat = next.toNat + 1 := by
      rw [UInt64.toNat_add]
      exact Nat.mod_eq_of_lt (by simp only [UInt64.toNat_one]; omega)
    refine ⟨by omega, fun id hid => ?_, ?_⟩
    · rw [UInt64.lt_iff_toNat_lt, hAfter]
      rcases List.mem_cons.mp (hPerm.mem_iff.mp hid) with rfl | hid
      · exact Nat.lt_succ_self _
      · exact Nat.lt_succ_of_lt (UInt64.lt_iff_toNat_lt.mp (hBelow id hid))
    · exact hPerm.nodup_iff.mpr (List.nodup_cons.mpr ⟨(h.notMem hFewBefore).2, hNodup⟩)
  · obtain ⟨hZero, hFresh⟩ := h.notMem hFew
    exact absurd hTaken (not_or.mpr ⟨hZero, hFresh⟩)

namespace Arena

variable {α : Type} [Identified α]

/-- The ids of the stored objects, oldest first. -/
def ids (a : Arena α) : List ObjectId := a.items.map Identified.id

/-- What a change keeps of the object with the id is kept of all. -/
theorem map_modify {β : Type} {g : α → β} (a : Arena α) (i : ObjectId) (f : α → α)
    (keeps : ∀ x, Identified.id (f x) = Identified.id x)
    (hg : ∀ x, Identified.id x = i → g (f x) = g x) :
    (a.modify i f keeps).items.map g = a.items.map g := by
  rw [items_modify, List.map_map]
  refine List.map_congr_left fun x _ => ?_
  simp only [Function.comp]
  split
  · rename_i hId
    exact hg x (eq_of_beq hId)
  · rfl

@[simp] theorem ids_modify (a : Arena α) (i : ObjectId) (f : α → α)
    (keeps : ∀ x, Identified.id (f x) = Identified.id x) : (a.modify i f keeps).ids = a.ids :=
  map_modify a i f keeps fun x _ => keeps x

theorem isSome_find?_iff {a : Arena α} {i : ObjectId} : (a.find? i).isSome ↔ i ∈ a.ids := by
  rw [← contains_eq_isSome_find?]
  simp [contains, ids]

theorem ids_insert? {a b : Arena α} {x : α} (h : a.insert? x = some b) :
    b.ids = a.ids ++ [Identified.id x] := by
  rw [ids, (insert?_eq_some h).1, List.map_append]
  rfl

theorem insert?_eq_none_iff {a : Arena α} {x : α} :
    a.insert? x = none ↔ Identified.id x = 0 ∨ Identified.id x ∈ a.ids := by
  rw [← isSome_find?_iff, ← contains_eq_isSome_find?]
  by_cases hZero : Identified.id x = 0 <;> simp [insert?, hZero]

theorem items_insert (a : Arena α) (x : α) :
    (a.insert x).items = a.items ++ [x] ∨
    (a.insert x).items = a.items ∧ (Identified.id x = 0 ∨ Identified.id x ∈ a.ids) := by
  unfold insert
  cases h : a.insert? x with
  | none => exact Or.inr ⟨rfl, insert?_eq_none_iff.mp h⟩
  | some b => exact Or.inl (insert?_eq_some h).1

theorem ids_insert (a : Arena α) (x : α) :
    (a.insert x).ids = a.ids ++ [Identified.id x] ∨
    (a.insert x).ids = a.ids ∧ (Identified.id x = 0 ∨ Identified.id x ∈ a.ids) := by
  rcases a.items_insert x with hNew | ⟨hOld, hTaken⟩
  · left
    rw [ids, hNew, List.map_append]
    rfl
  · exact Or.inr ⟨by rw [ids, hOld, ids], hTaken⟩

end Arena

namespace DeviceTree

variable {t t' : DeviceTree} {p : Preparation} {a : Action} {n : Nat} {actions : List ObjectId}

/-- The ids of the stored devices and formats. -/
def storedIds (t : DeviceTree) : List ObjectId := t.devices.ids ++ t.formats.ids

/-- At least `n` objects are stored, and their ids, those of the actions included, were drawn in
turn. -/
def Numbered (t : DeviceTree) (actions : List ObjectId) (n : Nat) : Prop :=
  n ≤ (t.storedIds ++ actions).length ∧ Numbers t.ids.next (t.storedIds ++ actions)

/-- The same objects are stored, and no id is drawn. -/
structure SameIds (t t' : DeviceTree) : Prop where
  next : t'.ids = t.ids
  devices : t'.devices.ids = t.devices.ids
  formats : t'.formats.ids = t.formats.ids

theorem SameIds.refl (t : DeviceTree) : t.SameIds t := ⟨rfl, rfl, rfl⟩

theorem SameIds.isSome_device (h : t.SameIds t') {d : ObjectId} :
    (t'.device? d).isSome ↔ (t.device? d).isSome := by
  rw [device?, device?, Arena.isSome_find?_iff, Arena.isSome_find?_iff, h.devices]

theorem SameIds.isSome_format (h : t.SameIds t') {f : ObjectId} :
    (t'.format? f).isSome ↔ (t.format? f).isSome := by
  rw [format?, format?, Arena.isSome_find?_iff, Arena.isSome_find?_iff, h.formats]

theorem Numbered.of_same (h : t.Numbered actions n) (hSame : t.SameIds t') :
    t'.Numbered actions n := by
  unfold Numbered storedIds
  rw [hSame.next, hSame.devices, hSame.formats]
  exact h

theorem Numbered.draw (h : t.Numbered actions n) {ids : List ObjectId}
    (hNext : t'.ids = t.ids.take.2)
    (hDraw : (t'.storedIds ++ ids).Perm (t.ids.next :: (t.storedIds ++ actions)) ∨
      t'.storedIds ++ ids = t.storedIds ++ actions ∧
        (t.ids.next = 0 ∨ t.ids.next ∈ t.storedIds ++ actions)) :
    t'.Numbered ids n := by
  refine ⟨h.1.trans ?_, ?_⟩
  · rcases hDraw with hPerm | ⟨hSame, _⟩
    · rw [hPerm.length_eq]
      exact Nat.le_succ _
    · rw [hSame]
  · rw [hNext]
    exact h.2.draw hDraw

/-! ## Changes to what is stored -/

theorem modifyDevice_ids (t : DeviceTree) (id : ObjectId) (change : Device → Device)
    (keeps : ∀ d, (change d).id = d.id) : t.SameIds (t.modifyDevice id change keeps) :=
  ⟨rfl, t.devices.ids_modify id change keeps, rfl⟩

theorem modifyFormat_ids (t : DeviceTree) (id : ObjectId) (change : Format → Format)
    (keeps : ∀ f, (change f).id = f.id) : t.SameIds (t.modifyFormat id change keeps) :=
  ⟨rfl, rfl, t.formats.ids_modify id change keeps⟩

theorem undoConstruction_ids (t : DeviceTree) (a : Action) :
    t.SameIds (t.undoConstruction a).1 := by
  cases hStored : (t.device? a.device).isSome with
  | false =>
    rw [undoConstruction_of_missing hStored]
    exact .refl t
  | true =>
    rw [undoConstruction_fst hStored]
    cases a.operation with
    | createDevice | destroyDevice => exact .refl t
    | createFormat | destroyFormat | resizeDevice => exact modifyDevice_ids _ _ _ _
    | resizeFormat =>
      dsimp only
      split
      · exact .refl t
      · exact modifyFormat_ids _ _ _ _
    | addMember =>
      dsimp only
      split
      · exact modifyDevice_ids _ _ _ _
      · exact .refl t
    | removeMember =>
      dsimp only
      split
      · exact .refl t
      · exact modifyDevice_ids _ _ _ _

theorem add_ids {id : ObjectId} (h : t.add id = .ok t') : t.SameIds t' := by
  obtain ⟨_, _, _, rfl⟩ := add_ok h
  exact ⟨rfl, rfl, rfl⟩

theorem remove_ids {id : ObjectId} {force : Bool} (h : t.remove id force = .ok t') :
    t.SameIds t' := by
  rw [(remove_eq h).2]
  exact ⟨rfl, rfl, rfl⟩

theorem moves_ids {enters leaves : ActionKind} (h : t.Moves t' a enters leaves) :
    t.SameIds t' := by
  obtain ⟨order, presence, rfl⟩ := eq_of_moves h
  exact ⟨rfl, rfl, rfl⟩

theorem Numbered.storeFormat (h : t.Numbered actions n) (type : FormatType) (mountPoint : String)
    (onMedia : Bool) : (t.storeFormat type mountPoint onMedia).2.Numbered actions n := by
  refine h.draw rfl ?_
  show (t.devices.ids ++ (t.formats.insert (.ofType type t.ids.next mountPoint onMedia)).ids
    ++ actions).Perm _ ∨ t.devices.ids ++
      (t.formats.insert (.ofType type t.ids.next mountPoint onMedia)).ids ++ actions = _ ∧ _
  rcases t.formats.ids_insert (.ofType type t.ids.next mountPoint onMedia) with
    hNew | ⟨hOld, hTaken⟩
  · left
    rw [hNew, ← List.append_assoc, List.append_assoc]
    exact List.perm_middle
  · right
    refine ⟨by rw [hOld]; rfl, ?_⟩
    exact hTaken.imp id fun hMem =>
      List.mem_append_left _ (List.mem_append_right _ hMem)

/-- A device is stored under the next id, which is answered, unless that id is taken. -/
theorem storeDevice_ids (t : DeviceTree) (draft : DeviceDraft) (name : String) (number : Int) :
    let next := (t.storeFormat .blank "" false).2.ids.next
    let stored := t.storeDevice draft name number
    (stored.2.devices.ids = t.devices.ids ++ [next] ∧ stored.1 = next) ∨
      stored.2.devices.ids = t.devices.ids ∧ (next = 0 ∨ next ∈ t.devices.ids) := by
  intro next stored
  obtain ⟨device, hId, hDevices, hFirst⟩ : ∃ device : Device, device.id = next ∧
      stored.2.devices = t.devices.insert device ∧
      stored.1 = ((t.devices.insert device).last?.map Device.id).getD 0 := ⟨_, rfl, rfl, rfl⟩
  rw [hDevices, hFirst, ← hId]
  unfold Arena.insert
  cases hInsert : t.devices.insert? device with
  | none => exact Or.inr ⟨rfl, Arena.insert?_eq_none_iff.mp hInsert⟩
  | some devices =>
    refine Or.inl ⟨Arena.ids_insert? hInsert, ?_⟩
    rw [Option.getD_some, Arena.last?, (Arena.insert?_eq_some hInsert).1, List.getLast?_append]
    rfl

theorem Numbered.storeDevice (h : t.Numbered actions n) (draft : DeviceDraft) (name : String)
    (number : Int) : (t.storeDevice draft name number).2.Numbered actions n := by
  have hFormat := h.storeFormat .blank "" false
  refine hFormat.draw rfl ?_
  show ((t.storeDevice draft name number).2.devices.ids ++ _ ++ actions).Perm _ ∨
    (t.storeDevice draft name number).2.devices.ids ++ _ ++ actions = _ ∧ _
  rcases t.storeDevice_ids draft name number with ⟨hNew, _⟩ | ⟨hOld, hTaken⟩
  · left
    rw [hNew, List.append_assoc, List.append_assoc, storedIds, List.append_assoc]
    exact List.perm_middle
  · right
    refine ⟨by rw [hOld]; rfl, ?_⟩
    exact hTaken.imp id fun hMem => List.mem_append_left _ (List.mem_append_left _ hMem)

/-- The id of a stored device is new while ids are left. -/
theorem Numbered.storeDevice_fresh (h : t.Numbered actions n) (draft : DeviceDraft) (name : String)
    (number : Int)
    (hFew : ((t.storeDevice draft name number).2.storedIds ++ actions).length < 2 ^ 64 - 1) :
    (t.storeDevice draft name number).1 ∉ t.devices.ids ∧
      (t.storeDevice draft name number).1 ∈ (t.storeDevice draft name number).2.devices.ids := by
  have hFormat := h.storeFormat .blank "" false
  have hLe : t.devices.ids.length ≤ (t.storeDevice draft name number).2.devices.ids.length := by
    rcases t.storeDevice_ids draft name number with ⟨hNew, _⟩ | ⟨hOld, _⟩
    · rw [hNew, List.length_append]
      exact Nat.le_add_right _ _
    · rw [hOld]
  have hFew' : ((t.storeFormat .blank "" false).2.storedIds ++ actions).length < 2 ^ 64 - 1 := by
    have hFormats : (t.storeDevice draft name number).2.formats
        = (t.storeFormat .blank "" false).2.formats := rfl
    have hDevices : (t.storeFormat .blank "" false).2.devices = t.devices := rfl
    simp only [storedIds, hFormats, hDevices, List.length_append] at hFew ⊢
    omega
  obtain ⟨hZero, hFresh⟩ := hFormat.2.notMem hFew'
  have hFresh : (t.storeFormat .blank "" false).2.ids.next ∉ t.devices.ids := fun hMem =>
    hFresh (List.mem_append_left _ (List.mem_append_left _ hMem))
  rcases t.storeDevice_ids draft name number with ⟨hNew, hFirst⟩ | ⟨_, hTaken⟩
  · rw [hFirst, hNew]
    exact ⟨hFresh, List.mem_append_right _ (List.mem_singleton_self _)⟩
  · exact absurd hTaken (not_or.mpr ⟨hZero, hFresh⟩)

theorem Numbered.newFormat (h : t.Numbered actions n) {typeName mountPoint : String}
    {onMedia : Bool} {id : ObjectId}
    (hNew : t.newFormat typeName mountPoint onMedia = .ok (id, t')) : t'.Numbered actions n := by
  unfold DeviceTree.newFormat at hNew
  split at hNew
  · cases hNew
  · cases hNew
    exact h.storeFormat _ _ _

theorem Numbered.newDevice (h : t.Numbered actions n) {draft : DeviceDraft} {id : ObjectId}
    (hNew : t.newDevice draft = .ok (id, t')) : t'.Numbered actions n := by
  obtain ⟨name, number, rfl⟩ := eq_storeDevice_of_newDevice hNew
  exact h.storeDevice draft name number

theorem Numbered.adoptFormat (h : t.Numbered actions n) {id : ObjectId}
    {typeName mountPoint : String} (hAdopt : t.adoptFormat id typeName mountPoint = .ok t') :
    t'.Numbered actions n := by
  unfold DeviceTree.adoptFormat at hAdopt
  split at hAdopt
  · cases hAdopt
    exact h
  · obtain ⟨result, hNew, rfl⟩ := map_ok hAdopt
    exact (h.newFormat hNew).of_same (modifyDevice_ids _ _ _ _)

theorem Numbered.of_adopted (h : t.Numbered actions n) {id : ObjectId}
    {typeName mountPoint : String}
    (hFormat : t' = t ∨ t.adoptFormat id typeName mountPoint = .ok t') :
    t'.Numbered actions n := by
  rcases hFormat with rfl | hFormat
  · exact h
  · exact h.adoptFormat hFormat

theorem Numbered.prepares (h : t.Numbered actions n) (hPrepares : t.Prepares p) :
    p.tree.Numbered actions n := by
  cases hPrepares with
  | createDevice | destroyDevice => exact h
  | createFormat | resizeDevice | addMember | removeMember =>
    exact h.of_same (modifyDevice_ids _ _ _ _)
  | destroyFormat => exact (h.storeFormat _ _ _).of_same (modifyDevice_ids _ _ _ _)
  | resizeFormat => exact h.of_same (modifyFormat_ids _ _ _ _)

end DeviceTree

namespace Session

variable {s s' : Session} {p : Preparation} {n : Nat}

/-- The ids of all stored objects. -/
def storedIds (s : Session) : List ObjectId := s.tree.storedIds ++ s.actions.ids

/-- At least `n` objects are stored, and their ids were drawn in turn. -/
def Numbered (s : Session) (n : Nat) : Prop := s.tree.Numbered s.actions.ids n

theorem numbered_empty : ({} : Session).Numbered 0 :=
  ⟨Nat.zero_le _, fun _ => ⟨rfl, fun _ h => absurd h List.not_mem_nil, List.nodup_nil⟩⟩

theorem Numbered.le (h : s.Numbered n) : n ≤ s.storedIds.length := h.1

theorem Numbered.of_le {m : Nat} (h : s.Numbered n) (hm : m ≤ s.storedIds.length) :
    s.Numbered m := ⟨hm, h.2⟩

/-- **A prepared action finds its id free while ids are left.** -/
theorem Numbered.stores (h : s.Numbered n) (hPrepares : s.tree.Prepares p)
    (hFew : (s.carryOut p).storedIds.length < 2 ^ 64 - 1) :
    s.actions.insert? (s.actionOf p) ≠ none := by
  have hNumbers : Numbers p.tree.ids.next (p.tree.storedIds ++ s.actions.ids) :=
    (DeviceTree.Numbered.prepares h hPrepares).2
  obtain ⟨hZero, hFresh⟩ := hNumbers.notMem hFew
  intro hNone
  rcases Arena.insert?_eq_none_iff.mp hNone with h | h
  · exact hZero h
  · exact hFresh (List.mem_append_right _ h)

/-! ## Commands -/

theorem Numbered.of_sameIds (h : s.Numbered n) (hTree : s.tree.SameIds s'.tree)
    (hActions : s'.actions.ids = s.actions.ids) : s'.Numbered n := by
  unfold Session.Numbered
  rw [hActions]
  exact h.of_same hTree

theorem setState_ids (s : Session) (id : ObjectId) (state : ActionState) :
    (s.setState id state).actions.ids = s.actions.ids := by
  rw [setState, Arena.ids_modify]

theorem Numbered.answerTree (h : s.Numbered n) {result : Except Refusal (ObjectId × DeviceTree)}
    {changes : ObjectId → Changes}
    (hResult : ∀ id t, result = .ok (id, t) → t.Numbered s.actions.ids n) :
    (s.answerTree result changes).2.Numbered n := by
  cases hAnswer : result with
  | error cause => exact h
  | ok answer => exact hResult answer.1 answer.2 hAnswer

theorem Numbered.adoptDevice (h : s.Numbered n) (draft : DeviceDraft)
    (typeName mountPoint : String) : (s.adoptDevice draft typeName mountPoint).2.Numbered n := by
  rcases adoptDevice_cases s draft typeName mountPoint with
    ⟨_, hSame⟩ | ⟨id, bare, t, hNew, hFormat, ⟨_, hAfter⟩ | ⟨_, _, t', hAdd, hAfter⟩⟩
  · rw [hSame]
    exact h
  · rw [hAfter]
    exact (DeviceTree.Numbered.newDevice h hNew).of_adopted hFormat
  · rw [hAfter]
    exact ((DeviceTree.Numbered.newDevice h hNew).of_adopted hFormat).of_same
      (DeviceTree.add_ids hAdd)

theorem Numbered.carryOut (h : s.Numbered n) (hPrepares : s.tree.Prepares p)
    (hTaken : s.actions.insert? (s.actionOf p) = none) : (s.carryOut p).Numbered n := by
  refine (DeviceTree.Numbered.prepares h hPrepares).draw rfl (Or.inr ⟨rfl, ?_⟩)
  exact (Arena.insert?_eq_none_iff.mp hTaken).imp id fun hMem => List.mem_append_right _ hMem

theorem Numbered.construct (h : s.Numbered n) (hPrepares : s.tree.Prepares p)
    {actions : Arena Action} (hInsert : s.actions.insert? (s.actionOf p) = some actions) :
    ({ s.carryOut p with actions } : Session).Numbered n := by
  refine (DeviceTree.Numbered.prepares h hPrepares).draw rfl (Or.inl ?_)
  show (p.tree.storedIds ++ actions.ids).Perm _
  rw [Arena.ids_insert? hInsert, ← List.append_assoc]
  exact List.perm_append_singleton _ _

theorem Numbered.propose (h : s.Numbered n) (proposal : Proposal) :
    (s.propose proposal).2.Numbered n := by
  rcases propose_cases s proposal with
    hSame | ⟨preparation, hPrepare, ⟨hTaken, hSame⟩ | ⟨actions, _, hInsert, hNew⟩⟩
  · rw [hSame]
    exact h
  · rw [hSame]
    exact h.carryOut (DeviceTree.prepares_of_prepare hPrepare) hTaken
  · rw [hNew]
    exact h.construct (DeviceTree.prepares_of_prepare hPrepare) hInsert

theorem Numbered.register (h : s.Numbered n) (id : ObjectId) : (s.register id).2.Numbered n := by
  rcases register_cases s id with
    hSame | ⟨message, hSame⟩ | ⟨a, t, _, message, _, _, hApply, hNew⟩
  · rw [hSame]
    exact h
  · rw [hSame]
    exact h
  · rw [hNew]
    exact h.of_sameIds (DeviceTree.moves_ids (DeviceTree.applyRegistration_ok hApply))
      (setState_ids _ _ _)

theorem Numbered.cancel (h : s.Numbered n) (id : ObjectId) : (s.cancel id).2.Numbered n := by
  rcases cancel_cases s id with hSame | ⟨message, hSame⟩ | ⟨a, message, _, _, hNew⟩ |
    ⟨a, t, _, message, _, _, hUndo, hNew⟩
  · rw [hSame]
    exact h
  · rw [hSame]
    exact h
  · rw [hNew]
    exact h.of_sameIds (s.tree.undoConstruction_ids a) (setState_ids _ _ _)
  · rw [hNew]
    have hUndone := (DeviceTree.Numbered.of_same h (DeviceTree.moves_ids
      (DeviceTree.undoRegistration_ok hUndo))).of_same (t.undoConstruction_ids a)
    have hIds : ({ s.drop id .cancelled with tree := (t.undoConstruction a).1 }.setState id
        .cancelled).actions.ids = s.actions.ids :=
      (setState_ids _ _ _).trans (setState_ids _ _ _)
    unfold Session.Numbered
    rw [record_actions, hIds]
    exact hUndone

theorem numbered_kept (n : Nat) : Kept fun s => s.Numbered n where
  log := fun _ _ _ h => h
  newDevice := fun _ _ h => h.answerTree fun _ _ hNew => DeviceTree.Numbered.newDevice h hNew
  newFormat := fun _ _ _ _ h => h.answerTree fun _ _ hNew => DeviceTree.Numbered.newFormat h hNew
  addDevice := fun _ _ h => h.answerTree fun _ _ hAdd => by
    obtain ⟨t, hAdd, hPair⟩ := map_ok hAdd
    cases hPair
    exact DeviceTree.Numbered.of_same h (DeviceTree.add_ids hAdd)
  removeDevice := fun _ _ _ h => h.answerTree fun _ _ hRemove => by
    obtain ⟨t, hRemove, hPair⟩ := map_ok hRemove
    cases hPair
    exact DeviceTree.Numbered.of_same h (DeviceTree.remove_ids hRemove)
  adoptDevice := fun _ draft typeName mountPoint h => h.adoptDevice draft typeName mountPoint
  propose := fun _ p h => h.propose p
  register := fun _ id h => h.register id
  schedule := fun _ p h => schedule_preserves (P := fun s => s.Numbered n)
    (fun _ h => h.propose p) (fun _ id h => h.register id) (fun _ id h => h.cancel id) h
  pruneAction := fun _ _ _ h => h.of_sameIds (.refl _) (setState_ids _ _ _)

/-- **Ids are drawn in turn, as long as the counter is not replaced.** -/
theorem Numbered.perform_of_renumbers (h : s.Numbered n) {command : Command}
    (hRenumbers : command.renumbers = false) : (s.perform command).2.Numbered n := by
  cases command with
  | setNextId => cases hRenumbers
  | editDevice device patch => exact h.of_sameIds (DeviceTree.modifyDevice_ids _ _ _ _) rfl
  | editFormat format patch => exact h.of_sameIds (DeviceTree.modifyFormat_ids _ _ _ _) rfl
  | _ => exact (numbered_kept n).perform_of_cancel (fun _ id h => h.cancel id) h rfl

theorem Numbered.perform (h : s.Numbered n) {command : Command}
    (hOverwrites : command.overwrites = false) : (s.perform command).2.Numbered n :=
  h.perform_of_renumbers (Command.renumbers_of_overwrites hOverwrites)

theorem Numbered.performAll_of_renumbers (h : s.Numbered n) {commands : List Command}
    (hRenumbers : ∀ command ∈ commands, command.renumbers = false) :
    (s.performAll commands).Numbered n :=
  (along_of_forall hRenumbers s).performAll (I := fun s => s.Numbered n)
    (fun _ _ hCommand h => h.perform_of_renumbers hCommand) h

theorem Numbered.performAll (h : s.Numbered n) {commands : List Command}
    (hOverwrites : ∀ command ∈ commands, command.overwrites = false) :
    (s.performAll commands).Numbered n :=
  h.performAll_of_renumbers fun command hCommand =>
    Command.renumbers_of_overwrites (hOverwrites command hCommand)

/-- While the counter is not replaced the stored objects only get more, so that a bound for the last
step of a run is one for every step. -/
theorem Numbered.along_of_few {Good : Session → Command → Prop} {bound : Nat}
    (hGood : ∀ s command, s.Numbered n → (s.perform command).2.storedIds.length < bound →
      Good s command)
    (h : s.Numbered n) {commands : List Command}
    (hRenumbers : ∀ command ∈ commands, command.renumbers = false)
    (hFew : (s.performAll commands).storedIds.length < bound) : s.Along Good commands := by
  induction commands generalizing s with
  | nil => exact trivial
  | cons command commands ih =>
    have hFirst := h.perform_of_renumbers (hRenumbers command List.mem_cons_self)
    have hRest := fun other hOther => hRenumbers other (List.mem_cons_of_mem command hOther)
    have hLe := ((hFirst.of_le (le_refl _)).performAll_of_renumbers hRest).le
    exact ⟨hGood s command h (hLe.trans_lt hFew), ih hFirst hRest hFew⟩

/-- Ids that are left at the end of a run were left all along. -/
theorem Numbered.along_few (h : s.Numbered n) {commands : List Command}
    (hOverwrites : ∀ command ∈ commands, command.overwrites = false) {bound : Nat}
    (hFew : (s.performAll commands).storedIds.length < bound) :
    s.Along (fun s command => (s.perform command).2.storedIds.length < bound) commands :=
  along_of_few (fun _ _ _ h => h) h (fun command hCommand =>
    Command.renumbers_of_overwrites (hOverwrites command hCommand)) hFew

/-! ## While ids are left -/

/-- There are ids left for further objects. -/
def IdsLeft (s : Session) : Prop := s.storedIds.length < 2 ^ 64 - 1

/-- **While there are ids left, a proposal that is not refused stores its action**, and one was left
for it. -/
theorem Numbered.propose_cases (h : s.Numbered n) {proposal : Proposal}
    (hLeft : (s.propose proposal).2.IdsLeft) :
    (s.propose proposal).2 = s ∨
    ∃ preparation actions message, s.tree.Prepares preparation ∧ (s.carryOut preparation).IdsLeft ∧
      s.actions.insert? (s.actionOf preparation) = some actions ∧
      (s.propose proposal).2 = ({ s.carryOut preparation with actions }).record .info .construct
        (s.actionOf preparation).id message := by
  rcases Session.propose_cases s proposal with
    hSame | ⟨preparation, hPrepare, ⟨hTaken, hSame⟩ | ⟨actions, message, hInsert, hNew⟩⟩
  · exact Or.inl hSame
  · rw [hSame] at hLeft
    exact absurd hTaken (h.stores (DeviceTree.prepares_of_prepare hPrepare) hLeft)
  · refine Or.inr ⟨preparation, actions, message, DeviceTree.prepares_of_prepare hPrepare, ?_,
      hInsert, hNew⟩
    rw [hNew] at hLeft
    have hLeft : (preparation.tree.storedIds ++ actions.ids).length < 2 ^ 64 - 1 := hLeft
    show (preparation.tree.storedIds ++ s.actions.ids).length < 2 ^ 64 - 1
    rw [Arena.ids_insert? hInsert] at hLeft
    simp only [List.length_append] at hLeft ⊢
    omega

/-- Ids are drawn in turn, and a condition holds while there are ids left. -/
structure WhileLeft (P : Session → Prop) (s : Session) : Prop where
  numbered : s.Numbered 0
  holds : s.IdsLeft → P s

/-- What is left afterwards was left before. -/
theorem WhileLeft.step {P : Session → Prop} (h : s.WhileLeft P)
    (hNumbered : ∀ n, s.Numbered n → s'.Numbered n)
    (hStep : s.Numbered 0 → s.IdsLeft → P s → s'.IdsLeft → P s') : s'.WhileLeft P := by
  refine ⟨hNumbered 0 h.numbered, fun hLeft => ?_⟩
  have hLe : s.storedIds.length ≤ s'.storedIds.length :=
    (hNumbered _ (h.numbered.of_le le_rfl)).le
  have hBefore : s.IdsLeft := hLe.trans_lt hLeft
  exact hStep h.numbered hBefore (h.holds hBefore) hLeft

/-- While there are ids left the next one is the id of something. -/
theorem Numbered.next_ne_zero (h : s.Numbered n) (hLeft : s.IdsLeft) : s.tree.ids.next ≠ 0 :=
  (h.2.notMem hLeft).1

/-- What the basic calls keep while there are ids left. -/
structure KeptWhileLeft (P : Session → Prop) : Prop where
  log : ∀ s log number, P s → P { s with log, nextSequence := number }
  newDevice : ∀ s draft, s.Numbered 0 → s.IdsLeft → P s → (s.newDevice draft).2.IdsLeft →
    P (s.newDevice draft).2
  newFormat : ∀ s typeName mountPoint onMedia, P s →
    P (s.newFormat typeName mountPoint onMedia).2
  addDevice : ∀ s id, P s → P (s.addDevice id).2
  removeDevice : ∀ s id force, P s → P (s.removeDevice id force).2
  adoptDevice : ∀ s draft typeName mountPoint, s.Numbered 0 → s.IdsLeft → P s →
    (s.adoptDevice draft typeName mountPoint).2.IdsLeft →
    P (s.adoptDevice draft typeName mountPoint).2
  propose : ∀ s p, s.Numbered 0 → s.IdsLeft → P s → (s.propose p).2.IdsLeft → P (s.propose p).2
  register : ∀ s id, P s → P (s.register id).2
  cancel : ∀ s id, P s → P (s.cancel id).2
  pruneAction : ∀ s reason id, P s → P (s.pruneAction reason id)

section

variable {P : Session → Prop} (hP : KeptWhileLeft P)

include hP

theorem KeptWhileLeft.propose_step (h : s.WhileLeft P) (p : Proposal) :
    (s.propose p).2.WhileLeft P :=
  h.step (fun _ h => h.propose p) (hP.propose s p)

theorem KeptWhileLeft.register_step (h : s.WhileLeft P) (id : ObjectId) :
    (s.register id).2.WhileLeft P :=
  h.step (fun _ h => h.register id) fun _ _ hs _ => hP.register s id hs

theorem KeptWhileLeft.cancel_step (h : s.WhileLeft P) (id : ObjectId) :
    (s.cancel id).2.WhileLeft P :=
  h.step (fun _ h => h.cancel id) fun _ _ hs _ => hP.cancel s id hs

theorem KeptWhileLeft.kept : Kept fun s => s.WhileLeft P where
  log := fun s log number h => h.step (fun _ h => h) fun _ _ hs _ => hP.log s log number hs
  newDevice := fun s draft h =>
    h.step (fun n => (numbered_kept n).newDevice s draft) (hP.newDevice s draft)
  newFormat := fun s typeName mountPoint onMedia h =>
    h.step (fun n => (numbered_kept n).newFormat s typeName mountPoint onMedia) fun _ _ hs _ =>
      hP.newFormat s typeName mountPoint onMedia hs
  addDevice := fun s id h =>
    h.step (fun n => (numbered_kept n).addDevice s id) fun _ _ hs _ => hP.addDevice s id hs
  removeDevice := fun s id force h =>
    h.step (fun n => (numbered_kept n).removeDevice s id force) fun _ _ hs _ =>
      hP.removeDevice s id force hs
  adoptDevice := fun s draft typeName mountPoint h =>
    h.step (fun n => (numbered_kept n).adoptDevice s draft typeName mountPoint)
      (hP.adoptDevice s draft typeName mountPoint)
  propose := fun _ p h => hP.propose_step h p
  register := fun _ id h => hP.register_step h id
  schedule := fun _ _ h => schedule_preserves (P := fun s => s.WhileLeft P)
    (fun _ h => hP.propose_step h _) (fun _ id h => hP.register_step h id)
    (fun _ id h => hP.cancel_step h id) h
  pruneAction := fun s reason id h =>
    h.step (fun n => (numbered_kept n).pruneAction s reason id) fun _ _ hs _ =>
      hP.pruneAction s reason id hs

theorem KeptWhileLeft.perform (h : s.WhileLeft P) {command : Command}
    (hOverwrites : command.overwrites = false) : (s.perform command).2.WhileLeft P :=
  hP.kept.perform_of_cancel (fun _ id h => hP.cancel_step h id) h hOverwrites

/-- **What the basic calls keep while there are ids left holds after every run that leaves
some.** -/
theorem KeptWhileLeft.performAll (h : s.WhileLeft P) {commands : List Command}
    (hOverwrites : ∀ command ∈ commands, command.overwrites = false) :
    (s.performAll commands).WhileLeft P :=
  (along_of_forall hOverwrites s).performAll (I := fun s => s.WhileLeft P)
    (fun _ _ hCommand h => hP.perform h hCommand) h

end

end Session

end StoragePlan

import Mathlib.Logic.Function.Basic
import StoragePlan.Proofs.Numbering

/-!
# The effects of a plan

An action changes one slot of the tree: whether a device is present, which format it carries, the
size it shall get, the size its format shall get, or the members of a container.  What the action
writes there depends on that slot alone, and so does what is written when the action is taken back.

* `Remembers.withdraw`: in a list of actions **one that passes all later ones can be taken back**;
  what is left is the effect of the others.  An action passes those on other slots and the additions
  of other members to its container.
* `DeviceTree.Prepares.read_registered`, `DeviceTree.read_undone`: what scheduling and withdrawing
  an action do to the slots of a tree.
-/

namespace StoragePlan

open Function

/-- A part of a tree that an action changes. -/
inductive Slot where
  | presence (device : ObjectId)
  | content (device : ObjectId)
  | size (device : ObjectId)
  | contentSize (format : ObjectId)
  | members (container : ObjectId)
deriving DecidableEq, Repr

/-- What a slot holds. -/
inductive Reading where
  | present (there : Bool)
  | object (id : Option ObjectId)
  | target (size : Option ByteSize)
  | members (ids : List ObjectId)
deriving DecidableEq, Repr

/-- What a tree holds in a slot.  A format that is not stored has no size to get. -/
def DeviceTree.read (t : DeviceTree) : Slot → Reading
  | .presence device => .present (t.contains device)
  | .content device => .object ((t.device? device).map Device.formatId)
  | .size device => .target ((t.device? device).map Device.targetSize)
  | .contentSize format => .target (some (((t.format? format).map Format.targetSize).getD 0))
  | .members container => .members (t.parentsOf container)

namespace Action

/-- The slot that an action changes. -/
def slot (a : Action) : Slot :=
  match a.operation with
  | .createDevice | .destroyDevice => .presence a.device
  | .createFormat .. | .destroyFormat .. => .content a.device
  | .resizeDevice .. => .size a.device
  | .resizeFormat format .. => .contentSize format
  | .addMember container | .removeMember container _ => .members container

/-- What an action writes into its slot. -/
def effect (a : Action) (reading : Reading) : Reading :=
  match a.operation, reading with
  | .createDevice, _ => .present true
  | .destroyDevice, _ => .present false
  | .createFormat format _, _ => .object (some format)
  | .destroyFormat _ blank, _ => .object (some blank)
  | .resizeDevice size _ _, _ => .target (some size)
  | .resizeFormat _ size _ _, _ => .target (some size)
  | .addMember _, .members ids => .members (ids ++ [a.device])
  | .removeMember .., .members ids => .members (ids.erase a.device)
  | _, reading => reading

/-- What is written into the slot of an action when it is taken back. -/
def takeBack (a : Action) (reading : Reading) : Reading :=
  match a.operation, reading with
  | .createDevice, _ => .present false
  | .destroyDevice, _ => .present true
  | .createFormat _ previous, _ => .object (some previous)
  | .destroyFormat removed _, _ => .object (some removed)
  | .resizeDevice _ previous _, _ => .target (some previous)
  | .resizeFormat _ _ previous _, _ => .target (some previous)
  | .addMember _, .members ids => .members (DeviceTree.eraseLast a.device ids)
  | .removeMember _ position, .members ids =>
    .members (DeviceTree.insertAt position a.device ids)
  | _, reading => reading

/-- The place that a removal remembers is one in its container. -/
def Placed (a : Action) (reading : Reading) : Prop :=
  match a.operation, reading with
  | .removeMember _ position, .members ids => position ≤ ids.length
  | _, _ => True

/-- Taking back an action right after it took effect restores its slot. -/
structure Restorable (a : Action) (reading : Reading) : Prop where
  takeBack : a.takeBack (a.effect reading) = reading
  placed : a.Placed (a.effect reading)

/-- Whether an action can be taken back although `b` came after it: `b` has another slot, or it adds
a member to the same container, another one than the action itself added. -/
def passes (a b : Action) : Bool :=
  match a.operation, b.operation with
  | .addMember _, .addMember _ => a.slot != b.slot || a.device != b.device
  | .removeMember .., .addMember _ => true
  | _, _ => a.slot != b.slot

/-- The format that an action resizes. -/
def resized? (a : Action) : Option ObjectId :=
  match a.operation with
  | .resizeFormat format .. => some format
  | _ => none

end Action

/-! ## Lists of actions -/

/-- The slots after the effect of one action. -/
def act (readings : Slot → Reading) (a : Action) : Slot → Reading :=
  update readings a.slot (a.effect (readings a.slot))

/-- The slots after the effects of a list of actions, one after the other. -/
def replay (readings : Slot → Reading) (actions : List Action) : Slot → Reading :=
  actions.foldl act readings

/-- The slots after an action is taken back. -/
def withdraw (readings : Slot → Reading) (a : Action) : Slot → Reading :=
  update readings a.slot (a.takeBack (readings a.slot))

/-- Each of the actions can be taken back right after it took effect. -/
def Remembers (readings : Slot → Reading) : List Action → Prop
  | [] => True
  | a :: rest => a.Restorable (readings a.slot) ∧ Remembers (act readings a) rest

namespace DeviceTree

variable {x y : ObjectId} {l : List ObjectId}

theorem eraseLast_append_of_ne (h : x ≠ y) : eraseLast x (l ++ [y]) = eraseLast x l ++ [y] := by
  simp [eraseLast, List.erase_cons_tail, Ne.symm h]

theorem insertAt_append {position : Nat} (h : position ≤ l.length) :
    insertAt position x (l ++ [y]) = insertAt position x l ++ [y] := by
  have hLong : position ≤ (l ++ [y]).length := by
    rw [List.length_append]
    omega
  rw [insertAt, insertAt, Nat.min_eq_left h, Nat.min_eq_left hLong]
  clear hLong
  induction l generalizing position with
  | nil =>
    obtain rfl := Nat.le_zero.mp h
    rfl
  | cons z rest ih =>
    cases position with
    | zero => rfl
    | succ position => simp [ih (Nat.le_of_succ_le_succ h)]

end DeviceTree

namespace Action

variable {a b : Action} {reading : Reading}

/-- An action that passes another one on its slot. -/
theorem passes_of_slot (h : a.passes b = true) (hSlot : b.slot = a.slot) :
    ∃ c, b.operation = .addMember c ∧
      ((∃ c', a.operation = .addMember c') ∧ a.device ≠ b.device ∨
        ∃ c' position, a.operation = .removeMember c' position) := by
  unfold passes at h
  split at h
  · rename_i hA hB
    exact ⟨_, hB, Or.inl ⟨⟨_, hA⟩, by simpa [hSlot] using h⟩⟩
  · rename_i hA hB
    exact ⟨_, hB, Or.inr ⟨_, _, hA⟩⟩
  · simp [hSlot] at h

theorem takeBack_effect (h : a.passes b = true) (hSlot : b.slot = a.slot)
    (hPlaced : a.Placed reading) :
    a.takeBack (b.effect reading) = b.effect (a.takeBack reading) := by
  obtain ⟨c, hB, ⟨⟨c', hA⟩, hne⟩ | ⟨c', position, hA⟩⟩ := passes_of_slot h hSlot
  · cases reading with
    | members ids => simp only [takeBack, effect, hA, hB, DeviceTree.eraseLast_append_of_ne hne]
    | _ => simp only [takeBack, effect, hA, hB]
  · cases reading with
    | members ids =>
      simp only [Placed, hA] at hPlaced
      simp only [takeBack, effect, hA, hB, DeviceTree.insertAt_append hPlaced]
    | _ => simp only [takeBack, effect, hA, hB]

theorem Placed.effect (h : a.Placed reading) (hPasses : a.passes b = true)
    (hSlot : b.slot = a.slot) : a.Placed (b.effect reading) := by
  obtain ⟨c, hB, ⟨⟨c', hA⟩, hne⟩ | ⟨c', position, hA⟩⟩ := passes_of_slot hPasses hSlot
  · simp only [Placed, hA]
  · cases reading with
    | members ids =>
      simp only [Placed, Action.effect, hA, hB, List.length_append] at h ⊢
      omega
    | _ => simp only [Placed, Action.effect, hA, hB]

theorem restorable_of_addMember {c : ObjectId} (h : a.operation = .addMember c)
    (reading : Reading) : a.Restorable reading := by
  refine ⟨?_, by simp only [Placed, h]⟩
  cases reading <;> simp only [takeBack, effect, h, DeviceTree.eraseLast_append]

end Action

section

variable {readings other : Slot → Reading} {a b : Action} {before after : List Action}

theorem replay_cons (readings : Slot → Reading) (a : Action) (rest : List Action) :
    replay readings (a :: rest) = replay (act readings a) rest := rfl

theorem replay_append (readings : Slot → Reading) (before after : List Action) :
    replay readings (before ++ after) = replay (replay readings before) after :=
  List.foldl_append

theorem withdraw_act_self (h : a.Restorable (readings a.slot)) :
    withdraw (act readings a) a = readings := by
  rw [withdraw, act, update_self, update_idem, h.takeBack, update_eq_self]

/-- An action that passes `b` may be taken back before or after `b`. -/
theorem withdraw_act (hPasses : a.passes b = true) (hPlaced : a.Placed (readings a.slot)) :
    withdraw (act readings b) a = act (withdraw readings a) b := by
  by_cases hSlot : b.slot = a.slot
  · rw [withdraw, withdraw, act, act, hSlot, update_self, update_self, update_idem, update_idem,
      Action.takeBack_effect hPasses hSlot hPlaced]
  · rw [withdraw, withdraw, act, act, update_of_ne hSlot, update_of_ne (Ne.symm hSlot),
      update_comm (Ne.symm hSlot)]

theorem placed_act (hPasses : a.passes b = true) (hPlaced : a.Placed (readings a.slot)) :
    a.Placed (act readings b a.slot) := by
  by_cases hSlot : b.slot = a.slot
  · rw [act, hSlot, update_self]
    exact hPlaced.effect hPasses hSlot
  · rwa [act, update_of_ne (Ne.symm hSlot)]

theorem withdraw_replay (hPasses : ∀ b ∈ after, a.passes b = true)
    (hPlaced : a.Placed (readings a.slot)) :
    withdraw (replay readings after) a = replay (withdraw readings a) after := by
  induction after generalizing readings with
  | nil => rfl
  | cons b rest ih =>
    have hFirst := hPasses b List.mem_cons_self
    rw [replay_cons, replay_cons, ih (fun c hc => hPasses c (List.mem_cons_of_mem b hc))
      (placed_act hFirst hPlaced), withdraw_act hFirst hPlaced]

theorem remembers_append :
    Remembers readings (before ++ after) ↔
      Remembers readings before ∧ Remembers (replay readings before) after := by
  induction before generalizing readings with
  | nil => simp [Remembers, replay]
  | cons a rest ih => rw [List.cons_append, Remembers, Remembers, ih, and_assoc, replay_cons]

/-- Actions that a withdrawn one passes can still be taken back without it. -/
theorem Remembers.without (h : Remembers readings after) (hPasses : ∀ b ∈ after, a.passes b = true)
    (hSame : ∀ slot, slot ≠ a.slot → other slot = readings slot) : Remembers other after := by
  induction after generalizing readings other with
  | nil => exact trivial
  | cons b rest ih =>
    have hRest := fun c hc => hPasses c (List.mem_cons_of_mem b hc)
    by_cases hSlot : b.slot = a.slot
    · obtain ⟨c, hAdds, _⟩ := Action.passes_of_slot (hPasses b List.mem_cons_self) hSlot
      refine ⟨Action.restorable_of_addMember hAdds _, ih h.2 hRest fun slot hne => ?_⟩
      rw [act, act, hSlot, update_of_ne hne, update_of_ne hne, hSame slot hne]
    · refine ⟨hSame b.slot hSlot ▸ h.1, ih h.2 hRest fun slot hne => ?_⟩
      by_cases hOwn : slot = b.slot
      · rw [act, act, hOwn, update_self, update_self, hSame b.slot hSlot]
      · rw [act, act, update_of_ne hOwn, update_of_ne hOwn, hSame slot hne]

/-- **An action can be taken back when it passes all that came after it**: what is left is the effect
of the others. -/
theorem Remembers.withdraw (h : Remembers readings (before ++ a :: after))
    (hPasses : ∀ b ∈ after, a.passes b = true) :
    StoragePlan.withdraw (replay readings (before ++ a :: after)) a
      = replay readings (before ++ after) ∧ Remembers readings (before ++ after) := by
  obtain ⟨hBefore, hRestorable, hAfter⟩ := remembers_append.mp h
  have hPlaced : a.Placed (act (replay readings before) a a.slot) := by
    rw [act, update_self]
    exact hRestorable.placed
  constructor
  · rw [replay_append, replay_cons, withdraw_replay hPasses hPlaced,
      withdraw_act_self hRestorable, replay_append]
  · refine remembers_append.mpr ⟨hBefore, hAfter.without hPasses fun slot hne => ?_⟩
    rw [act, update_of_ne hne]

end

namespace DeviceTree

variable {t t' : DeviceTree} {p : Preparation} {a : Action} {d c f : ObjectId}

/-! ## Writing into one slot -/

theorem map_modifyDevice {β : Type} (t : DeviceTree) (id : ObjectId) (change : Device → Device)
    (keeps : ∀ d, (change d).id = d.id) {field : Device → β}
    (hField : ∀ device, field (change device) = field device) (d : ObjectId) :
    ((t.modifyDevice id change keeps).device? d).map field = (t.device? d).map field := by
  rw [device?_modifyDevice, Option.map_map]
  congr 1
  funext device
  simp only [Function.comp]
  split
  · exact hField device
  · rfl

theorem parentsOf_modifyDevice (t : DeviceTree) (id : ObjectId) (change : Device → Device)
    (keeps : ∀ d, (change d).id = d.id)
    (hParents : ∀ device, (change device).parents = device.parents)
    (d : ObjectId) : (t.modifyDevice id change keeps).parentsOf d = t.parentsOf d := by
  rw [parentsOf, parentsOf, map_modifyDevice t id change keeps hParents]

theorem read_setFormat (h : (t.device? d).isSome) (format : ObjectId) :
    (t.setFormat d format).read = update t.read (.content d) (.object (some format)) := by
  refine eq_update_iff.mpr ⟨?_, fun slot hne => ?_⟩
  · obtain ⟨device, hd⟩ := Option.isSome_iff_exists.mp h
    simp [read, setFormat, device?_modifyDevice, hd]
  · cases slot with
    | presence | contentSize => rfl
    | content e =>
      have hed : e ≠ d := fun hed => hne (hed ▸ rfl)
      simp [read, setFormat, device?_modifyDevice, hed]
    | size e =>
      rw [read, read, setFormat, map_modifyDevice]
      exact fun _ => rfl
    | members e =>
      rw [read, read, setFormat, parentsOf_modifyDevice]
      exact fun _ => rfl

theorem read_setTarget (h : (t.device? d).isSome) (size : ByteSize) :
    (t.setTarget d size).read = update t.read (.size d) (.target (some size)) := by
  refine eq_update_iff.mpr ⟨?_, fun slot hne => ?_⟩
  · obtain ⟨device, hd⟩ := Option.isSome_iff_exists.mp h
    simp [read, setTarget, device?_modifyDevice, hd]
  · cases slot with
    | presence | contentSize => rfl
    | content e =>
      rw [read, read, setTarget, map_modifyDevice]
      exact fun _ => rfl
    | size e =>
      have hed : e ≠ d := fun hed => hne (hed ▸ rfl)
      simp [read, setTarget, device?_modifyDevice, hed]
    | members e =>
      rw [read, read, setTarget, parentsOf_modifyDevice]
      exact fun _ => rfl

theorem read_changeParents (h : (t.device? c).isSome) (change : List ObjectId → List ObjectId) :
    (t.changeParents c change).read
      = update t.read (.members c) (.members (change (t.parentsOf c))) := by
  refine eq_update_iff.mpr ⟨?_, fun slot hne => ?_⟩
  · rw [read, parentsOf_changeParents h, if_pos rfl]
  · cases slot with
    | presence | contentSize => rfl
    | content e | size e =>
      rw [read, read, changeParents, map_modifyDevice]
      exact fun _ => rfl
    | members e =>
      have hec : e ≠ c := fun hec => hne (hec ▸ rfl)
      rw [read, read, parentsOf_changeParents h, if_neg hec]

theorem read_setFormatTarget (h : (t.format? f).isSome) (size : ByteSize) :
    (t.setFormatTarget f size).read = update t.read (.contentSize f) (.target (some size)) := by
  refine eq_update_iff.mpr ⟨?_, fun slot hne => ?_⟩
  · obtain ⟨format, hf⟩ := Option.isSome_iff_exists.mp h
    simp [read, setFormatTarget, format?_modifyFormat, hf]
  · cases slot with
    | presence | content | size | members => rfl
    | contentSize g =>
      have hgf : g ≠ f := fun hgf => hne (hgf ▸ rfl)
      simp [read, setFormatTarget, format?_modifyFormat, hgf]

/-- A new blank format shows in no slot. -/
theorem read_storeFormat (t : DeviceTree) : (t.storeFormat .blank "" false).2.read = t.read := by
  funext slot
  cases slot with
  | presence | content | size | members => rfl
  | contentSize f =>
    have hFind : (t.storeFormat .blank "" false).2.format? f
        = (t.formats.insert (.ofType .blank t.ids.next "" false)).find? f := rfl
    rw [read, read, hFind]
    cases hOld : t.format? f with
    | some format => rw [Arena.find?_insert_of_find? hOld]
    | none =>
      cases hNew : (t.formats.insert (.ofType .blank t.ids.next "" false)).find? f with
      | none => rfl
      | some format =>
        rcases Arena.of_find?_insert hNew with h | ⟨rfl, _⟩
        · exact absurd (h.symm.trans hOld) (by simp)
        · rfl

/-- A device that enters or leaves changes its own presence only. -/
theorem read_of_presence {order : List ObjectId} {presence : IdSet}
    (hOther : ∀ e, e ≠ d → presence.contains e = t.presence.contains e) :
    ({ t with order, presence } : DeviceTree).read
      = update t.read (.presence d) (.present (presence.contains d)) := by
  refine eq_update_iff.mpr ⟨rfl, fun slot hne => ?_⟩
  cases slot with
  | content | size | contentSize | members => rfl
  | presence e =>
    have hed : e ≠ d := fun hed => hne (hed ▸ rfl)
    exact congrArg Reading.present (hOther e hed)

theorem read_add (h : t.add d = .ok t') :
    t'.read = update t.read (.presence d) (.present true) := by
  obtain ⟨_, _, _, rfl⟩ := add_ok h
  have hOther : ∀ e, e ≠ d → (t.presence.insert d).contains e = t.presence.contains e := by
    intro e hed
    simp [hed]
  rw [read_of_presence hOther]
  simp

theorem read_remove (h : t.remove d = .ok t') :
    t'.read = update t.read (.presence d) (.present false) := by
  obtain ⟨_, _, rfl⟩ := remove_ok h
  have hOther : ∀ e, e ≠ d → (t.presence.erase d).contains e = t.presence.contains e := by
    intro e hed
    simp [hed]
  rw [read_of_presence hOther]
  simp

/-! ## Scheduling and withdrawing -/

theorem eraseLast_of_notMem {x : ObjectId} {l : List ObjectId} (h : x ∉ l) : eraseLast x l = l := by
  rw [eraseLast, List.erase_of_not_mem (by simpa using h), List.reverse_reverse]

theorem Prepares.read_tree (h : t.Prepares p) (hDevice : a.device = p.device)
    (hOp : a.operation = p.operation) (hCreate : a.kind ≠ .createDevice)
    (hDestroy : a.kind ≠ .destroyDevice) : p.tree.read = act t.read a := by
  unfold act Action.slot Action.effect
  unfold Action.kind at hCreate hDestroy
  rw [hOp] at hCreate hDestroy ⊢
  rw [hDevice]
  cases h with
  | createDevice => exact absurd rfl hCreate
  | destroyDevice => exact absurd rfl hDestroy
  | createFormat hd => exact read_setFormat (Option.isSome_of_eq_some hd) _
  | destroyFormat hd =>
    have hFormat := read_setFormat (t := (t.storeFormat .blank "" false).2)
      (Option.isSome_of_eq_some hd) t.ids.next
    rw [read_storeFormat] at hFormat
    exact hFormat
  | resizeDevice hd => exact read_setTarget (Option.isSome_of_eq_some hd) _
  | resizeFormat hd hContent =>
    exact read_setFormatTarget (Option.isSome_of_eq_some (format_of_content hContent).1) _
  | addMember hc | removeMember hc =>
    exact read_changeParents (Option.isSome_of_eq_some hc) _

/-- An action that is registered takes effect on its slot and on no other one. -/
theorem Prepares.read_registered (h : t.Prepares p) (hDevice : a.device = p.device)
    (hOp : a.operation = p.operation) {carried : DeviceTree} (hCarried : carried.read = p.tree.read)
    {changes : Changes} (hApply : carried.applyRegistration a = .ok (t', changes)) :
    t'.read = act t.read a := by
  have hStart : a.kind = .createDevice ∨ a.kind = .destroyDevice → carried.read = t.read := by
    intro hKind
    unfold Action.kind at hKind
    rw [hCarried, h.tree_eq (hOp ▸ hKind)]
  rcases applyRegistration_ok hApply with
    ⟨hKind, hAdd⟩ | ⟨hKind, hRemove⟩ | ⟨hCreate, hDestroy, rfl⟩
  · rw [read_add hAdd, hStart (Or.inl hKind)]
    simp only [act, Action.slot, Action.effect, Action.operation_of_createDevice hKind]
  · rw [read_remove hRemove, hStart (Or.inr hKind)]
    simp only [act, Action.slot, Action.effect, Action.operation_of_destroyDevice hKind]
  · rw [hCarried]
    exact h.read_tree hDevice hOp hCreate hDestroy

/-- What an action remembers is what its slot held. -/
theorem Prepares.takeBack_effect (h : t.Prepares p) (hDevice : a.device = p.device)
    (hOp : a.operation = p.operation) {carried : DeviceTree} (hRecords : t.SameRecords carried)
    {changes : Changes} (hApply : carried.applyRegistration a = .ok (t', changes)) :
    a.takeBack (a.effect (t.read a.slot)) = t.read a.slot := by
  have hMoves := applyRegistration_ok hApply
  unfold Moves Action.kind at hMoves
  unfold Action.takeBack Action.effect Action.slot
  rw [hOp] at hMoves ⊢
  rw [hDevice] at hMoves ⊢
  cases h with
  | createDevice =>
    rcases hMoves with ⟨_, hAdd⟩ | ⟨hKind, _⟩ | ⟨hKind, _⟩
    · obtain ⟨_, hAbsent, _⟩ := add_ok hAdd
      rw [hRecords.contains] at hAbsent
      simp [read, hAbsent]
    · cases hKind
    · exact absurd rfl hKind
  | destroyDevice =>
    rcases hMoves with ⟨hKind, _⟩ | ⟨_, hRemove⟩ | ⟨_, hKind, _⟩
    · cases hKind
    · obtain ⟨hPresent, _⟩ := remove_ok hRemove
      rw [hRecords.contains] at hPresent
      simp [read, hPresent]
    · exact absurd rfl hKind
  | createFormat hd | destroyFormat hd | resizeDevice hd => simp [read, hd]
  | resizeFormat hd hContent => simp [read, (format_of_content hContent).1]
  | addMember hc => simp [read, eraseLast_append]
  | removeMember hc hm hMember =>
    have hParents := parentsOf_eq hc
    simp only [read, hParents, insertAt_idxOf_erase hMember]

theorem Prepares.restorable (h : t.Prepares p) (hDevice : a.device = p.device)
    (hOp : a.operation = p.operation) {carried : DeviceTree} (hRecords : t.SameRecords carried)
    {changes : Changes} (hApply : carried.applyRegistration a = .ok (t', changes)) :
    a.Restorable (t.read a.slot) := by
  refine ⟨h.takeBack_effect hDevice hOp hRecords hApply, ?_⟩
  unfold Action.Placed Action.effect Action.slot
  rw [hOp, hDevice]
  cases h with
  | removeMember hc hm hMember =>
    have hLength := List.length_erase_of_mem hMember
    have hPlace := List.idxOf_lt_length_of_mem hMember
    simp only [read, parentsOf_eq hc]
    omega
  | _ => trivial

/-- An action that is withdrawn is taken back on its slot and changes no other one. -/
theorem read_undone (hDevice : (t.device? a.device).isSome)
    (hContainer : ∀ c ∈ a.container?, (t.device? c).isSome)
    (hFormat : ∀ f ∈ a.resized?, (t.format? f).isSome) {changes : Changes}
    (hUndo : t.undoRegistration a = .ok (t', changes)) :
    (t'.undoConstruction a).1.read = withdraw t.read a := by
  have hMoves := undoRegistration_ok hUndo
  have hStored : (t'.device? a.device).isSome := (moves_ids hMoves).isSome_device.mpr hDevice
  rw [undoConstruction_fst hStored]
  unfold Moves Action.kind at hMoves
  unfold Action.container? at hContainer
  unfold Action.resized? at hFormat
  unfold withdraw Action.slot Action.takeBack
  cases hOp : a.operation <;> rw [hOp] at hMoves hContainer hFormat <;> dsimp only
  case createDevice =>
    rcases hMoves with ⟨hKind, _⟩ | ⟨_, hRemove⟩ | ⟨_, hKind, _⟩
    · cases hKind
    · exact read_remove hRemove
    · exact absurd rfl hKind
  case destroyDevice =>
    rcases hMoves with ⟨_, hAdd⟩ | ⟨hKind, _⟩ | ⟨hKind, _⟩
    · exact read_add hAdd
    · cases hKind
    · exact absurd rfl hKind
  all_goals
    obtain rfl : t' = t := by
      rcases hMoves with ⟨hKind, _⟩ | ⟨hKind, _⟩ | ⟨_, _, hSame⟩
      · cases hKind
      · cases hKind
      · exact hSame
  case createFormat format previous => exact read_setFormat hDevice previous
  case destroyFormat removed blank => exact read_setFormat hDevice removed
  case resizeDevice size previous direction => exact read_setTarget hDevice previous
  case resizeFormat format size previous direction =>
    have hThere := hFormat format rfl
    rw [if_neg (by simpa [Option.isSome_iff_ne_none] using hThere)]
    exact read_setFormatTarget hThere previous
  case addMember container =>
    split
    · exact read_changeParents (hContainer container rfl) _
    · rename_i hMember
      show t'.read = update t'.read (.members container)
        (.members (eraseLast a.device (t'.parentsOf container)))
      rw [eraseLast_of_notMem hMember]
      exact (update_eq_self (Slot.members container) t'.read).symm
  case removeMember container position =>
    have hThere := hContainer container rfl
    rw [if_neg (by simpa [Option.isSome_iff_ne_none] using hThere)]
    exact read_changeParents hThere _

theorem Prepares.isSome_format (h : t.Prepares p) (hf : (t.format? f).isSome) :
    (p.tree.format? f).isSome := by
  cases h with
  | destroyFormat =>
    obtain ⟨format, hf⟩ := Option.isSome_iff_exists.mp hf
    exact Option.isSome_iff_exists.mpr ⟨format, Arena.find?_insert_of_find? hf _⟩
  | resizeFormat =>
    rw [setFormatTarget, format?_modifyFormat, Option.isSome_map]
    exact hf
  | _ => exact hf

theorem Prepares.isSome_resized (h : t.Prepares p) (hOp : a.operation = p.operation) :
    ∀ f ∈ a.resized?, (t.format? f).isSome := by
  unfold Action.resized?
  rw [hOp]
  intro f hf
  cases h <;> cases hf
  rename_i hContent _ _
  exact Option.isSome_of_eq_some (format_of_content hContent).1

end DeviceTree

end StoragePlan

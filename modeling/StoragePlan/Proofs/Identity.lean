import StoragePlan.Proofs.Numbering

/-!
# Identities

One counter numbers the devices, the formats and the actions of a session, and the actions carry a
name besides.  In a run that does not replace the counter and leaves some ids,

* the ids of the stored objects are **exactly the numbers drawn so far**, each of them once: no
  object that was drawn an id is lost (`Numbered.mem_storedIds_iff`);
* actions are stored **in the order of their ids** and named by their places (`InTurn`), so no two
  of them share a name (`serialText_injective`);
* no command is refused because the id of an action was taken
  (`Numbered.idsLeft_of_refusal`).

`ids_follow_construction` puts these together.
-/

namespace StoragePlan

/-! ## Names -/

/-- Zeros on the left do not change the number that digits show. -/
theorem ofDigitChars_leftpad (width : Nat) (digits : List Char) :
    Nat.ofDigitChars 10 (List.leftpad width '0' digits) 0 = Nat.ofDigitChars 10 digits 0 := by
  rw [List.leftpad, Nat.ofDigitChars_append]
  congr 1
  induction width - digits.length with
  | zero => rfl
  | succ n ih =>
    rw [List.replicate_succ, Nat.ofDigitChars_cons]
    exact ih

/-- **A serial text tells its number**, also past the width to which it is padded. -/
theorem serialText_injective (series : String) (width : Int) :
    Function.Injective fun serial => serialText series serial width := by
  intro m n h
  have hDigits : List.leftpad width.toNat '0' (Nat.toDigits 10 m)
      = List.leftpad width.toNat '0' (Nat.toDigits 10 n) :=
    String.ofList_injective ((String.append_right_inj _).mp h)
  have hNumber := congrArg (Nat.ofDigitChars 10 · 0) hDigits
  simpa only [ofDigitChars_leftpad, Nat.ofDigitChars_ten_toDigits] using hNumber

/-! ## Ids -/

/-- Ids drawn in turn are all the numbers below the next one. -/
theorem Numbers.mem_iff {next : ObjectId} {ids : List ObjectId} (h : Numbers next ids)
    (hFew : ids.length < 2 ^ 64 - 1) (hValid : ∀ id ∈ ids, id ≠ 0) (id : ObjectId) :
    id ∈ ids ↔ id ≠ 0 ∧ id < next := by
  obtain ⟨hNext, hBelow, hNodup⟩ := h hFew
  have hSub : ids.map UInt64.toNat ⊆ List.range' 1 ids.length := by
    intro n hn
    obtain ⟨id, hid, rfl⟩ := List.mem_map.mp hn
    have hLt : id.toNat < next.toNat := UInt64.lt_iff_toNat_lt.mp (hBelow id hid)
    have hPos : id.toNat ≠ 0 := fun hZero => hValid id hid (UInt64.toNat_inj.mp hZero)
    rw [List.mem_range'_1]
    omega
  have hPerm : (ids.map UInt64.toNat).Perm (List.range' 1 ids.length) :=
    ((hNodup.map fun _ _ => UInt64.toNat_inj.mp).subperm hSub).perm_of_length_le (by simp)
  refine ⟨fun hid => ⟨hValid id hid, hBelow id hid⟩, fun ⟨hZero, hLt⟩ => ?_⟩
  have hPos : id.toNat ≠ 0 := fun h => hZero (UInt64.toNat_inj.mp h)
  have hBound : id.toNat < next.toNat := UInt64.lt_iff_toNat_lt.mp hLt
  have hMem : id.toNat ∈ ids.map UInt64.toNat := by
    rw [hPerm.mem_iff, List.mem_range'_1]
    omega
  obtain ⟨other, hOther, hSame⟩ := List.mem_map.mp hMem
  exact UInt64.toNat_inj.mp hSame ▸ hOther

/-- No stored object has the id of nothing. -/
theorem Arena.ne_zero_of_mem_ids {α : Type} [Identified α] {a : Arena α} {id : ObjectId}
    (h : id ∈ a.ids) : id ≠ 0 := by
  obtain ⟨x, hx, rfl⟩ := List.mem_map.mp h
  exact a.ids_valid x hx

namespace Session

variable {s s' : Session} {α : Type}

theorem ne_zero_of_mem_storedIds {id : ObjectId} (h : id ∈ s.storedIds) : id ≠ 0 := by
  rcases List.mem_append.mp h with h | h
  · rcases List.mem_append.mp h with h | h
    · exact Arena.ne_zero_of_mem_ids h
    · exact Arena.ne_zero_of_mem_ids h
  · exact Arena.ne_zero_of_mem_ids h

/-- **What was drawn is stored**: the stored ids are those below the next one. -/
theorem Numbered.mem_storedIds_iff {n : Nat} (h : s.Numbered n) (hLeft : s.IdsLeft)
    (id : ObjectId) : id ∈ s.storedIds ↔ id ≠ 0 ∧ id < s.tree.ids.next :=
  h.2.mem_iff hLeft (fun _ => ne_zero_of_mem_storedIds) id

/-! ## Actions -/

/-- The names of the stored actions, oldest first. -/
def displayIds (s : Session) : List String := s.actions.items.map Action.displayId

/-- Actions are stored in the order of their ids, and named by their places. -/
structure InTurn (s : Session) : Prop where
  increasing : s.actions.ids.Pairwise (· < ·)
  serial : s.nextSerial = s.actions.size + 1
  named : s.displayIds = (List.range' 1 s.actions.size).map (serialText "A" ·)

theorem inTurn_empty : ({} : Session).InTurn := ⟨List.Pairwise.nil, rfl, rfl⟩

theorem InTurn.displayIds_nodup (h : s.InTurn) : s.displayIds.Nodup := by
  rw [h.named]
  exact (List.nodup_range' 1).map (serialText_injective "A" defaultSerialWidth)

theorem InTurn.of_same (h : s.InTurn) (hActions : s'.actions = s.actions)
    (hSerial : s'.nextSerial = s.nextSerial) : s'.InTurn := by
  refine ⟨?_, ?_, ?_⟩
  · rw [hActions]
    exact h.increasing
  · rw [hActions, hSerial]
    exact h.serial
  · rw [displayIds, hActions]
    exact h.named

theorem InTurn.setState (h : s.InTurn) (id : ObjectId) (state : ActionState) :
    (s.setState id state).InTurn := by
  have hSize : (s.setState id state).actions.size = s.actions.size := List.length_map _
  refine ⟨?_, ?_, ?_⟩
  · rw [setState_ids]
    exact h.increasing
  · rw [hSize]
    exact h.serial
  · rw [hSize, ← h.named]
    exact s.actions.map_modify (g := Action.displayId) id (fun a => { a with state })
      (fun _ => rfl) fun _ _ => rfl

/-- The action stored last has a greater id than the others, and the name of its place. -/
theorem InTurn.insert {p : Preparation} {actions : Arena Action} (h : s.InTurn)
    (hInsert : s.actions.insert? (s.actionOf p) = some actions)
    (hNew : ∀ id ∈ s.actions.ids, id < p.tree.ids.next) :
    ({ s.carryOut p with actions } : Session).InTurn := by
  have hItems := (Arena.insert?_eq_some hInsert).1
  have hSize : actions.size = s.actions.size + 1 := by
    rw [Arena.size, hItems, List.length_append]
    rfl
  refine ⟨?_, ?_, ?_⟩
  · show actions.ids.Pairwise (· < ·)
    rw [Arena.ids_insert? hInsert, List.pairwise_append]
    refine ⟨h.increasing, List.pairwise_singleton _ _, fun id hid other hOther => ?_⟩
    rw [List.mem_singleton.mp hOther]
    exact hNew id hid
  · show s.nextSerial + 1 = actions.size + 1
    rw [hSize, h.serial]
  · show actions.items.map Action.displayId = (List.range' 1 actions.size).map _
    rw [hItems, hSize, List.map_append, List.range'_concat, List.map_append]
    refine congrArg₂ _ h.named ?_
    show [serialText "A" s.nextSerial] = [serialText "A" (1 + 1 * s.actions.size)]
    rw [h.serial, Nat.one_mul, Nat.add_comm]

theorem InTurn.propose (h : s.InTurn) (hNumbered : s.Numbered 0) (p : Proposal)
    (hLeft : (s.propose p).2.IdsLeft) : (s.propose p).2.InTurn := by
  rcases hNumbered.propose_cases hLeft with
    hSame | ⟨preparation, actions, _, hPrepares, hBefore, hInsert, hNew⟩
  · rw [hSame]
    exact h
  · rw [hNew]
    have hTree : preparation.tree.Numbered s.actions.ids 0 :=
      DeviceTree.Numbered.prepares hNumbered hPrepares
    obtain ⟨_, hBelow, _⟩ := hTree.2 hBefore
    have hInTurn := h.insert hInsert fun id hid => hBelow id (List.mem_append_right _ hid)
    exact hInTurn.of_same rfl rfl

theorem InTurn.answerTree (h : s.InTurn) (result : Except Refusal (ObjectId × DeviceTree))
    (changes : ObjectId → Changes) : (s.answerTree result changes).2.InTurn := by
  obtain ⟨t, hTree⟩ := answerTree_snd s result changes
  rw [hTree]
  exact h.of_same rfl rfl

theorem InTurn.adoptDevice (h : s.InTurn) (draft : DeviceDraft) (typeName mountPoint : String) :
    (s.adoptDevice draft typeName mountPoint).2.InTurn := by
  obtain ⟨t, hTree⟩ := adoptDevice_snd s draft typeName mountPoint
  rw [hTree]
  exact h.of_same rfl rfl

theorem InTurn.register (h : s.InTurn) (id : ObjectId) : (s.register id).2.InTurn := by
  rcases register_cases s id with hSame | ⟨_, hSame⟩ | ⟨a, t, _, _, _, _, _, hNew⟩
  · rw [hSame]
    exact h
  · rw [hSame]
    exact h.of_same rfl rfl
  · rw [hNew]
    exact (h.setState id .registered).of_same rfl rfl

theorem InTurn.cancel (h : s.InTurn) (id : ObjectId) : (s.cancel id).2.InTurn := by
  rcases cancel_cases s id with
    hSame | ⟨_, hSame⟩ | ⟨a, _, _, _, hNew⟩ | ⟨a, t, _, _, _, _, _, hNew⟩
  · rw [hSame]
    exact h
  · rw [hSame]
    exact h.of_same rfl rfl
  · rw [hNew]
    exact (h.setState id .cancelled).of_same rfl rfl
  · rw [hNew]
    exact ((h.setState id .cancelled).setState id .cancelled).of_same rfl rfl

theorem inTurn_kept : KeptWhileLeft InTurn where
  log := fun _ _ _ h => h.of_same rfl rfl
  newDevice := fun _ _ _ _ h _ => h.answerTree _ _
  newFormat := fun _ _ _ _ h => h.answerTree _ _
  addDevice := fun _ _ h => h.answerTree _ _
  removeDevice := fun _ _ _ h => h.answerTree _ _
  adoptDevice := fun _ draft typeName mountPoint _ _ h _ => h.adoptDevice draft typeName mountPoint
  propose := fun _ p hNumbered _ h hLeft => h.propose hNumbered p hLeft
  register := fun _ id h => h.register id
  cancel := fun _ id h => h.cancel id
  pruneAction := fun _ _ id h => (h.setState id .pruned).of_same rfl rfl

/-- **Every command that leaves the counter alone keeps actions in turn**, direct writes into
devices and formats included. -/
theorem inTurn_perform (h : s.WhileLeft InTurn) {command : Command}
    (hRenumbers : command.renumbers = false) : (s.perform command).2.WhileLeft InTurn := by
  cases command with
  | setNextId => cases hRenumbers
  | editDevice | editFormat =>
    exact h.step (fun _ h => h.perform_of_renumbers rfl) fun _ _ hs _ => hs.of_same rfl rfl
  | _ => exact inTurn_kept.perform h rfl

theorem inTurn_performAll (h : s.WhileLeft InTurn) {commands : List Command}
    (hRenumbers : ∀ command ∈ commands, command.renumbers = false) :
    (s.performAll commands).WhileLeft InTurn :=
  (along_of_forall hRenumbers s).performAll (I := fun s => s.WhileLeft InTurn)
    (fun _ _ hCommand h => inTurn_perform h hCommand) h

end Session

/-! ## Refusals -/

/-- Why a command was refused, if it was. -/
def Reply.refusal? : Reply → Option Refusal
  | object o => o.refusal
  | actions o => o.refusal
  | done _ | nextId _ => none

/-- A result that does not say that the id of an action is taken. -/
def NoCollision {α : Type} (result : Except Refusal α) : Prop := result ≠ .error .idCollision

section

variable {α β : Type} {x : Except Refusal α}

theorem noCollision_ok (a : α) : NoCollision (.ok a) := fun h => nomatch h

theorem NoCollision.error {cause : Refusal} (h : cause ≠ .idCollision) :
    NoCollision (.error cause : Except Refusal α) := fun hSame => h (Except.error.inj hSame)

theorem NoCollision.bind {f : α → Except Refusal β} (h : NoCollision x)
    (hNext : ∀ a, NoCollision (f a)) : NoCollision (x >>= f) := by
  cases x with
  | error cause => exact .error fun hSame => h (hSame ▸ rfl)
  | ok a => exact hNext a

theorem NoCollision.map {f : α → β} (h : NoCollision x) : NoCollision (x.map f) := by
  cases x with
  | error cause => exact .error fun hSame => h (hSame ▸ rfl)
  | ok a => exact noCollision_ok (f a)

end

namespace DeviceTree

variable (t : DeviceTree)

theorem noCollision_add (id : ObjectId) : NoCollision (t.add id) := by
  unfold add NoCollision
  split
  · simp
  · split_ifs <;> simp

theorem noCollision_remove (id : ObjectId) (force : Bool) : NoCollision (t.remove id force) := by
  unfold remove NoCollision
  split_ifs <;> simp

theorem noCollision_checkParents (seen parents : List ObjectId) :
    NoCollision (t.checkParents seen parents) := by
  induction parents generalizing seen with
  | nil => exact noCollision_ok ()
  | cons id rest ih =>
    unfold checkParents
    split_ifs
    · exact .error (by decide)
    · exact .error (by decide)
    · exact ih _

theorem noCollision_checkKind (draft : DeviceDraft) : NoCollision (t.checkKind draft) := by
  unfold checkKind NoCollision
  split <;> (try split) <;> (try split) <;> simp

theorem noCollision_newFormat (typeName mountPoint : String) (onMedia : Bool) :
    NoCollision (t.newFormat typeName mountPoint onMedia) := by
  unfold newFormat NoCollision
  split <;> simp

theorem noCollision_newDevice (draft : DeviceDraft) : NoCollision (t.newDevice draft) := by
  unfold newDevice
  split
  · exact .error (by decide)
  · exact (t.noCollision_checkParents _ _).bind fun _ =>
      (t.noCollision_checkKind draft).bind fun result => noCollision_ok _

theorem noCollision_adoptFormat (id : ObjectId) (typeName mountPoint : String) :
    NoCollision (t.adoptFormat id typeName mountPoint) := by
  unfold adoptFormat
  split
  · exact noCollision_ok t
  · exact (t.noCollision_newFormat _ _ _).map

theorem noCollision_target (id : ObjectId) : NoCollision (t.target id) := by
  unfold target NoCollision
  split <;> simp

theorem noCollision_prepareResizeDevice (device : Device) (size : ByteSize) :
    NoCollision (t.prepareResizeDevice device size) := by
  unfold prepareResizeDevice deviceSizeRefusal? NoCollision
  split_ifs <;> simp

theorem noCollision_prepareResizeFormat (device : Device) (size : ByteSize) :
    NoCollision (t.prepareResizeFormat device size) := by
  unfold prepareResizeFormat NoCollision
  split
  · simp
  · dsimp only
    unfold formatSizeRefusal?
    split_ifs <;> simp

theorem noCollision_prepareAddMember (container member : Device) :
    NoCollision (t.prepareAddMember container member) := by
  unfold prepareAddMember NoCollision
  split_ifs <;> simp

theorem noCollision_prepareRemoveMember (container member : Device) :
    NoCollision (t.prepareRemoveMember container member) := by
  unfold prepareRemoveMember NoCollision
  split_ifs <;> simp

/-- A proposal is never refused for the id of its action before the action is stored. -/
theorem noCollision_prepare (p : Proposal) : NoCollision (t.prepare p) := by
  cases p with
  | createDevice id =>
    refine (t.noCollision_target id).bind fun device => ?_
    split
    · exact .error (by simp)
    · exact noCollision_ok _
  | destroyDevice id => exact (t.noCollision_target id).bind fun _ => noCollision_ok _
  | createFormat id format =>
    refine (t.noCollision_target id).bind fun device => ?_
    split
    · exact .error (by decide)
    · exact noCollision_ok _
  | destroyFormat id => exact (t.noCollision_target id).bind fun _ => noCollision_ok _
  | resizeDevice id size =>
    exact (t.noCollision_target id).bind fun device => t.noCollision_prepareResizeDevice device size
  | resizeFormat id size =>
    exact (t.noCollision_target id).bind fun device => t.noCollision_prepareResizeFormat device size
  | addMember container member =>
    exact (t.noCollision_target container).bind fun container =>
      (t.noCollision_target member).bind fun member =>
        t.noCollision_prepareAddMember container member
  | removeMember container member =>
    exact (t.noCollision_target container).bind fun container =>
      (t.noCollision_target member).bind fun member =>
        t.noCollision_prepareRemoveMember container member

theorem noCollision_applyRegistration (a : Action) : NoCollision (t.applyRegistration a) := by
  unfold applyRegistration
  split
  · split
    · exact .error (by decide)
    · exact (t.noCollision_add _).map
  · exact (t.noCollision_remove _ _).map
  · split_ifs
    · exact .error (by decide)
    · exact .error (by decide)
    · exact noCollision_ok _

end DeviceTree

namespace Session

variable {s : Session} {α β : Type}

/-! ### Calls that store no action -/

theorem andThen_refusal_ne {answer : Answer α} {next : α → Session → Answer α}
    (h : answer.1.refusal ≠ some .idCollision)
    (hNext : ∀ x s, (next x s).1.refusal ≠ some .idCollision) :
    (answer.andThen next).1.refusal ≠ some .idCollision := by
  unfold Answer.andThen
  split
  · exact hNext _ _
  · exact h

theorem answerTree_refusal_ne (s : Session) {result : Except Refusal (ObjectId × DeviceTree)}
    (h : NoCollision result) (changes : ObjectId → Changes) :
    (s.answerTree result changes).1.refusal ≠ some .idCollision := by
  cases result with
  | error cause => exact fun hSame => h (Option.some.inj hSame ▸ rfl)
  | ok answer => exact (nomatch ·)

theorem adoptDevice_refusal_ne (s : Session) (draft : DeviceDraft) (typeName mountPoint : String) :
    (s.adoptDevice draft typeName mountPoint).1.refusal ≠ some .idCollision := by
  unfold adoptDevice
  split
  · rename_i cause hNew
    exact fun hSame => s.tree.noCollision_newDevice _ (Option.some.inj hSame ▸ hNew)
  · rename_i id bare _
    split
    · rename_i cause hFormat
      exact fun hSame => bare.noCollision_adoptFormat _ _ _ (Option.some.inj hSame ▸ hFormat)
    · rename_i formatted _
      split
      · rename_i cause hAdd
        exact fun hSame => formatted.noCollision_add _ (Option.some.inj hSame ▸ hAdd)
      · exact (nomatch ·)

theorem adoptDemo_refusal_ne (s : Session) : s.adoptDemo.1.refusal ≠ some .idCollision := by
  have hGroup : ∀ s members, (demoGroup s members).1.refusal ≠ some .idCollision := by
    intro s members
    refine andThen_refusal_ne (s.adoptDevice_refusal_ne _ _ _) fun group s => ?_
    refine andThen_refusal_ne (s.adoptDevice_refusal_ne _ _ _) fun _ s => ?_
    exact andThen_refusal_ne (s.adoptDevice_refusal_ne _ _ _) fun _ _ hSame => nomatch hSame
  refine andThen_refusal_ne (s.adoptDevice_refusal_ne _ _ _) fun sda s => ?_
  refine andThen_refusal_ne (s.adoptDevice_refusal_ne _ _ _) fun sdb s => ?_
  refine andThen_refusal_ne (s.adoptDevice_refusal_ne _ _ _) fun _ s => ?_
  refine andThen_refusal_ne (s.adoptDevice_refusal_ne _ _ _) fun _ s => ?_
  refine andThen_refusal_ne (s.adoptDevice_refusal_ne _ _ _) fun _ s => ?_
  dsimp only
  split
  · exact s.adoptDevice_refusal_ne _ _ _
  · split
    · exact adoptDevice_refusal_ne _ _ _ _
    · exact hGroup _ _

theorem register_refusal_ne (s : Session) (id : ObjectId) :
    (s.register id).1.refusal ≠ some .idCollision := by
  unfold register
  split
  · exact (nomatch ·)
  · split
    · exact (nomatch ·)
    · split
      · rename_i cause hApply
        exact fun hSame => s.tree.noCollision_applyRegistration _ (Option.some.inj hSame ▸ hApply)
      · exact (nomatch ·)

theorem cancel_refusal_ne (s : Session) (id : ObjectId) :
    (s.cancel id).1.refusal ≠ some .idCollision := by
  unfold cancel
  split
  · exact (nomatch ·)
  · split
    · exact (nomatch ·)
    · exact (nomatch ·)
    · exact (nomatch ·)
    · split
      · exact (nomatch ·)
      · exact (nomatch ·)

theorem registerOrCancel_refusal_ne (s : Session) (id : ObjectId) :
    (s.registerOrCancel id).1.refusal ≠ some .idCollision := by
  have hRegister := s.register_refusal_ne id
  unfold registerOrCancel
  cases hRefusal : (s.register id).1.refusal with
  | none => simp [hRefusal]
  | some cause =>
    rw [hRefusal] at hRegister
    cases hCancel : ((s.register id).2.cancel id).1.refusal with
    | none => simpa [hRefusal, hCancel] using hRegister
    | some cancellation => simp [hRefusal, hCancel]

/-! ### Calls that store actions -/

/-- An answer that refuses for a taken id, if there are no ids left afterwards. -/
def SpendsIds (answer : Answer α) : Prop :=
  answer.1.refusal = some .idCollision → ¬ answer.2.IdsLeft

theorem SpendsIds.of_ok {answer : Answer α} (h : answer.1.refusal = none) : SpendsIds answer :=
  fun hRefusal => absurd (h.symm.trans hRefusal) (by simp)

theorem SpendsIds.of_ne {answer : Answer α} (h : answer.1.refusal ≠ some .idCollision) :
    SpendsIds answer := fun hRefusal => absurd hRefusal h

/-- **A proposal finds the id of its action taken only when no ids are left.** -/
theorem Numbered.spendsIds_propose {n : Nat} (h : s.Numbered n) (p : Proposal) :
    SpendsIds (s.propose p) := by
  unfold Session.propose
  split
  · rename_i cause hPrepare
    exact .of_ne fun hSame => s.tree.noCollision_prepare p (Option.some.inj hSame ▸ hPrepare)
  · rename_i preparation hPrepare
    unfold Session.construct
    dsimp only
    split
    · rename_i hTaken
      exact fun _ hLeft => h.stores (DeviceTree.prepares_of_prepare hPrepare) hLeft hTaken
    · exact .of_ok rfl

theorem Numbered.spendsIds_schedule {n : Nat} (h : s.Numbered n) (p : Proposal) :
    SpendsIds (s.schedule p) := by
  have hPropose := h.spendsIds_propose p
  unfold schedule Answer.andThen
  split
  · exact .of_ne (registerOrCancel_refusal_ne _ _)
  · exact hPropose

theorem Numbered.spendsIds_scheduleListed {n : Nat} (h : s.Numbered n) (p : Proposal) :
    SpendsIds (s.scheduleListed p) := by
  have hSchedule := h.spendsIds_schedule p
  unfold scheduleListed
  cases hRefusal : (s.schedule p).1.refusal with
  | none =>
    simp only [hRefusal]
    exact .of_ok rfl
  | some cause =>
    simp only [hRefusal]
    exact fun hSame => hSchedule (hRefusal.trans hSame)

theorem Numbered.scheduleListed {n : Nat} (h : s.Numbered n) (p : Proposal) :
    (s.scheduleListed p).2.Numbered n := by
  rw [scheduleListed_snd]
  exact (numbered_kept n).schedule s p h

theorem Numbered.destroyContent {n : Nat} (h : s.Numbered n) (id : ObjectId) :
    SpendsIds (s.destroyContent id) ∧ (s.destroyContent id).2.Numbered n := by
  unfold Session.destroyContent
  split
  · exact ⟨h.spendsIds_scheduleListed _, h.scheduleListed _⟩
  · exact ⟨.of_ok rfl, h⟩

theorem Numbered.spendsIds_tearDown {n : Nat} (h : s.Numbered n) (id : ObjectId) :
    SpendsIds (s.tearDown id) := by
  obtain ⟨hContent, hAfter⟩ := h.destroyContent id
  unfold tearDown
  dsimp only
  split
  · exact hAfter.spendsIds_scheduleListed (.destroyDevice id)
  · exact hContent

theorem Numbered.tearDown {n : Nat} (h : s.Numbered n) (id : ObjectId) :
    (s.tearDown id).2.Numbered n :=
  tearDown_preserves (fun s _ h => (numbered_kept n).schedule s _ h)
    (fun s _ h => (numbered_kept n).schedule s _ h) h id

theorem Numbered.tearDownAbove {n : Nat} (h : s.Numbered n) (id : ObjectId) :
    (s.tearDownAbove id).2.Numbered n :=
  tearDownAbove_preserves (fun s _ h => (numbered_kept n).schedule s _ h)
    (fun s _ h => (numbered_kept n).schedule s _ h) h id

theorem Numbered.spendsIds_tearDownAbove {n : Nat} (h : s.Numbered n) (id : ObjectId) :
    SpendsIds (s.tearDownAbove id) := by
  induction s using tearDownAbove.induct id with
  | case1 s hNone =>
    rw [Session.tearDownAbove, if_pos hNone]
    exact .of_ok rfl
  | case2 s hSome hLeaf =>
    rw [Session.tearDownAbove, if_neg hSome, hLeaf]
    exact .of_ne (by simp [Outcome.refused])
  | case3 s hSome leaf hLeaf first hOk ih =>
    rw [Session.tearDownAbove, if_neg hSome, hLeaf]
    simp only
    rw [if_pos hOk]
    exact ih (h.tearDown leaf)
  | case4 s hSome leaf hLeaf first hOk =>
    rw [Session.tearDownAbove, if_neg hSome, hLeaf]
    simp only
    rw [if_neg hOk]
    exact h.spendsIds_tearDown leaf

theorem Numbered.spendsIds_removeStack {n : Nat} (h : s.Numbered n) (id : ObjectId)
    (includeSelf : Bool) : SpendsIds (s.removeStack id includeSelf) := by
  unfold removeStack
  split
  · exact .of_ne (by simp [Outcome.refused])
  · show SpendsIds (s.tearDownStack id includeSelf)
    unfold tearDownStack
    dsimp only
    split
    · exact (h.tearDownAbove id).spendsIds_tearDown id
    · exact h.spendsIds_tearDownAbove id

theorem sort_refusal_ne (s : Session) : s.sort.1.refusal ≠ some .idCollision := by
  unfold Session.sort
  split
  split
  · exact (nomatch ·)
  · exact (nomatch ·)

/-- **A command is refused for a taken id only when no ids are left.** -/
theorem Numbered.idsLeft_of_refusal {n : Nat} (h : s.Numbered n) {command : Command}
    (hRefusal : (s.perform command).1.refusal? = some .idCollision) :
    ¬ (s.perform command).2.IdsLeft := by
  cases command with
  | newDevice draft =>
    exact absurd hRefusal (s.answerTree_refusal_ne (s.tree.noCollision_newDevice draft) _)
  | newFormat typeName mountPoint onMedia =>
    exact absurd hRefusal (s.answerTree_refusal_ne (s.tree.noCollision_newFormat _ _ _) _)
  | addDevice id =>
    exact absurd hRefusal (s.answerTree_refusal_ne (s.tree.noCollision_add id).map _)
  | removeDevice id force =>
    exact absurd hRefusal (s.answerTree_refusal_ne (s.tree.noCollision_remove id force).map _)
  | editDevice | editFormat | setNextId | prune | clearLog => exact nomatch hRefusal
  | adoptDevice draft typeName mountPoint =>
    exact absurd hRefusal (s.adoptDevice_refusal_ne draft typeName mountPoint)
  | adoptDemo => exact absurd hRefusal s.adoptDemo_refusal_ne
  | propose p => exact h.spendsIds_propose p hRefusal
  | schedule p => exact h.spendsIds_schedule p hRefusal
  | register action => exact absurd hRefusal (s.register_refusal_ne action)
  | cancel action => exact absurd hRefusal (s.cancel_refusal_ne action)
  | registerOrCancel action => exact absurd hRefusal (s.registerOrCancel_refusal_ne action)
  | removeStack device includeSelf => exact h.spendsIds_removeStack device includeSelf hRefusal
  | sort => exact absurd hRefusal s.sort_refusal_ne

theorem Numbered.along_no_collision {n : Nat} (h : s.Numbered n) {commands : List Command}
    (hRenumbers : ∀ command ∈ commands, command.renumbers = false)
    (hLeft : (s.performAll commands).IdsLeft) :
    s.Along (fun s command => (s.perform command).1.refusal? ≠ some .idCollision) commands :=
  along_of_few (fun _ _ h hFew hRefusal => h.idsLeft_of_refusal hRefusal hFew) h hRenumbers hLeft

/-- **Ids are unique and follow construction.**  After any run that does not replace the counter,
with fewer objects stored than the counter has numbers, direct writes into devices and formats
included: the ids of all devices, formats and actions differ, they are the numbers below the next
one, and there are as many objects as numbers were drawn, so that none was dropped for its id;
actions are stored in the order of their ids, one for each serial number, under names that differ;
and at no step was a command refused because the id of an action was taken. -/
theorem ids_follow_construction (commands : List Command)
    (hRenumbers : ∀ command ∈ commands, command.renumbers = false)
    (hFew : (({} : Session).performAll commands).storedIds.length < 2 ^ 64 - 1) :
    let s := ({} : Session).performAll commands
    s.storedIds.Nodup ∧ (∀ id, id ∈ s.storedIds ↔ id ≠ 0 ∧ id < s.tree.ids.next) ∧
    s.tree.ids.next.toNat = s.storedIds.length + 1 ∧
    s.actions.ids.Pairwise (· < ·) ∧ s.displayIds.Nodup ∧ s.nextSerial = s.actions.size + 1 ∧
    ({} : Session).Along (fun s command => (s.perform command).1.refusal? ≠ some .idCollision)
      commands := by
  intro s
  have hNumbered : s.Numbered 0 := numbered_empty.performAll_of_renumbers hRenumbers
  have hInTurn : s.InTurn :=
    (inTurn_performAll ⟨numbered_empty, fun _ => inTurn_empty⟩ hRenumbers).holds hFew
  obtain ⟨hNext, _, hNodup⟩ := hNumbered.2 hFew
  exact ⟨hNodup, hNumbered.mem_storedIds_iff hFew, hNext, hInTurn.increasing,
    hInTurn.displayIds_nodup, hInTurn.serial, numbered_empty.along_no_collision hRenumbers hFew⟩

/-- A partition is made, enlarged by a direct write, taken down with its content and made again; one
construction is withdrawn in between, and a format of an unknown type draws no id. -/
theorem ids_follow_construction_of_edited_plan :
    let commands : List Command := [
      .adoptDevice { name := "sda", kind := .disk, size := gibibytes 100 } "disklabel" "",
      .newDevice { name := "sda1", kind := .partition, size := gibibytes 10, parents := [2] },
      .newFormat "ext5" "/" false, .newFormat "ext4" "/" false, .schedule (.createDevice 5),
      .schedule (.createFormat 5 6), .editDevice 5 { currentSize := some (gibibytes 20) },
      .propose (.destroyFormat 2), .cancel 10, .removeStack 2 false, .schedule (.createDevice 5)]
    let s := ({} : Session).performAll commands
    ((∀ command ∈ commands, command.renumbers = false) ∧ s.storedIds.length < 2 ^ 64 - 1 ∧
      s.actions.ids = [7, 8, 10, 12, 13, 14]) ∧
    s.storedIds.Nodup ∧ (∀ id, id ∈ s.storedIds ↔ id ≠ 0 ∧ id < s.tree.ids.next) ∧
    s.tree.ids.next.toNat = s.storedIds.length + 1 ∧
    s.actions.ids.Pairwise (· < ·) ∧ s.displayIds.Nodup ∧ s.nextSerial = s.actions.size + 1 ∧
    ({} : Session).Along (fun s command => (s.perform command).1.refusal? ≠ some .idCollision)
      commands := by
  intro commands s
  have hRenumbers : ∀ command ∈ commands, command.renumbers = false := by decide
  have hFew : s.storedIds.length < 2 ^ 64 - 1 := by decide +kernel
  exact ⟨⟨hRenumbers, hFew, by decide +kernel⟩, ids_follow_construction commands hRenumbers hFew⟩

end Session

end StoragePlan

import StoragePlan.Proofs.Registry
import StoragePlan.Proofs.Scheduling

/-!
# What is present is accounted for

A plan starts from the devices that are there.  As long as devices enter and leave the tree by
registered actions only, the present devices together with those that the plan destroys are the
devices that were there together with those that the plan creates, each as often
(`Account.balance`).

* `Tallied.schedule`, `Tallied.cancel`: no call moves a device without an action that says so, and
  each device keeps its `tally`.
* `Account.perform`: the calls of a plan without membership actions keep the account.
* `Unplanned.account`: a session that was only populated opens it.
-/

namespace StoragePlan

/-- An action without its state. -/
def Action.core (a : Action) : Action := { a with state := .constructed }

@[simp] theorem Action.kind_core (a : Action) : a.core.kind = a.kind := rfl

@[simp] theorem Action.device_core (a : Action) : a.core.device = a.device := rfl

/-- Whether a call takes in a device that is there already. -/
def Command.populates : Command → Bool
  | adoptDevice .. => true
  | _ => false

theorem Command.overwrites_of_populates {command : Command} (h : command.populates = true) :
    command.overwrites = false := by
  cases command <;> first | rfl | cases h

/-- Whether a call makes a device or a format, or plans without changing members. -/
def Command.plans : Command → Bool
  | newDevice _ | newFormat .. | register _ | cancel _ | registerOrCancel _ | removeStack .. => true
  | propose p | schedule p => !p.isMembership
  | _ => false

namespace Session

/-- The same actions are stored, up to their states. -/
def SameActions (s s' : Session) : Prop :=
  ∀ id, (s'.action? id).map Action.core = (s.action? id).map Action.core

/-- The device of an action of a kind. -/
def deviceOf? (s : Session) (kind : ActionKind) (id : ObjectId) : Option ObjectId :=
  ((s.action? id).filter fun a => a.kind == kind).map Action.device

/-! ## Actions up to their states -/

variable {s s' s'' : Session}

theorem SameActions.trans (h : s.SameActions s') (h' : s'.SameActions s'') : s.SameActions s'' :=
  fun id => (h' id).trans (h id)

theorem SameActions.exists_core (h : s.SameActions s') {id : ObjectId} {a : Action}
    (ha : s'.action? id = some a) : ∃ b, s.action? id = some b ∧ b.core = a.core := by
  have hId := h id
  rw [ha, Option.map_some] at hId
  exact Option.map_eq_some_iff.mp hId.symm

theorem sameActions_setState (s : Session) (id : ObjectId) (state : ActionState) :
    s.SameActions (s.setState id state) := by
  intro other
  rw [action?_setState, Option.map_map]
  congr 1
  funext a
  simp only [Function.comp]
  split <;> rfl

theorem sameActions_drop (s : Session) (id : ObjectId) (state : ActionState) :
    s.SameActions (s.drop id state) :=
  sameActions_setState { s with registry := s.registry.filter (· ≠ id) } id state

theorem deviceOf?_core (s : Session) (kind : ActionKind) (id : ObjectId) :
    s.deviceOf? kind id
      = (((s.action? id).map Action.core).filter fun a => a.kind == kind).map Action.device := by
  unfold deviceOf?
  cases s.action? id with
  | none => rfl
  | some a => cases hKind : a.kind == kind <;> simp [Option.filter, hKind]

theorem SameActions.deviceOf? (h : s.SameActions s') (kind : ActionKind) (id : ObjectId) :
    s'.deviceOf? kind id = s.deviceOf? kind id := by
  rw [deviceOf?_core, deviceOf?_core, h]

theorem deviceOf?_eq_some {kind : ActionKind} {id d : ObjectId} :
    s.deviceOf? kind id = some d ↔ ∃ a, s.action? id = some a ∧ a.kind = kind ∧ a.device = d := by
  unfold Session.deviceOf?
  simp only [Option.map_eq_some_iff, Option.filter_eq_some_iff, beq_iff_eq, and_assoc]

/-! ## The devices of a kind of action -/

theorem devicesOf_eq (s : Session) (kind : ActionKind) :
    s.devicesOf kind = s.registry.filterMap (s.deviceOf? kind) := by
  unfold devicesOf plan
  rw [List.filter_filterMap, List.map_filterMap]
  rfl

@[simp] theorem devicesOf_record (s : Session) (level : LogLevel) (event : LogEvent)
    (action : ObjectId) (message : String) (kind : ActionKind) :
    (s.record level event action message).devicesOf kind = s.devicesOf kind := rfl

theorem SameActions.devicesOf (h : s.SameActions s') (hRegistry : s'.registry = s.registry)
    (kind : ActionKind) : s'.devicesOf kind = s.devicesOf kind := by
  rw [devicesOf_eq, devicesOf_eq, hRegistry]
  exact List.filterMap_congr fun id _ => h.deviceOf? kind id

theorem mem_devicesOf {kind : ActionKind} {d : ObjectId} :
    d ∈ s.devicesOf kind ↔ ∃ id ∈ s.registry, s.deviceOf? kind id = some d := by
  rw [devicesOf_eq, List.mem_filterMap]

theorem devicesOf_append (h : s.SameActions s') {id : ObjectId}
    (hRegistry : s'.registry = s.registry ++ [id]) (kind : ActionKind) :
    s'.devicesOf kind = s.devicesOf kind ++ (s.deviceOf? kind id).toList := by
  rw [devicesOf_eq, devicesOf_eq, hRegistry, List.filterMap_append]
  congr 1
  · exact List.filterMap_congr fun id _ => h.deviceOf? kind id
  · rw [← h.deviceOf? kind id]
    cases hd : s'.deviceOf? kind id <;> simp [hd]

theorem devicesOf_filter (h : s.SameActions s') (hs : s.registry.Nodup) {id : ObjectId}
    (hid : id ∈ s.registry) (hRegistry : s'.registry = s.registry.filter (· ≠ id))
    (kind : ActionKind) :
    ((s.deviceOf? kind id).toList ++ s'.devicesOf kind).Perm (s.devicesOf kind) := by
  rw [devicesOf_eq, devicesOf_eq, hRegistry]
  have hPerm := (DeviceTree.perm_cons_filter hs hid).filterMap (s.deviceOf? kind)
  rw [List.filterMap_congr fun id _ => h.deviceOf? kind id]
  refine List.Perm.trans (List.Perm.of_eq ?_) hPerm
  cases hd : s.deviceOf? kind id <;> simp [hd]

/-- A device that a kind of action is about once belongs to one registered action. -/
theorem eq_of_deviceOf? {kind : ActionKind} {i j d : ObjectId}
    (hOnce : (s.devicesOf kind).count d ≤ 1) (hi : i ∈ s.registry) (hj : j ∈ s.registry)
    (hid : s.deviceOf? kind i = some d) (hjd : s.deviceOf? kind j = some d) : i = j := by
  by_contra hne
  have hTwice : ∀ {x y}, s.deviceOf? kind x = some d → s.deviceOf? kind y = some d →
      ¬ Precedence.Precedes s.registry x y := by
    intro x y hx hy hxy
    have hSub := List.Sublist.filterMap (s.deviceOf? kind) hxy
    rw [List.filterMap_cons_some hx, List.filterMap_cons_some hy, ← devicesOf_eq] at hSub
    have := hSub.count_le d
    simp at this
    omega
  rcases Precedence.precedes_or_precedes hi hj hne with h | h
  · exact hTwice hid hjd h
  · exact hTwice hjd hid h

theorem deviceOf?_of {id : ObjectId} {a : Action} (ha : s.action? id = some a)
    (kind : ActionKind) : s.deviceOf? kind id = if a.kind = kind then some a.device else none := by
  unfold deviceOf?
  by_cases hKind : a.kind = kind <;> simp [ha, Option.filter, hKind]

/-! ## The tally of a device -/

/-- How often a device is present or destroyed by the plan, less how often the plan creates it. -/
def tally (s : Session) (d : ObjectId) : Int :=
  s.tree.order.count d + (s.devicesOf .destroyDevice).count d
    - (s.devicesOf .createDevice).count d

/-- The registry lists nothing twice, the records of presence are in step, and the tallies are
known. -/
structure Tallied (n : ObjectId → Int) (s : Session) : Prop where
  listed : s.Listed
  inStep : s.tree.InStep
  tally : ∀ d, s.tally d = n d

variable {n : ObjectId → Int}

theorem Tallied.of_devicesOf (h : Tallied n s) (hListed : s'.Listed)
    (hRecords : s.tree.SameRecords s'.tree)
    (hDevices : ∀ kind, s'.devicesOf kind = s.devicesOf kind) : Tallied n s' := by
  refine ⟨hListed, h.inStep.of_same hRecords, fun d => ?_⟩
  rw [Session.tally, hRecords.order, hDevices, hDevices]
  exact h.tally d

theorem Tallied.of_same (h : Tallied n s) (hListed : s'.Listed)
    (hRecords : s.tree.SameRecords s'.tree) (hActions : s.SameActions s')
    (hRegistry : s'.registry = s.registry) : Tallied n s' :=
  h.of_devicesOf hListed hRecords fun kind => hActions.devicesOf hRegistry kind

/-- A registered action moves its device as its kind says. -/
theorem Tallied.of_append (h : Tallied n s) (hListed : s'.Listed) (hActions : s.SameActions s')
    {id : ObjectId} {a : Action} (ha : s.action? id = some a)
    (hRegistry : s'.registry = s.registry ++ [id])
    (hMoves : s.tree.Moves s'.tree a .createDevice .destroyDevice) : Tallied n s' := by
  refine ⟨hListed, h.inStep.of_moves hMoves, fun d => ?_⟩
  have hOrder := (h.inStep.order_perm hMoves (by simp)).count_eq d
  have hBefore := h.tally d
  unfold Session.tally at hBefore ⊢
  rw [devicesOf_append hActions hRegistry, devicesOf_append hActions hRegistry, deviceOf?_of ha,
    deviceOf?_of ha]
  simp only [List.count_append] at hOrder ⊢
  omega

/-- A withdrawn action moves its device back. -/
theorem Tallied.of_filter (h : Tallied n s) (hListed : s'.Listed) (hActions : s.SameActions s')
    {id : ObjectId} {a : Action} (ha : s.action? id = some a) (hid : id ∈ s.registry)
    (hRegistry : s'.registry = s.registry.filter (· ≠ id)) {t : DeviceTree}
    (hMoves : s.tree.Moves t a .destroyDevice .createDevice)
    (hRecords : t.SameRecords s'.tree) : Tallied n s' := by
  refine ⟨hListed, (h.inStep.of_moves hMoves).of_same hRecords, fun d => ?_⟩
  have hBefore := h.tally d
  have hMoved := (h.inStep.order_perm hMoves (by simp)).count_eq d
  have hDestroyed :=
    (devicesOf_filter hActions h.listed.nodup hid hRegistry .destroyDevice).count_eq d
  have hCreated :=
    (devicesOf_filter hActions h.listed.nodup hid hRegistry .createDevice).count_eq d
  unfold Session.tally at hBefore ⊢
  rw [deviceOf?_of ha] at hDestroyed hCreated
  rw [hRecords.order]
  simp only [List.count_append] at hMoved hDestroyed hCreated
  omega

/-- A new action is not in the plan yet. -/
theorem devicesOf_of_new (hListed : s.Listed) {a : Action}
    (hInsert : s.actions.insert? a = some s'.actions) (hRegistry : s'.registry = s.registry)
    (kind : ActionKind) :
    s'.devicesOf kind = s.devicesOf kind := by
  rw [devicesOf_eq, devicesOf_eq, hRegistry]
  refine List.filterMap_congr fun id hid => ?_
  obtain ⟨b, hb, _⟩ := (hListed.mem_iff id).mp hid
  have hFind : s'.action? id = s.action? id := by
    unfold action?
    rw [Arena.find?_insert? hInsert]
    exact if_neg (Ne.symm (ne_of_new hInsert hb))
  unfold Session.deviceOf?
  rw [hFind]

theorem Tallied.propose (h : Tallied n s) (p : Proposal) : Tallied n (s.propose p).2 := by
  have hListed := h.listed.propose p
  rcases propose_cases s p with
    hSame | ⟨preparation, hPrepare, ⟨_, hSame⟩ | ⟨actions, message, hInsert, hNew⟩⟩
  · rw [hSame]
    exact h
  · rw [hSame] at hListed ⊢
    exact h.of_same hListed (carryOut_records (DeviceTree.prepares_of_prepare hPrepare))
      (fun _ => rfl) rfl
  · rw [hNew] at hListed ⊢
    exact h.of_devicesOf hListed (carryOut_records (DeviceTree.prepares_of_prepare hPrepare))
      (devicesOf_of_new h.listed hInsert rfl)

theorem Tallied.register (h : Tallied n s) (id : ObjectId) : Tallied n (s.register id).2 := by
  have hListed := h.listed.register id
  rcases register_cases s id with
    hSame | ⟨message, hSame⟩ | ⟨a, t, changes, message, ha, _, hApply, hNew⟩
  · rw [hSame]
    exact h
  · rw [hSame] at hListed ⊢
    exact h.of_same hListed (.refl _) (fun _ => rfl) rfl
  · rw [hNew] at hListed ⊢
    refine h.of_append hListed ?_ ha rfl (DeviceTree.applyRegistration_ok hApply)
    exact sameActions_setState { s with tree := t, registry := s.registry ++ [id] } id .registered

theorem Tallied.cancel (h : Tallied n s) (id : ObjectId) : Tallied n (s.cancel id).2 := by
  have hListed := h.listed.cancel id
  rcases cancel_cases s id with hSame | ⟨message, hSame⟩ | ⟨a, message, ha, _, hNew⟩ |
    ⟨a, t, changes, message, ha, hState, hUndo, hNew⟩
  · rw [hSame]
    exact h
  · rw [hSame] at hListed ⊢
    exact h.of_same hListed (.refl _) (fun _ => rfl) rfl
  · rw [hNew] at hListed ⊢
    exact h.of_same hListed (s.tree.undoConstruction_records a) (sameActions_setState _ _ _) rfl
  · rw [hNew] at hListed ⊢
    have hid : id ∈ s.registry := (h.listed.mem_iff id).mpr ⟨a, ha, hState⟩
    refine h.of_filter hListed ?_ ha hid rfl (DeviceTree.undoRegistration_ok hUndo)
      (t.undoConstruction_records a)
    exact (sameActions_drop s id .cancelled).trans
      (sameActions_setState { s.drop id .cancelled with tree := (t.undoConstruction a).1 } _ _)

/-- **Scheduling moves no device without an action that says so.** -/
theorem Tallied.schedule (h : Tallied n s) (p : Proposal) : Tallied n (s.schedule p).2 :=
  schedule_preserves (fun _ h => h.propose p) (fun _ id h => h.register id)
    (fun _ id h => h.cancel id) h

/-- The tallies of a session in which nothing is planned tell what is present. -/
theorem Tallied.of_registry_nil (hRegistry : s.registry = []) (hListed : s.Listed)
    (hInStep : s.tree.InStep) : Tallied (fun d => s.tree.order.count d) s := by
  refine ⟨hListed, hInStep, fun d => ?_⟩
  rw [Session.tally, devicesOf_eq, devicesOf_eq, hRegistry]
  simp

/-! ## The account of a plan -/

/-- What holds while a plan is made that started from the populated devices. -/
structure Account (populated : List ObjectId) (s : Session) : Prop where
  listed : s.Listed
  sound : s.tree.Sound
  noMembership : ∀ id a, s.action? id = some a → a.container? = none
  proposed : ∀ id a, s.action? id = some a → a.kind = .createDevice →
    ∃ device, s.tree.device? a.device = some device ∧ device.onMedia = false
  there : ∀ d ∈ populated, ∃ device, s.tree.device? d = some device ∧ device.onMedia = true
  balance : (s.tree.order ++ s.devicesOf .destroyDevice).Perm
    (populated ++ s.devicesOf .createDevice)

variable {populated : List ObjectId}

theorem exists_onMedia {t t' : DeviceTree} (h : t.Extends t') {d : ObjectId} {onMedia : Bool}
    (hd : ∃ device, t.device? d = some device ∧ device.onMedia = onMedia) :
    ∃ device, t'.device? d = some device ∧ device.onMedia = onMedia := by
  obtain ⟨device, hd, hMedia⟩ := hd
  obtain ⟨device', hd', hFrame⟩ := h d device hd
  have hSame := congrArg Device.onMedia hFrame
  exact ⟨device', hd', hSame.trans hMedia⟩

theorem balance_iff : (s.tree.order ++ s.devicesOf .destroyDevice).Perm
    (populated ++ s.devicesOf .createDevice) ↔ ∀ d, s.tally d = populated.count d := by
  rw [List.perm_iff_count]
  refine forall_congr' fun d => ?_
  unfold Session.tally
  simp only [List.count_append]
  omega

theorem Account.tallied (h : Account populated s) : Tallied (fun d => populated.count d) s :=
  ⟨h.listed, h.sound.inStep, balance_iff.mp h.balance⟩

/-- A change that stores no action keeps the account as far as it keeps the tallies. -/
theorem Account.of_same (h : Account populated s)
    (hTallied : Tallied (fun d => populated.count d) s') (hSound : s'.tree.Sound)
    (hActions : s.SameActions s') (hExtends : s.tree.Extends s'.tree) : Account populated s' where
  listed := hTallied.listed
  sound := hSound
  noMembership := by
    intro id a ha
    obtain ⟨b, hb, hCore⟩ := hActions.exists_core ha
    exact (congrArg Action.container? hCore).symm.trans (h.noMembership id b hb)
  proposed := by
    intro id a ha hKind
    obtain ⟨b, hb, hCore⟩ := hActions.exists_core ha
    have hDevice := congrArg Action.device hCore
    have hSame := congrArg Action.kind hCore
    have hProposed := h.proposed id b hb (hSame.trans hKind)
    rw [show b.device = a.device from hDevice] at hProposed
    exact exists_onMedia hExtends hProposed
  there := fun d hd => exists_onMedia hExtends (h.there d hd)
  balance := balance_iff.mpr hTallied.tally

theorem Account.of_sameLayout (h : Account populated s) (hListed : s'.Listed)
    (hActions : s.SameActions s') (hRegistry : s'.registry = s.registry)
    (hLayout : s.tree.SameLayout s'.tree) : Account populated s' := by
  have hTallied := h.tallied.of_same hListed hLayout.records hActions hRegistry
  exact h.of_same hTallied (h.sound.of_sameLayout hLayout) hActions hLayout.extends

theorem Account.record (h : Account populated s) (level : LogLevel) (event : LogEvent)
    (action : ObjectId) (message : String) :
    Account populated (s.record level event action message) :=
  h.of_sameLayout (h.listed.record level event action message) (fun _ => rfl) rfl
    (DeviceTree.SameLayout.refl _)

/-! ## Storing devices, formats and actions -/

theorem Account.newDevice (h : Account populated s) (draft : DeviceDraft) :
    Account populated (s.newDevice draft).2 := by
  have hListed : (s.newDevice draft).2.Listed := h.listed.answerTree _ _
  unfold Session.newDevice Session.answerTree at hListed ⊢
  cases hNew : s.tree.newDevice draft with
  | error cause => exact h
  | ok result =>
    obtain ⟨id, t⟩ := result
    obtain ⟨hParents, hPartition, name, number, hStore⟩ := DeviceTree.newDevice_ok hNew
    obtain rfl : t = (s.tree.storeDevice draft name number).2 := congrArg Prod.snd hStore
    rw [hNew] at hListed
    exact h.of_same (h.tallied.of_same hListed ⟨rfl, rfl⟩ (fun _ => rfl) rfl)
      (h.sound.storeDevice hParents hPartition name number) (fun _ => rfl)
      (DeviceTree.storeDevice_extends _ _ _ _)

theorem Account.newFormat (h : Account populated s) (typeName mountPoint : String)
    (onMedia : Bool) : Account populated (s.newFormat typeName mountPoint onMedia).2 := by
  have hListed : (s.newFormat typeName mountPoint onMedia).2.Listed := h.listed.answerTree _ _
  unfold Session.newFormat Session.answerTree at hListed ⊢
  cases hNew : s.tree.newFormat typeName mountPoint onMedia with
  | error cause => exact h
  | ok result =>
    rw [hNew] at hListed
    exact h.of_sameLayout hListed (fun _ => rfl) rfl (DeviceTree.newFormat_layout hNew)

theorem Account.of_new (h : Account populated s)
    (hTallied : Tallied (fun d => populated.count d) s') (hLayout : s.tree.SameLayout s'.tree)
    {a : Action} {actions : Arena Action} (hInsert : s.actions.insert? a = some actions)
    (hActions : s'.actions = actions) (hMember : a.container? = none)
    (hProposed : a.kind = .createDevice →
      ∃ device, s.tree.device? a.device = some device ∧ device.onMedia = false) :
    Account populated s' := by
  have hFind : ∀ id, s'.action? id = if a.id = id then some a else s.action? id := by
    intro id
    unfold action?
    rw [hActions]
    exact Arena.find?_insert? hInsert id
  refine ⟨hTallied.listed, h.sound.of_sameLayout hLayout, ?_, ?_, ?_,
    balance_iff.mpr hTallied.tally⟩
  · intro id b hb
    rw [hFind] at hb
    split at hb
    · cases hb
      exact hMember
    · exact h.noMembership id b hb
  · intro id b hb hKind
    rw [hFind] at hb
    split at hb
    · cases hb
      exact exists_onMedia hLayout.extends (hProposed hKind)
    · exact exists_onMedia hLayout.extends (h.proposed id b hb hKind)
  · exact fun d hd => exists_onMedia hLayout.extends (h.there d hd)

theorem Account.propose (h : Account populated s) {p : Proposal} (hp : p.isMembership = false) :
    Account populated (s.propose p).2 := by
  have hTallied := h.tallied.propose p
  rcases propose_cases s p with
    hSame | ⟨preparation, hPrepare, ⟨_, hSame⟩ | ⟨actions, message, hInsert, hNew⟩⟩
  · rw [hSame]; exact h
  · rw [hSame] at hTallied ⊢
    obtain ⟨hLayout, _, _⟩ := DeviceTree.prepare_layout hp hPrepare
    exact h.of_sameLayout hTallied.listed (fun _ => rfl) rfl (hLayout.trans ⟨rfl, rfl, rfl⟩)
  · rw [hNew] at hTallied ⊢
    obtain ⟨hLayout, hMember, hCreate⟩ := DeviceTree.prepare_layout hp hPrepare
    have hTree : s.tree.SameLayout (s.carryOut preparation).tree := hLayout.trans ⟨rfl, rfl, rfl⟩
    exact h.of_new hTallied hTree hInsert rfl hMember hCreate

/-! ## Registering and withdrawing -/

theorem Account.register (h : Account populated s) (id : ObjectId) :
    Account populated (s.register id).2 := by
  have hTallied := h.tallied.register id
  rcases register_cases s id with
    hSame | ⟨message, hSame⟩ | ⟨a, t, changes, message, ha, _, hApply, hNew⟩
  · rw [hSame]; exact h
  · rw [hSame]; exact h.record _ _ _ _
  · rw [hNew] at hTallied ⊢
    have hMoves := DeviceTree.applyRegistration_ok hApply
    exact h.of_same hTallied (h.sound.of_moves hMoves)
      (sameActions_setState { s with tree := t, registry := s.registry ++ [id] } id .registered)
      (DeviceTree.extends_of_moves hMoves)

theorem Account.cancel (h : Account populated s) (id : ObjectId) :
    Account populated (s.cancel id).2 := by
  have hTallied := h.tallied.cancel id
  rcases cancel_cases s id with hSame | ⟨message, hSame⟩ | ⟨a, message, ha, _, hNew⟩ |
    ⟨a, t, changes, message, ha, _, hUndo, hNew⟩
  · rw [hSame]; exact h
  · rw [hSame]; exact h.record _ _ _ _
  · rw [hNew] at hTallied ⊢
    exact h.of_sameLayout hTallied.listed (sameActions_setState _ _ _) rfl
      (DeviceTree.undoConstruction_layout _ (h.noMembership id a ha))
  · rw [hNew] at hTallied ⊢
    have hMoves := DeviceTree.undoRegistration_ok hUndo
    have hLayout := t.undoConstruction_layout (h.noMembership id a ha)
    have hActions : s.SameActions
        ({ s.drop id .cancelled with tree := (t.undoConstruction a).1 }.setState id .cancelled) :=
      (sameActions_drop s id .cancelled).trans
        (sameActions_setState { s.drop id .cancelled with tree := (t.undoConstruction a).1 } _ _)
    exact h.of_same hTallied ((h.sound.of_moves hMoves).of_sameLayout hLayout) hActions
      ((DeviceTree.extends_of_moves hMoves).trans hLayout.extends)

theorem Account.schedule (h : Account populated s) {p : Proposal} (hp : p.isMembership = false) :
    Account populated (s.schedule p).2 :=
  schedule_preserves (fun _ h => h.propose hp) (fun _ id h => h.register id)
    (fun _ id h => h.cancel id) h

theorem Account.perform (h : Account populated s) {command : Command}
    (hPlans : command.plans = true) : Account populated (s.perform command).2 := by
  cases command <;> simp only [Command.plans, Bool.not_eq_true', reduceCtorEq] at hPlans
  case newDevice draft => exact h.newDevice draft
  case newFormat typeName mountPoint onMedia => exact h.newFormat typeName mountPoint onMedia
  case propose p => exact h.propose hPlans
  case schedule p => exact h.schedule hPlans
  case register action => exact h.register action
  case cancel action => exact h.cancel action
  case registerOrCancel action =>
    exact registerOrCancel_preserves (fun _ id h => h.register id) (fun _ id h => h.cancel id) h
      action
  case removeStack device includeSelf =>
    exact removeStack_preserves (fun _ _ h => h.schedule rfl) (fun _ _ h => h.schedule rfl) h device
      includeSelf

theorem Account.performAll (h : Account populated s) {commands : List Command}
    (hPlans : ∀ command ∈ commands, command.plans = true) :
    Account populated (s.performAll commands) := by
  unfold Session.performAll
  induction commands generalizing s with
  | nil => exact h
  | cons command commands ih =>
    exact ih (h.perform (hPlans command List.mem_cons_self)) fun other hOther =>
      hPlans other (List.mem_cons_of_mem command hOther)

/-! ## Populating -/

/-- Nothing is planned yet, and everything stored is there. -/
structure Unplanned (s : Session) : Prop where
  sound : s.tree.Sound
  onMedia : ∀ device ∈ s.tree.frames, device.onMedia = true
  actions : s.actions.items = []
  registry : s.registry = []

theorem unplanned_empty : ({} : Session).Unplanned :=
  ⟨DeviceTree.sound_empty, fun _ h => absurd h List.not_mem_nil, rfl, rfl⟩

/-- Taking in a device changes nothing, or it stores the device with its format.  It succeeds
exactly when the device can then be put into the tree. -/
theorem adoptDevice_cases (s : Session) (draft : DeviceDraft) (typeName mountPoint : String) :
    let answer := s.adoptDevice draft typeName mountPoint
    (answer.1.ok = false ∧ answer.2 = s) ∨
    ∃ id bare t, s.tree.newDevice { draft with onMedia := true } = .ok (id, bare) ∧
      (t = bare ∨ bare.adoptFormat id typeName mountPoint = .ok t) ∧
      ((answer.1.ok = false ∧ answer.2 = { s with tree := t }) ∨
        (answer.1.ok = true ∧ answer.1.value = id ∧
          ∃ t', t.add id = .ok t' ∧ answer.2 = { s with tree := t' })) := by
  dsimp only
  unfold Session.adoptDevice
  cases hNew : s.tree.newDevice { draft with onMedia := true } with
  | error cause => exact Or.inl ⟨rfl, rfl⟩
  | ok result =>
    obtain ⟨id, bare⟩ := result
    right
    cases hFormat : bare.adoptFormat id typeName mountPoint with
    | error cause =>
      refine ⟨id, bare, bare, rfl, Or.inl rfl, Or.inl ?_⟩
      simp [hFormat, Outcome.ok]
    | ok formatted =>
      refine ⟨id, bare, formatted, rfl, Or.inr hFormat, ?_⟩
      cases hAdd : formatted.add id with
      | error cause =>
        simp [hFormat, hAdd, Outcome.ok]
      | ok t =>
        simp [hFormat, hAdd, Outcome.ok]

theorem Unplanned.adoptDevice (h : s.Unplanned) (draft : DeviceDraft)
    (typeName mountPoint : String) : (s.adoptDevice draft typeName mountPoint).2.Unplanned := by
  rcases adoptDevice_cases s draft typeName mountPoint with
    ⟨_, hSame⟩ | ⟨id, bare, t, hNew, hFormat, hAfter⟩
  · rw [hSame]; exact h
  · have hLayout := DeviceTree.SameLayout.of_adopted hFormat
    obtain ⟨hParents, hPartition, name, number, hStore⟩ := DeviceTree.newDevice_ok hNew
    obtain rfl : bare = (s.tree.storeDevice { draft with onMedia := true } name number).2 :=
      congrArg Prod.snd hStore
    have hSound := (h.sound.storeDevice hParents hPartition name number).of_sameLayout hLayout
    have hMedia : ∀ device ∈ t.frames, device.onMedia = true := by
      rw [hLayout.frames]
      exact DeviceTree.onMedia_storeDevice h.onMedia rfl name number
    rcases hAfter with ⟨_, hAfter⟩ | ⟨_, _, t', hAdd, hAfter⟩
    · rw [hAfter]
      exact ⟨hSound, hMedia, h.actions, h.registry⟩
    · rw [hAfter]
      have hAdded := hSound.add hAdd
      obtain ⟨_, _, _, rfl⟩ := DeviceTree.add_ok hAdd
      exact ⟨hAdded, hMedia, h.actions, h.registry⟩

theorem Unplanned.performAll (h : s.Unplanned) {commands : List Command}
    (hPopulates : ∀ command ∈ commands, command.populates = true) :
    (s.performAll commands).Unplanned := by
  unfold Session.performAll
  induction commands generalizing s with
  | nil => exact h
  | cons command commands ih =>
    have hFirst := hPopulates command List.mem_cons_self
    refine ih ?_ fun other hOther => hPopulates other (List.mem_cons_of_mem command hOther)
    cases command <;> simp only [Command.populates, Bool.false_eq_true] at hFirst
    case adoptDevice draft typeName mountPoint => exact h.adoptDevice draft typeName mountPoint

theorem Unplanned.action?_eq_none (h : s.Unplanned) (id : ObjectId) : s.action? id = none := by
  unfold action? Arena.find?
  rw [h.actions]
  rfl

/-- What is present in a populated session is there. -/
theorem Unplanned.there (h : s.Unplanned) {d : ObjectId} (hd : d ∈ s.tree.order) :
    ∃ device, s.tree.device? d = some device ∧ device.onMedia = true := by
  obtain ⟨device, hDevice⟩ := Option.isSome_iff_exists.mp (h.sound.stored d hd)
  exact ⟨device, hDevice, h.onMedia device.frame (DeviceTree.frame_mem_frames hDevice)⟩

/-- **A populated session opens the account of a plan.** -/
theorem Unplanned.account (h : s.Unplanned) : Account s.tree.order s := by
  have hNone := h.action?_eq_none
  have hDevices : ∀ kind, s.devicesOf kind = [] := by
    intro kind
    rw [devicesOf_eq, h.registry]
    rfl
  refine ⟨⟨by rw [h.registry]; exact List.nodup_nil, ?_⟩, h.sound, ?_, ?_, ?_, ?_⟩
  · intro id
    simp [h.registry, hNone]
  · intro id a ha
    rw [hNone] at ha
    cases ha
  · intro id a ha
    rw [hNone] at ha
    cases ha
  · exact fun d hd => h.there hd
  · rw [hDevices, hDevices]

end Session

end StoragePlan

import StoragePlan.Proofs.Lineage
import StoragePlan.Proofs.Numbering
import StoragePlan.Proofs.Presence
import StoragePlan.Proofs.Reflection

/-!
# Plans that only grow

A plan is made by scheduling actions, and by making the devices and formats for them.  Each call
leaves the plan as it is, or it appends one action, and then the tree is changed by that action and
by nothing else (`Composed`).  Statements about such plans are therefore shown for one appended
action at a time.

* `composed`: every call is one of the two.
* `Underway.perform`: what holds of every session between two such calls.
* `Underway.increasing`: **actions are registered in the order of their ids** while ids are left.
-/

namespace StoragePlan

/-- Whether a call makes a device or a format, or schedules an action. -/
def Command.composes : Command → Bool
  | newDevice _ | newFormat .. | schedule _ => true
  | _ => false

theorem Command.overwrites_of_composes {command : Command} (h : command.composes = true) :
    command.overwrites = false := by
  cases command <;> first | rfl | cases h

namespace DeviceTree

variable {t t' t'' : DeviceTree}

/-- The devices and formats stored in `t` are stored in `t'` as they are. -/
structure Grows (t t' : DeviceTree) : Prop where
  device? : ∀ d device, t.device? d = some device → t'.device? d = some device
  format? : ∀ f format, t.format? f = some format → t'.format? f = some format

theorem Grows.refl (t : DeviceTree) : t.Grows t := ⟨fun _ _ h => h, fun _ _ h => h⟩

theorem Grows.trans (h : t.Grows t') (h' : t'.Grows t'') : t.Grows t'' :=
  ⟨fun d device hd => h'.device? d device (h.device? d device hd),
    fun f format hf => h'.format? f format (h.format? f format hf)⟩

theorem SameState.grows (h : t.SameState t') : t.Grows t' :=
  ⟨fun d _ hd => (h.device? d).trans hd, h.formats⟩

theorem storeFormat_grows (t : DeviceTree) (type : FormatType) (mountPoint : String)
    (onMedia : Bool) : t.Grows (t.storeFormat type mountPoint onMedia).2 :=
  ⟨fun _ _ h => h, fun _ _ h => Arena.find?_insert_of_find? h _⟩

theorem storeDevice_grows (t : DeviceTree) (draft : DeviceDraft) (name : String) (number : Int) :
    t.Grows (t.storeDevice draft name number).2 :=
  ⟨fun _ _ h => Arena.find?_insert_of_find? h _, fun _ _ h => Arena.find?_insert_of_find? h _⟩

theorem newFormat_grows {typeName mountPoint : String} {onMedia : Bool} {id : ObjectId}
    (h : t.newFormat typeName mountPoint onMedia = .ok (id, t')) : t.Grows t' := by
  unfold newFormat at h
  split at h
  · cases h
  · cases h
    exact t.storeFormat_grows _ mountPoint onMedia

/-- What is put on a new device leaves the others as they are. -/
theorem Grows.setFormat (h : t.Grows t') {id : ObjectId} (hNew : t.device? id = none)
    (format : ObjectId) : t.Grows (t'.setFormat id format) := by
  refine ⟨fun d device hd => ?_, h.format?⟩
  have hne : d ≠ id := by
    rintro rfl
    cases hNew.symm.trans hd
  rw [DeviceTree.setFormat, device?_modifyDevice, h.device? d device hd, Option.map_some,
    if_neg hne]

theorem Grows.adoptFormat (h : t.Grows t') {id : ObjectId} (hNew : t.device? id = none)
    {typeName mountPoint : String} (hAdopt : t'.adoptFormat id typeName mountPoint = .ok t'') :
    t.Grows t'' := by
  unfold DeviceTree.adoptFormat at hAdopt
  split at hAdopt
  · cases hAdopt
    exact h
  · obtain ⟨result, hFormat, rfl⟩ := map_ok hAdopt
    exact (h.trans (newFormat_grows hFormat)).setFormat hNew _

theorem Grows.parentsOf (h : t.Grows t') {d : ObjectId} (hd : (t.device? d).isSome) :
    t'.parentsOf d = t.parentsOf d := by
  obtain ⟨device, hd⟩ := Option.isSome_iff_exists.mp hd
  rw [parentsOf_eq hd, parentsOf_eq (h.device? d device hd)]

end DeviceTree

namespace Session

variable {s s' : Session} {a : Action} {p : Preparation} {populated : List ObjectId}

/-! ## One call -/

/-- A call registers nothing, or it appends the action of a proposal to the plan. -/
inductive Composed (s s' : Session) : Prop
  /-- What is stored stays as it is, as long as ids are left. -/
  | quiet (hPlan : s'.plan = s.plan) (hRegistry : s'.registry = s.registry)
      (hGrows : s'.storedIds.length < 2 ^ 64 - 1 → s.tree.Grows s'.tree)
  | added (p : Preparation) (changes : Changes) (hPrepares : s.tree.Prepares p)
      (hApply : (s.carryOut p).tree.applyRegistration (s.actionOf p) = .ok (s'.tree, changes))
      (hPlan : s'.plan = s.plan ++ [{ s.actionOf p with state := .registered }])
      (hRegistry : s'.registry = s.registry ++ [(s.actionOf p).id])
      (hNewest : s'.storedIds.length < 2 ^ 64 - 1 → ∀ id ∈ s.registry, id < (s.actionOf p).id)

theorem answerTree_plan (s : Session) (result : Except Refusal (ObjectId × DeviceTree))
    (changes : ObjectId → Changes) : (s.answerTree result changes).2.plan = s.plan := by
  obtain ⟨t, hTree⟩ := answerTree_snd s result changes
  rw [hTree]
  rfl

theorem newDevice_grows (s : Session) (draft : DeviceDraft) :
    s.tree.Grows (s.newDevice draft).2.tree := by
  rcases s.newDevice_tree draft with hSame | ⟨name, number, hNew⟩
  · rw [hSame]
    exact .refl s.tree
  · rw [hNew]
    exact s.tree.storeDevice_grows draft name number

theorem newFormat_grows (s : Session) (typeName mountPoint : String) (onMedia : Bool) :
    s.tree.Grows (s.newFormat typeName mountPoint onMedia).2.tree := by
  unfold newFormat answerTree
  cases hNew : s.tree.newFormat typeName mountPoint onMedia with
  | error cause => exact .refl s.tree
  | ok result => exact DeviceTree.newFormat_grows hNew

/-- A device that is taken in under a new id leaves alone what is stored. -/
theorem adoptDevice_grows {draft : DeviceDraft} {typeName mountPoint : String}
    (hNew : ∀ id t, s.tree.newDevice { draft with onMedia := true } = .ok (id, t) →
      s.tree.device? id = none) :
    s.tree.Grows (s.adoptDevice draft typeName mountPoint).2.tree := by
  rcases adoptDevice_cases s draft typeName mountPoint with
    ⟨_, hSame⟩ | ⟨id, bare, t, hDevice, hFormat, hAfter⟩
  · rw [hSame]
    exact .refl s.tree
  · have hBare : s.tree.Grows bare := by
      obtain ⟨name, number, rfl⟩ := DeviceTree.eq_storeDevice_of_newDevice hDevice
      exact s.tree.storeDevice_grows _ name number
    have hGrows : s.tree.Grows t := by
      rcases hFormat with rfl | hAdopt
      · exact hBare
      · exact hBare.adoptFormat (hNew id bare hDevice) hAdopt
    rcases hAfter with ⟨_, hAfter⟩ | ⟨_, _, t', hAdd, hAfter⟩
    · rw [hAfter]
      exact hGrows
    · rw [hAfter]
      obtain ⟨_, _, _, rfl⟩ := DeviceTree.add_ok hAdd
      exact ⟨hGrows.device?, hGrows.format?⟩

theorem Numbered.le_adoptDevice {n : Nat} (h : s.Numbered n) {draft : DeviceDraft}
    (typeName mountPoint : String) {id : ObjectId} {t : DeviceTree}
    (hNew : s.tree.newDevice { draft with onMedia := true } = .ok (id, t)) :
    (t.storedIds ++ s.actions.ids).length
      ≤ (s.adoptDevice draft typeName mountPoint).2.storedIds.length := by
  have hBare : t.Numbered s.actions.ids (t.storedIds ++ s.actions.ids).length :=
    ⟨le_refl _, (DeviceTree.Numbered.newDevice h hNew).2⟩
  unfold Session.adoptDevice
  simp only [hNew]
  cases hFormat : t.adoptFormat id typeName mountPoint with
  | error cause => exact le_refl _
  | ok formatted =>
    have hFormatted := hBare.adoptFormat hFormat
    dsimp only
    cases hAdd : formatted.add id with
    | error cause => exact hFormatted.1
    | ok added => exact (hFormatted.of_same (DeviceTree.add_ids hAdd)).1

/-- What is stored stays as it is when a device is taken in while ids are left. -/
theorem Numbered.adoptDevice_grows {n : Nat} (h : s.Numbered n) {draft : DeviceDraft}
    {typeName mountPoint : String}
    (hFew : (s.adoptDevice draft typeName mountPoint).2.storedIds.length < 2 ^ 64 - 1) :
    s.tree.Grows (s.adoptDevice draft typeName mountPoint).2.tree := by
  refine Session.adoptDevice_grows fun id t hNew => ?_
  obtain ⟨_, _, name, number, hStore⟩ := DeviceTree.newDevice_ok hNew
  have hBare := (h.le_adoptDevice typeName mountPoint hNew).trans_lt hFew
  obtain rfl : t = (s.tree.storeDevice { draft with onMedia := true } name number).2 :=
    congrArg Prod.snd hStore
  have hId : id = (s.tree.storeDevice { draft with onMedia := true } name number).1 :=
    congrArg Prod.fst hStore
  have hFree := (DeviceTree.Numbered.storeDevice_fresh h _ name number hBare).1
  rw [← hId] at hFree
  rwa [← Option.not_isSome_iff_eq_none, DeviceTree.device?, Arena.isSome_find?_iff]

/-- A new action that is not registered leaves the plan as it is. -/
theorem plan_of_new (hListed : s.Listed) {actions : Arena Action} {t : DeviceTree}
    {state : ActionState} (hInsert : s.actions.insert? a = some actions)
    (hSame : ({ s with tree := t, actions }.setState a.id state).Same s') : s'.plan = s.plan := by
  rw [hSame.plan]
  unfold plan
  refine List.filterMap_congr fun id hid => ?_
  obtain ⟨b, hb, _⟩ := (hListed.mem_iff id).mp hid
  rw [hb]
  exact action?_of_new hInsert rfl state hb

/-- The id of a new action is behind all that were drawn before. -/
theorem Numbered.lt_of_registered {n : Nat} (h : s.Numbered n) (hListed : s.Listed)
    (hPrepares : s.tree.Prepares p)
    (hFew : (p.tree.storedIds ++ s.actions.ids).length < 2 ^ 64 - 1) {id : ObjectId}
    (hid : id ∈ s.registry) : id < (s.actionOf p).id := by
  have hNumbers : Numbers p.tree.ids.next (p.tree.storedIds ++ s.actions.ids) :=
    (DeviceTree.Numbered.prepares h hPrepares).2
  obtain ⟨a, ha, _⟩ := (hListed.mem_iff id).mp hid
  have hStored : id ∈ s.actions.ids := Arena.isSome_find?_iff.mp (Option.isSome_of_eq_some ha)
  exact (hNumbers hFew).2.1 id (List.mem_append_right _ hStored)

theorem composed_schedule {n : Nat} (hListed : s.Listed) (hNumbered : s.Numbered n)
    (proposal : Proposal) : s.Composed (s.schedule proposal).2 := by
  cases scheduled s proposal with
  | refused hOk hSame =>
    exact .quiet hSame.plan hSame.registry fun _ => hSame.tree ▸ .refl s.tree
  | dropped p hPrepares hTaken hOk hSame =>
    refine .quiet hSame.plan hSame.registry fun hFew => ?_
    rw [storedIds, hSame.tree, hSame.actions] at hFew
    exact absurd hTaken (hNumbered.stores hPrepares hFew)
  | takenBack p actions cause hPrepares hInsert hApply hOk hSame =>
    exact .quiet (plan_of_new hListed hInsert hSame) hSame.registry fun _ =>
      hSame.tree ▸ (undo_carryOut hPrepares).grows
  | registered p actions t changes hPrepares hInsert hApply hOk hValue hSame =>
    have hTree : (s.schedule proposal).2.tree = t := hSame.tree
    refine .added p changes hPrepares (hTree.symm ▸ hApply)
      (plan_of_registered hListed hInsert hSame) hSame.registry fun hFew id hid => ?_
    refine hNumbered.lt_of_registered hListed hPrepares ?_ hid
    have hIds := DeviceTree.moves_ids (DeviceTree.applyRegistration_ok hApply)
    have hMore : (s.schedule proposal).2.actions.ids = s.actions.ids ++ [(s.actionOf p).id] := by
      rw [hSame.actions]
      exact (setState_ids _ _ _).trans (Arena.ids_insert? hInsert)
    have hStored : (s.schedule proposal).2.tree.storedIds = p.tree.storedIds := by
      rw [hTree]
      unfold DeviceTree.storedIds
      rw [hIds.devices, hIds.formats]
      rfl
    rw [storedIds, hStored, hMore] at hFew
    simp only [List.length_append] at hFew ⊢
    omega

/-- **Each call of a plan in the making appends one action or none.** -/
theorem composed {n : Nat} (hListed : s.Listed) (hNumbered : s.Numbered n) {command : Command}
    (hComposes : command.composes = true) : s.Composed (s.perform command).2 := by
  cases command with
  | newDevice draft =>
    exact .quiet (answerTree_plan s _ _) (answerTree_registry s _ _) fun _ =>
      s.newDevice_grows draft
  | newFormat typeName mountPoint onMedia =>
    exact .quiet (answerTree_plan s _ _) (answerTree_registry s _ _) fun _ =>
      s.newFormat_grows typeName mountPoint onMedia
  | schedule p => exact composed_schedule hListed hNumbered p
  | _ => cases hComposes

/-- The slots of the tree after an action is appended: the action took effect on its own one. -/
theorem read_of_added {t : DeviceTree} {changes : Changes} (hPrepares : s.tree.Prepares p)
    (hApply : (s.carryOut p).tree.applyRegistration (s.actionOf p) = .ok (t, changes)) :
    t.read = act s.tree.read (s.actionOf p) :=
  hPrepares.read_registered rfl rfl (funext fun slot => by cases slot <;> rfl) hApply

/-! ## Between two calls -/

/-- Neither a populated tree nor a plan in the making leads to a cycle. -/
theorem dag_perform (hLinked : s.Linked) (hDag : s.tree.Dag) {command : Command}
    (h : command.populates = true ∨ command.composes = true) : (s.perform command).2.tree.Dag := by
  have hOverwrites : command.overwrites = false :=
    h.elim Command.overwrites_of_populates Command.overwrites_of_composes
  refine (dag_perform_iff hLinked hDag hOverwrites).mpr ?_
  cases command <;> first | rfl | (rcases h with h | h <;> cases h)

/-- What holds while actions are scheduled in a session that was only populated. -/
structure Underway (populated : List ObjectId) (s : Session) : Prop where
  linked : s.Linked
  numbered : s.Numbered 0
  dag : s.tree.Dag
  tallied : Tallied (fun d => populated.count d) s
  once : populated.Nodup
  standing : ∀ d ∈ populated, Standing d s
  increasing : s.storedIds.length < 2 ^ 64 - 1 → s.registry.Pairwise (· < ·)

theorem Underway.listed (h : Underway populated s) : s.Listed := h.tallied.listed

theorem Underway.composed (h : Underway populated s) {command : Command}
    (hComposes : command.composes = true) : s.Composed (s.perform command).2 :=
  Session.composed h.listed h.numbered hComposes

/-- Ids that are left after a call were left before it. -/
theorem Underway.few (h : Underway populated s) {command : Command}
    (hComposes : command.composes = true)
    (hFew : (s.perform command).2.storedIds.length < 2 ^ 64 - 1) :
    s.storedIds.length < 2 ^ 64 - 1 :=
  have hKept := (h.numbered.of_le (le_refl _)).perform (Command.overwrites_of_composes hComposes)
  hKept.le.trans_lt hFew

theorem Underway.perform (h : Underway populated s) {command : Command}
    (hComposes : command.composes = true) : Underway populated (s.perform command).2 where
  linked := h.linked.perform (Command.overwrites_of_composes hComposes)
  numbered := h.numbered.perform (Command.overwrites_of_composes hComposes)
  dag := dag_perform h.linked h.dag (Or.inr hComposes)
  tallied := by
    cases command with
    | newDevice draft => exact h.tallied.newDevice draft
    | newFormat typeName mountPoint onMedia =>
      exact h.tallied.newFormat typeName mountPoint onMedia
    | schedule p => exact h.tallied.schedule p
    | _ => cases hComposes
  once := h.once
  standing := by
    intro d hd
    have hStanding := h.standing d hd
    cases command with
    | newDevice draft => exact hStanding.newDevice draft
    | newFormat typeName mountPoint onMedia => exact hStanding.newFormat typeName mountPoint onMedia
    | schedule p => exact hStanding.schedule p
    | _ => cases hComposes
  increasing := by
    intro hFew
    have hBefore := h.increasing (h.few hComposes hFew)
    cases h.composed hComposes with
    | quiet hPlan hRegistry hGrows => exact hRegistry ▸ hBefore
    | added p changes hPrepares hApply hPlan hRegistry hNewest =>
      rw [hRegistry]
      refine List.pairwise_append.mpr ⟨hBefore, List.pairwise_singleton _ _, ?_⟩
      intro id hid other hOther
      rw [List.mem_singleton.mp hOther]
      exact hNewest hFew id hid

/-- What each call of a plan in the making keeps while ids are left holds after all of them. -/
theorem Underway.performAll {I : Session → Prop} {Allowed : Session → Command → Prop}
    (hAllowed : ∀ s command, Allowed s command → command.composes = true)
    (hStep : ∀ s command, Allowed s command → Underway populated s →
      (s.perform command).2.storedIds.length < 2 ^ 64 - 1 → I s → I (s.perform command).2)
    (h : Underway populated s) (hs : I s) {commands : List Command}
    (hRun : s.Along Allowed commands) :
    Underway populated (s.performAll commands) ∧
      ((s.performAll commands).storedIds.length < 2 ^ 64 - 1 → I (s.performAll commands)) := by
  refine hRun.performAll
    (I := fun s => Underway populated s ∧ (s.storedIds.length < 2 ^ 64 - 1 → I s))
    (fun s command hCommand h => ?_) ⟨h, fun _ => hs⟩
  have hComposes := hAllowed s command hCommand
  exact ⟨h.1.perform hComposes, fun hFew =>
    hStep s command hCommand h.1 hFew (h.2 (h.1.few hComposes hFew))⟩

/-- A present device that was there from the start is not destroyed by the plan. -/
theorem Underway.not_mem_destroyed (h : Underway populated s) {d : ObjectId} (hd : d ∈ populated)
    (hPresent : d ∈ s.tree.order) : d ∉ s.devicesOf .destroyDevice := by
  refine (h.standing d hd).not_mem_destroyed h.tallied ?_ hPresent
  exact_mod_cast List.nodup_iff_count_le_one.mp h.once d

/-- **A populated session may be planned on.** -/
theorem underway_of_populated {populating : List Command}
    (hPopulates : ∀ command ∈ populating, command.populates = true) :
    let start := ({} : Session).performAll populating
    start.plan = [] ∧ Underway start.tree.order start := by
  intro start
  have hOverwrites : ∀ command ∈ populating, command.overwrites = false :=
    fun command hCommand => Command.overwrites_of_populates (hPopulates command hCommand)
  have hUnplanned : start.Unplanned := unplanned_empty.performAll hPopulates
  have hListed : start.Listed := listed_empty.performAll populating
  have hLinked : start.Linked := linked_empty.performAll hOverwrites
  refine ⟨?_, hLinked, numbered_empty.performAll hOverwrites, ?_,
    .of_registry_nil hUnplanned.registry hListed hUnplanned.sound.inStep,
    hUnplanned.sound.inStep.nodup, fun d hd => ⟨?_, fun id a ha => ?_⟩,
    fun _ => hUnplanned.registry ▸ List.Pairwise.nil⟩
  · rw [plan, hUnplanned.registry]
    rfl
  · exact (along_of_forall hPopulates _).performAll (I := fun s => s.Linked ∧ s.tree.Dag)
      (fun s command hCommand h =>
        ⟨h.1.perform (Command.overwrites_of_populates hCommand),
          dag_perform h.1 h.2 (Or.inl hCommand)⟩)
      ⟨linked_empty, DeviceTree.dag_empty⟩ |>.2
  · obtain ⟨device, hDevice, hMedia⟩ := hUnplanned.there hd
    rwa [DeviceTree.isThere_of_device? hDevice]
  · rw [hUnplanned.action?_eq_none] at ha
    cases ha

end Session

end StoragePlan

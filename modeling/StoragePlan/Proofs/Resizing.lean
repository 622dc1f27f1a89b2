import StoragePlan.Proofs.Wiping

/-!
# Resizes and the formats they meet

Whether the content of a device allows a resize is asked when the resize is constructed, and never
again: a later action puts another format on the device, and the withdrawal of an older one puts
back the format that it displaced.

* `DeviceTree.Equipped.holdsFixed_of_canResize`: **a device that can be resized holds no format that
  is on the media and cannot be**.
* `resizesFit_schedule_iff`, `resizesFit_cancel_iff`: what scheduling and withdrawing an action do
  to a plan whose resizes all fit.
* `resizesFit_along_iff`: the resizes of a plan fit all along **exactly when no such format is put
  on a device that the plan resizes**.
-/

namespace StoragePlan

/-- The device and the format, when a proposal puts a format on a device. -/
def Proposal.puts? : Proposal → Option (ObjectId × ObjectId)
  | .createFormat device format => some (device, format)
  | _ => none

theorem Operation.kind_of_puts {operation : Operation} {format : ObjectId}
    (h : operation.puts? = some format) : operation.kind = .createFormat := by
  cases operation <;> first | rfl | cases h

/-- Whether a command makes a format that is on the media already. -/
def Command.writesFormat : Command → Bool
  | newFormat _ _ onMedia => onMedia
  | _ => false

namespace DeviceTree

variable {t t' t'' : DeviceTree} {p : Preparation} {a : Action} {d e f : ObjectId}

/-- Whether a stored format is on the media and cannot be resized. -/
def isFixed (t : DeviceTree) (format : ObjectId) : Bool :=
  (t.format? format).any fun format => format.onMedia && !format.resizable

/-- Whether a device holds a format that is on the media and cannot be resized. -/
def holdsFixed (t : DeviceTree) (device : ObjectId) : Bool := (t.formatIdOf? device).any t.isFixed

/-- Whether a stored format is blank and on the media all the same. -/
def isWrittenBlank (t : DeviceTree) (format : ObjectId) : Bool :=
  (t.format? format).any fun format => format.kind == .blank && format.onMedia

/-- No device waits for its format to be stored, and no blank format is on the media. -/
structure Equipped (t : DeviceTree) : Prop where
  carries : ∀ d f, t.formatIdOf? d = some f → t.Settles f
  blank : ∀ f, t.isWrittenBlank f = false

theorem equipped_empty : ({} : DeviceTree).Equipped :=
  ⟨fun _ _ h => (Option.some_ne_none _ h.symm).elim, fun _ => rfl⟩

theorem holdsFixed_iff : t.holdsFixed d = true ↔
    ∃ format, t.formatOf? d = some format ∧ format.onMedia = true ∧ format.resizable = false := by
  unfold holdsFixed formatIdOf? isFixed formatOf?
  cases t.device? d with
  | none => simp
  | some device => simp [Option.any_eq_true]

/-- **What can be resized holds no format that cannot.** -/
theorem Equipped.holdsFixed_of_canResize (h : t.Equipped) (hResize : t.canResize d = true) :
    t.holdsFixed d = false := by
  by_contra hFixed
  rw [Bool.not_eq_false] at hFixed
  obtain ⟨format, hFormat, hMedia, hRigid⟩ := holdsFixed_iff.mp hFixed
  obtain ⟨device, hd, hStored⟩ := Option.bind_eq_some_iff.mp hFormat
  have hKind : format.kind ≠ .blank := by
    intro hKind
    have hBlank := h.blank device.formatId
    rw [isWrittenBlank, hStored] at hBlank
    simp [hKind, hMedia] at hBlank
  have hContent : t.content? d = some format := by simp [content?, hFormat, Option.filter, hKind]
  simp [canResize, hd, hContent, hRigid] at hResize

/-! ## What is on the devices -/

theorem holdsFixed_setFormat (hd : (t.device? d).isSome) :
    (t.setFormat d f).holdsFixed e = if e = d then t.isFixed f else t.holdsFixed e := by
  have hFormats : (t.setFormat d f).isFixed = t.isFixed := rfl
  unfold holdsFixed
  rw [formatIdOf?_setFormat, hFormats]
  by_cases hed : e = d
  · obtain ⟨device, hd⟩ := Option.isSome_iff_exists.mp hd
    subst hed
    simp [formatIdOf?, hd]
  · simp [hed]

theorem SameContent.holdsFixed (h : t.SameContent t') (d : ObjectId) :
    t'.holdsFixed d = t.holdsFixed d := by
  have hFixed : t'.isFixed = t.isFixed := funext (h.any_format fun _ _ => rfl)
  rw [DeviceTree.holdsFixed, DeviceTree.holdsFixed, h.formatIdOf?, hFixed]

/-! ## Devices stay equipped -/

theorem Grows.isFixed (h : t.Grows t') (hf : t.Settles f) : t'.isFixed f = t.isFixed f := by
  rcases hf with rfl | hf
  · rw [DeviceTree.isFixed, DeviceTree.isFixed, DeviceTree.format?, DeviceTree.format?,
      Arena.find?_zero, Arena.find?_zero]
  · exact h.any_format hf _

theorem Grows.holdsFixed (h : t.Grows t') (hEquipped : t.Equipped) (hd : (t.device? d).isSome) :
    t'.holdsFixed d = t.holdsFixed d := by
  rw [DeviceTree.holdsFixed, DeviceTree.holdsFixed, h.formatIdOf? hd]
  cases hCarries : t.formatIdOf? d with
  | none => rfl
  | some f => exact h.isFixed (hEquipped.carries d f hCarries)

theorem Equipped.of_sameContent (h : t.Equipped) (hSame : t.SameContent t') : t'.Equipped := by
  refine ⟨(CarriesOnly.of_sameContent h.carries hSame).mono fun _ => hSame.settles, fun f => ?_⟩
  exact (hSame.any_format (fun _ _ => rfl) f).trans (h.blank f)

theorem Equipped.setFormat (h : t.Equipped) (hf : t.Settles f) (d : ObjectId) :
    (t.setFormat d f).Equipped :=
  ⟨CarriesOnly.setFormat h.carries hf d, h.blank⟩

theorem Equipped.storeFormat (h : t.Equipped) {type : FormatType} {onMedia : Bool}
    (hBlank : type.kind = .blank → onMedia = false) (mountPoint : String) :
    (t.storeFormat type mountPoint onMedia).2.Equipped := by
  refine ⟨fun d f hf => (t.storeFormat_grows type mountPoint onMedia).settles (h.carries d f hf),
    fun f => (any_storeFormat t ?_ f).trans (h.blank f)⟩
  by_cases hKind : type.kind = .blank <;> simp [Format.ofType, hKind, hBlank]

theorem Equipped.storeDevice (h : t.Equipped) (draft : DeviceDraft) (name : String) (number : Int) :
    (t.storeDevice draft name number).2.Equipped := by
  have hFormat : (t.storeFormat .blank "" false).2.Equipped := h.storeFormat (fun _ => rfl) ""
  have hCarries : t.CarriesOnly (t.storeDevice draft name number).2.Settles := hFormat.carries
  exact ⟨hCarries.storeDevice (fun _ hf => Or.inr hf) fun _ => Or.inl rfl, hFormat.blank⟩

theorem Equipped.newDevice (h : t.Equipped) {draft : DeviceDraft} {id : ObjectId}
    (hNew : t.newDevice draft = .ok (id, t')) : t'.Equipped := by
  obtain ⟨name, number, rfl⟩ := eq_storeDevice_of_newDevice hNew
  exact h.storeDevice draft name number

theorem Equipped.newFormat (h : t.Equipped) {typeName mountPoint : String} {id : ObjectId}
    (hNew : t.newFormat typeName mountPoint false = .ok (id, t')) : t'.Equipped := by
  unfold DeviceTree.newFormat at hNew
  split at hNew
  · cases hNew
  · cases hNew
    exact h.storeFormat (fun _ => rfl) mountPoint

/-- Only the blank type is blank. -/
theorem kind_ne_blank_of_named {name : String} {type : FormatType}
    (h : FormatType.named? name = some type) (hName : name ≠ "") : type.kind ≠ .blank := by
  have hTable : ∀ type ∈ FormatType.table, type.kind = .blank → type.name = "" := by decide
  intro hKind
  have hFound : type.name = name := by simpa using List.find?_some h
  exact hName (hFound ▸ hTable type (List.mem_of_find?_eq_some h) hKind)

theorem Equipped.adoptFormat (h : t.Equipped) {id : ObjectId} {typeName mountPoint : String}
    (hAdopt : t.adoptFormat id typeName mountPoint = .ok t') : t'.Equipped := by
  unfold DeviceTree.adoptFormat at hAdopt
  split at hAdopt
  · cases hAdopt
    exact h
  · rename_i hName
    obtain ⟨result, hNew, rfl⟩ := map_ok hAdopt
    unfold DeviceTree.newFormat at hNew
    split at hNew
    · cases hNew
    · rename_i type hType
      cases hNew
      refine Equipped.setFormat (h.storeFormat (fun hKind => ?_) mountPoint)
        (t.settles_storeFormat type mountPoint true) id
      exact absurd hKind (kind_ne_blank_of_named hType hName)

theorem Equipped.undoConstruction (h : t.Equipped)
    (hDisplaced : ∀ f ∈ a.operation.displaced?, t.Settles f) :
    (t.undoConstruction a).1.Equipped := by
  cases hOp : a.operation.displaced? with
  | none => exact h.of_sameContent (sameContent_undoConstruction hOp)
  | some f =>
    cases hDevice : (t.device? a.device).isSome with
    | false => rwa [undoConstruction_of_missing hDevice]
    | true =>
      rw [undoConstruction_of_displaced hDevice hOp]
      exact h.setFormat (hDisplaced f hOp) a.device

/-! ## Preparing an action -/

/-- What a proposal puts on a device is what its action does. -/
theorem prepare_puts? {proposal : Proposal} (h : t.prepare proposal = .ok p) :
    p.operation.puts?.map (p.device, ·) = proposal.puts? := by
  cases proposal with
  | createFormat id format =>
    obtain ⟨device, hTarget, hRest⟩ := bind_ok h
    obtain rfl : device.id = id := Arena.id_of_find? (target_ok hTarget)
    cases hFormat : t.format? format with
    | none =>
      rw [hFormat] at hRest
      cases hRest
    | some stored =>
      rw [hFormat] at hRest
      cases hRest
      rfl
  | createDevice id =>
    obtain ⟨device, _, h⟩ := bind_ok h
    cases hMedia : device.onMedia <;> rw [hMedia] at h <;> cases h
    rfl
  | destroyDevice id | destroyFormat id =>
    obtain ⟨device, _, h⟩ := bind_ok h
    cases h
    rfl
  | resizeDevice id size =>
    obtain ⟨device, _, h⟩ := bind_ok h
    unfold prepareResizeDevice at h
    split at h <;> cases h
    rfl
  | resizeFormat id size =>
    obtain ⟨device, _, h⟩ := bind_ok h
    unfold prepareResizeFormat at h
    split at h
    · cases h
    · dsimp only at h
      split at h <;> cases h
      rfl
  | addMember container member =>
    obtain ⟨container, _, h⟩ := bind_ok h
    obtain ⟨member, _, h⟩ := bind_ok h
    unfold prepareAddMember at h
    split at h
    · cases h
    · split at h <;> cases h
      rfl
  | removeMember container member =>
    obtain ⟨container, _, h⟩ := bind_ok h
    obtain ⟨member, _, h⟩ := bind_ok h
    unfold prepareRemoveMember at h
    split at h <;> cases h
    rfl

theorem Equipped.prepares (h : t.Equipped) (hPrepares : t.Prepares p) : p.tree.Equipped := by
  rcases hPrepares.content with ⟨f, _, hf, hTree⟩ | ⟨_, hTree⟩ | ⟨_, hSame⟩
  · rw [hTree]
    exact h.setFormat (Or.inr hf) p.device
  · rw [hTree]
    exact Equipped.setFormat (h.storeFormat (fun _ => rfl) "")
      (t.settles_storeFormat .blank "" false) p.device
  · exact h.of_sameContent hSame

theorem Prepares.canResize (h : t.Prepares p) (hKind : p.operation.kind = .resizeDevice) :
    t.canResize p.device = true := by
  cases h with
  | resizeDevice hd hSize =>
    by_contra hRigid
    rw [Bool.not_eq_true] at hRigid
    unfold deviceSizeRefusal? at hSize
    rw [if_pos hRigid] at hSize
    split at hSize <;> cases hSize
  | _ => cases hKind

theorem Prepares.holdsFixed_of_puts (h : t.Prepares p) (hPuts : p.operation.puts? = some f) :
    p.tree.holdsFixed d = if d = p.device then t.isFixed f else t.holdsFixed d := by
  rcases h.content with ⟨g, hPuts', _, hTree⟩ | ⟨hNone, _⟩ | ⟨hNone, _⟩
  · obtain rfl : g = f := Option.some.inj (hPuts'.symm.trans hPuts)
    rw [hTree, holdsFixed_setFormat h.isSome]
  all_goals cases hNone.symm.trans hPuts

/-- A preparation that puts no format on a device but a new blank one leaves no fixed format
there. -/
theorem Prepares.not_holdsFixed (h : t.Prepares p) (hPuts : p.operation.puts? = none)
    (hEquipped : t.Equipped) (hNew : t.format? t.ids.next = none) (hd : (t.device? d).isSome)
    (hBefore : t.holdsFixed d = false) : p.tree.holdsFixed d = false := by
  rcases h.content with ⟨f, hPuts', _, _⟩ | ⟨_, hTree⟩ | ⟨_, hSame⟩
  · cases hPuts.symm.trans hPuts'
  · have hBlank : (t.storeFormat .blank "" false).2.isFixed t.ids.next = t.isFixed t.ids.next :=
      any_storeFormat t rfl _
    have hOthers := (t.storeFormat_grows .blank "" false).holdsFixed hEquipped hd
    rw [hTree, holdsFixed_setFormat (t := (t.storeFormat .blank "" false).2) h.isSome, hBlank,
      hOthers, hBefore, isFixed, hNew]
    exact ite_self false
  · rw [hSame.holdsFixed, hBefore]

end DeviceTree

namespace Session

variable {s s' : Session} {p : Proposal} {a : Action} {d f id : ObjectId} {n : Nat}

/-- Every resize in the plan fits: what its device holds is not on the media, or it can be
resized. -/
def ResizesFit (s : Session) : Prop :=
  ∀ a ∈ s.plan, a.kind = .resizeDevice → ∀ format, s.tree.formatOf? a.device = some format →
    format.onMedia = true → format.resizable = true

/-- The device and the format, when a command puts a format on a device that was there before:
the one of a proposal that is scheduled, or the one that a withdrawn action displaced. -/
def puts? (s : Session) : Command → Option (ObjectId × ObjectId)
  | .schedule p => if (s.schedule p).1.ok then p.puts? else none
  | .cancel id => ((s.action? id).filter Action.isOpen).bind fun a =>
    a.operation.displaced?.map (a.device, ·)
  | _ => none

/-- A command puts no format on a device that the plan resizes which is on the media and cannot be
resized. -/
def putsFitting (s : Session) (command : Command) : Bool :=
  (s.puts? command).all fun (device, format) =>
    !(s.devicesOf .resizeDevice).contains device || !s.tree.isFixed format

/-- The devices are equipped, and what the actions displaced can be put back. -/
structure Equipped (s : Session) : Prop where
  tree : s.tree.Equipped
  displaced : ∀ id a, s.action? id = some a → ∀ f ∈ a.operation.displaced?, s.tree.Settles f

theorem resizesFit_iff :
    s.ResizesFit ↔ ∀ d ∈ s.devicesOf .resizeDevice, s.tree.holdsFixed d = false := by
  unfold ResizesFit devicesOf
  simp only [List.mem_map, List.mem_filter, beq_iff_eq, forall_exists_index, and_imp]
  constructor
  · rintro h d a ha hKind rfl
    by_contra hFixed
    rw [Bool.not_eq_false] at hFixed
    obtain ⟨format, hFormat, hMedia, hRigid⟩ := DeviceTree.holdsFixed_iff.mp hFixed
    rw [h a ha hKind format hFormat hMedia] at hRigid
    cases hRigid
  · intro h a ha hKind format hFormat hMedia
    by_contra hRigid
    rw [Bool.not_eq_true] at hRigid
    have hFixed := DeviceTree.holdsFixed_iff.mpr ⟨format, hFormat, hMedia, hRigid⟩
    exact Bool.false_ne_true ((h a.device a ha hKind rfl).symm.trans hFixed)

instance (s : Session) : Decidable s.ResizesFit :=
  have : Decidable (∀ d ∈ s.devicesOf .resizeDevice, s.tree.holdsFixed d = false) :=
    List.decidableBAll _ _
  decidable_of_iff _ resizesFit_iff.symm

/-! ## Sessions stay equipped -/

theorem equipped_empty : ({} : Session).Equipped :=
  ⟨DeviceTree.equipped_empty, fun _ _ h => by cases h⟩

theorem Equipped.carriesOnly (h : s.Equipped) : s.CarriesOnly s.tree.Settles :=
  ⟨h.tree.carries, h.displaced⟩

theorem Equipped.of_sameActions (h : s.Equipped) (hActions : s.SameActions s')
    (hTree : s'.tree.Equipped) (hKeeps : ∀ f, s.tree.Settles f → s'.tree.Settles f) :
    s'.Equipped :=
  ⟨hTree, ((h.carriesOnly.mono hKeeps).of_sameActions hActions hTree.carries).displaced⟩

theorem Equipped.propose (h : s.Equipped) (p : Proposal) : (s.propose p).2.Equipped := by
  have hAfter : (s.propose p).2.tree.Equipped ∧
      ∀ f, s.tree.Settles f → (s.propose p).2.tree.Settles f := by
    rcases propose_cases s p with
      hSame | ⟨preparation, hPrepare, ⟨_, hSame⟩ | ⟨actions, message, _, hNew⟩⟩
    · rw [hSame]
      exact ⟨h.tree, fun _ hf => hf⟩
    all_goals
      have hPrepares := DeviceTree.prepares_of_prepare hPrepare
      have hTree := h.tree.prepares hPrepares
    · rw [hSame]
      exact ⟨⟨hTree.carries, hTree.blank⟩, fun _ hf => hPrepares.settles hf⟩
    · rw [hNew]
      exact ⟨⟨hTree.carries, hTree.blank⟩, fun _ hf => hPrepares.settles hf⟩
  have hCarries := (h.carriesOnly.mono hAfter.2).propose (p := p) (fun _ hf => Or.inr hf)
    fun _ => Or.inl rfl
  exact ⟨hAfter.1, hCarries.displaced⟩

theorem Equipped.register (h : s.Equipped) (id : ObjectId) : (s.register id).2.Equipped := by
  have hActions := register_actions s id
  rcases register_cases s id with hSame | ⟨_, hSame⟩ | ⟨a, t, _, _, ha, _, hApply, hNew⟩
  · rw [hSame]
    exact h
  · rw [hSame]
    exact ⟨h.tree, h.displaced⟩
  · have hMoves := DeviceTree.sameContent_of_moves (DeviceTree.applyRegistration_ok hApply)
    rw [hNew] at hActions ⊢
    exact h.of_sameActions hActions (h.tree.of_sameContent hMoves) fun f hf => hMoves.settles hf

theorem Equipped.cancel (h : s.Equipped) (id : ObjectId) : (s.cancel id).2.Equipped := by
  have hActions := cancel_actions s id
  cases cancelled s id with
  | refused hOk hSame =>
    refine h.of_sameActions hActions ?_ ?_ <;> rw [hSame.tree]
    · exact h.tree
    · exact fun _ hf => hf
  | constructed a ha hState hOk hSame =>
    have hIds := s.tree.undoConstruction_ids a
    refine h.of_sameActions hActions ?_ ?_ <;> rw [hSame.tree]
    · exact h.tree.undoConstruction (h.displaced id a ha)
    · exact fun _ hf => hIds.settles hf
  | registered a t changes ha hState hUndo hOk hSame =>
    have hMoves := DeviceTree.undoRegistration_ok hUndo
    have hContent := DeviceTree.sameContent_of_moves hMoves
    have hIds := t.undoConstruction_ids a
    refine h.of_sameActions hActions ?_ ?_ <;> rw [hSame.tree]
    · refine (h.tree.of_sameContent hContent).undoConstruction fun f hf => ?_
      exact hContent.settles (h.displaced id a ha f hf)
    · exact fun _ hf => hIds.settles (hContent.settles hf)

theorem Equipped.answerTree (h : s.Equipped) {result : Except Refusal (ObjectId × DeviceTree)}
    {changes : ObjectId → Changes}
    (hResult : ∀ id t, result = .ok (id, t) → t.Equipped ∧ s.tree.Grows t) :
    (s.answerTree result changes).2.Equipped := by
  cases hAnswer : result with
  | error cause => exact h
  | ok answer =>
    obtain ⟨hTree, hGrows⟩ := hResult answer.1 answer.2 hAnswer
    exact ⟨hTree, fun id a ha f hf => hGrows.settles (h.displaced id a ha f hf)⟩

theorem Equipped.adoptDevice (h : s.Equipped) (draft : DeviceDraft) (typeName mountPoint : String) :
    (s.adoptDevice draft typeName mountPoint).2.Equipped := by
  rcases adoptDevice_cases s draft typeName mountPoint with
    ⟨_, hSame⟩ | ⟨id, bare, t, hNew, hFormat, hAfter⟩
  · rw [hSame]
    exact h
  · have hBare : s.tree.Grows bare := by
      obtain ⟨name, number, rfl⟩ := DeviceTree.eq_storeDevice_of_newDevice hNew
      exact s.tree.storeDevice_grows _ name number
    have hAdopted : t.Equipped ∧ ∀ f, s.tree.Settles f → t.Settles f := by
      rcases hFormat with rfl | hAdopt
      · exact ⟨h.tree.newDevice hNew, fun _ hf => hBare.settles hf⟩
      · exact ⟨(h.tree.newDevice hNew).adoptFormat hAdopt,
          fun _ hf => (hBare.settles hf).adoptFormat hAdopt⟩
    rcases hAfter with ⟨_, hAfter⟩ | ⟨_, _, t', hAdd, hAfter⟩
    · rw [hAfter]
      exact ⟨hAdopted.1, fun id a ha f hf => hAdopted.2 f (h.displaced id a ha f hf)⟩
    · rw [hAfter]
      obtain ⟨_, _, _, rfl⟩ := DeviceTree.add_ok hAdd
      exact ⟨⟨hAdopted.1.carries, hAdopted.1.blank⟩,
        fun id a ha f hf => hAdopted.2 f (h.displaced id a ha f hf)⟩

/-- **Devices stay equipped, as long as no format is made that is on the media already.** -/
theorem Equipped.perform (h : s.Equipped) {command : Command}
    (hCommand : command.makes = true ∨ command.schedules = true)
    (hUnwritten : command.writesFormat = false) : (s.perform command).2.Equipped := by
  cases command with
  | newDevice draft =>
    refine h.answerTree fun id t hNew => ⟨h.tree.newDevice hNew, ?_⟩
    obtain ⟨name, number, rfl⟩ := DeviceTree.eq_storeDevice_of_newDevice hNew
    exact s.tree.storeDevice_grows draft name number
  | newFormat typeName mountPoint onMedia =>
    obtain rfl : onMedia = false := hUnwritten
    exact h.answerTree fun id t hNew =>
      ⟨h.tree.newFormat hNew, DeviceTree.newFormat_grows hNew⟩
  | adoptDevice draft typeName mountPoint => exact h.adoptDevice draft typeName mountPoint
  | schedule p =>
    exact schedule_preserves (fun _ h => h.propose p) (fun _ id h => h.register id)
      (fun _ id h => h.cancel id) h
  | cancel id => exact h.cancel id
  | _ => rcases hCommand with hCommand | hCommand <;> cases hCommand

/-! ## One step -/

theorem mem_devicesOf_of_plan {kind : ActionKind} (hPlan : s'.plan = s.plan ++ [a]) :
    d ∈ s'.devicesOf kind ↔ d ∈ s.devicesOf kind ∨ a.kind = kind ∧ a.device = d := by
  unfold devicesOf
  simp only [hPlan, List.mem_map, List.mem_filter, List.mem_append, List.mem_singleton, beq_iff_eq]
  constructor
  · rintro ⟨b, ⟨hb | rfl, hKind⟩, rfl⟩
    · exact Or.inl ⟨b, ⟨hb, hKind⟩, rfl⟩
    · exact Or.inr ⟨hKind, rfl⟩
  · rintro (⟨b, ⟨hb, hKind⟩, rfl⟩ | ⟨hKind, rfl⟩)
    · exact ⟨b, ⟨Or.inl hb, hKind⟩, rfl⟩
    · exact ⟨a, ⟨Or.inr rfl, hKind⟩, rfl⟩

theorem devicesOf_subset (hActions : s.SameActions s') (h : s'.registry ⊆ s.registry)
    (kind : ActionKind) : s'.devicesOf kind ⊆ s.devicesOf kind := by
  intro d hd
  obtain ⟨id, hid, hDevice⟩ := mem_devicesOf.mp hd
  exact mem_devicesOf.mpr ⟨id, h hid, hActions.deviceOf? kind id ▸ hDevice⟩

/-- A device that the plan resizes is stored. -/
theorem Linked.isSome_of_devicesOf (h : s.Linked) {kind : ActionKind} (hd : d ∈ s.devicesOf kind) :
    (s.tree.device? d).isSome := by
  obtain ⟨id, _, hDevice⟩ := mem_devicesOf.mp hd
  obtain ⟨a, ha, _, rfl⟩ := deviceOf?_eq_some.mp hDevice
  exact h.device id a ha

theorem ResizesFit.of_grows (h : s.ResizesFit) (hLinked : s.Linked) (hEquipped : s.Equipped)
    (hPlan : s'.plan = s.plan) (hGrows : s.tree.Grows s'.tree) : s'.ResizesFit := by
  rw [resizesFit_iff] at h ⊢
  have hDevices : s'.devicesOf .resizeDevice = s.devicesOf .resizeDevice := by
    rw [devicesOf, devicesOf, hPlan]
  intro d hd
  rw [hDevices] at hd
  rw [hGrows.holdsFixed hEquipped.tree (hLinked.isSome_of_devicesOf hd)]
  exact h d hd

theorem register_value (h : (s.register id).1.ok = true) : (s.register id).1.value = id := by
  obtain ⟨a, changes, ha, hApply⟩ := register_ok h
  generalize (s.register id).2.tree = t at hApply
  by_cases hState : a.state = .constructed
  · simp only [register, ha, hState, ne_eq, not_true_eq_false, if_false, hApply]
  · simp [register, ha, hState, reject, Outcome.refused, Outcome.ok] at h

/-- The action that is scheduled is the one that the proposal was prepared to. -/
theorem exists_of_schedule_ok (h : (s.schedule p).1.ok = true) :
    ∃ preparation a, s.tree.prepare p = .ok preparation ∧
      (s.schedule p).2.action? (s.schedule p).1.value = some a ∧ a.device = preparation.device ∧
      a.operation = preparation.operation := by
  unfold schedule Answer.andThen at h ⊢
  split at h
  case isFalse hRefused => exact absurd h hRefused
  case isTrue hProposed =>
    simp only [if_pos hProposed] at h ⊢
    have hSame := registerOrCancel_of_ok h
    rw [hSame] at h ⊢
    cases hPrepare : s.tree.prepare p with
    | error cause => simp [propose, hPrepare, Outcome.refused, Outcome.ok] at hProposed
    | ok preparation =>
      have hConstruct : s.propose p = s.construct preparation := by simp only [propose, hPrepare]
      rw [hConstruct] at hProposed h ⊢
      have hActions := register_actions (s.construct preparation).2
        (s.construct preparation).1.value (s.construct preparation).1.value
      rw [construct_ok hProposed] at hActions
      obtain ⟨a, ha, hCore⟩ := Option.map_eq_some_iff.mp hActions
      rw [register_value h]
      exact ⟨preparation, a, rfl, ha, congrArg Action.device hCore,
        congrArg Action.operation hCore⟩

/-- The next id names no format while ids are left. -/
theorem Numbered.format?_next (h : s.Numbered n) (hFew : s.storedIds.length < 2 ^ 64 - 1) :
    s.tree.format? s.tree.ids.next = none := by
  obtain ⟨_, hNew⟩ := h.2.notMem hFew
  rw [← Option.not_isSome_iff_eq_none, DeviceTree.format?, Arena.isSome_find?_iff]
  exact fun hTaken => hNew (List.mem_append_left _ (List.mem_append_right _ hTaken))

/-- With a format put on one device, the resizes still fit if it may lie there. -/
theorem holdsFixed_after_iff {devices : List ObjectId} {t : DeviceTree}
    (h : ∀ d ∈ devices, t.holdsFixed d = false) (device format : ObjectId) :
    (∀ d ∈ devices, (if d = device then t.isFixed format else t.holdsFixed d) = false) ↔
      (!devices.contains device || !t.isFixed format) = true := by
  rw [Bool.or_eq_true, Bool.not_eq_true', Bool.not_eq_true', ← Bool.not_eq_true,
    List.contains_iff_mem, ← imp_iff_not_or]
  constructor
  · intro hAfter hd
    simpa using hAfter device hd
  · intro hPut d hd
    split
    · rename_i hSame
      exact hPut (hSame ▸ hd)
    · exact h d hd

/-- A proposal that is scheduled puts on a device what its action does. -/
theorem puts?_of_registered {preparation : Preparation} {actions : Arena Action} {t : DeviceTree}
    (hOk : (s.schedule p).1.ok = true)
    (hInsert : s.actions.insert? (s.actionOf preparation) = some actions)
    (hValue : (s.schedule p).1.value = (s.actionOf preparation).id)
    (hSame : ({ s with
      tree := t, actions, registry := s.registry ++ [(s.actionOf preparation).id] }.setState
        (s.actionOf preparation).id .registered).Same (s.schedule p).2) :
    s.puts? (.schedule p) = preparation.operation.puts?.map (preparation.device, ·) := by
  obtain ⟨preparation', a, hPrepare, ha, hDevice, hOp⟩ := exists_of_schedule_ok hOk
  rw [hValue, hSame.action?, action?_self_of_new hInsert rfl, Option.some_inj] at ha
  subst ha
  have hOp : preparation.operation = preparation'.operation := hOp
  have hDevice : preparation.device = preparation'.device := hDevice
  rw [Session.puts?, if_pos hOk, ← DeviceTree.prepare_puts? hPrepare, hOp, hDevice]

theorem resizesFit_schedule_iff (hLinked : s.Linked) (hListed : s.Listed) (hNumbered : s.Numbered n)
    (hEquipped : s.Equipped) (h : s.ResizesFit)
    (hFew : (s.schedule p).2.storedIds.length < 2 ^ 64 - 1) :
    (s.schedule p).2.ResizesFit ↔ s.putsFitting (.schedule p) = true := by
  have hQuiet : (s.schedule p).1.ok = false → s.putsFitting (.schedule p) = true := by
    intro hOk
    simp [putsFitting, Session.puts?, hOk]
  cases scheduled s p with
  | refused hOk hSame =>
    refine iff_of_true (h.of_grows hLinked hEquipped hSame.plan ?_) (hQuiet hOk)
    exact hSame.tree ▸ .refl s.tree
  | dropped preparation hPrepares hTaken hOk hSame =>
    rw [storedIds, hSame.tree, hSame.actions] at hFew
    exact absurd hTaken (hNumbered.stores hPrepares hFew)
  | takenBack preparation actions cause hPrepares hInsert hApply hOk hSame =>
    refine iff_of_true ?_ (hQuiet hOk)
    exact h.of_grows hLinked hEquipped (plan_of_new hListed hInsert hSame)
      (hSame.tree ▸ (undo_carryOut hPrepares).grows)
  | registered preparation actions t changes hPrepares hInsert hApply hOk hValue hSame =>
    have hPlan := plan_of_registered hListed hInsert hSame
    have hLeft : s.storedIds.length < 2 ^ 64 - 1 :=
      ((numbered_kept _).schedule s p (hNumbered.of_le (le_refl _))).le.trans_lt hFew
    have hTree := DeviceTree.sameContent_of_moves (DeviceTree.applyRegistration_ok hApply)
    have hAfter : ∀ d, (s.schedule p).2.tree.holdsFixed d = preparation.tree.holdsFixed d := by
      intro d
      rw [hSame.tree]
      exact hTree.holdsFixed d
    rw [putsFitting, puts?_of_registered hOk hInsert hValue hSame]
    rw [resizesFit_iff] at h ⊢
    simp only [hAfter, mem_devicesOf_of_plan hPlan]
    cases hPuts : preparation.operation.puts? with
    | none =>
      refine iff_of_true (fun d hd => ?_) rfl
      have hNew : s.tree.format? s.tree.ids.next = none := hNumbered.format?_next hLeft
      rcases hd with hd | ⟨hKind, rfl⟩
      · exact hPrepares.not_holdsFixed hPuts hEquipped.tree hNew (hLinked.isSome_of_devicesOf hd)
          (h d hd)
      · exact hPrepares.not_holdsFixed hPuts hEquipped.tree hNew hPrepares.isSome
          (hEquipped.tree.holdsFixed_of_canResize (hPrepares.canResize hKind))
    | some f =>
      have hKind : preparation.operation.kind ≠ .resizeDevice := by
        rw [Operation.kind_of_puts hPuts]
        decide
      have hOthers : ∀ d, d ∈ s.devicesOf .resizeDevice ∨
          ({ s.actionOf preparation with state := .registered } : Action).kind = .resizeDevice ∧
            (s.actionOf preparation).device = d ↔ d ∈ s.devicesOf .resizeDevice := by
        intro d
        exact or_iff_left fun hBoth => hKind hBoth.1
      simp only [hPrepares.holdsFixed_of_puts hPuts, hOthers]
      exact holdsFixed_after_iff h preparation.device f

/-- A withdrawal takes at most the action itself out of the plan. -/
theorem mem_registry_cancel (s : Session) (id : ObjectId) {other : ObjectId} :
    (other ∈ (s.cancel id).2.registry → other ∈ s.registry) ∧
      (other ≠ id → other ∈ s.registry → other ∈ (s.cancel id).2.registry) := by
  cases cancelled s id with
  | refused hOk hSame =>
    rw [hSame.registry]
    exact ⟨fun h => h, fun _ h => h⟩
  | constructed a ha hState hOk hSame =>
    rw [hSame.registry]
    exact ⟨fun h => h, fun _ h => h⟩
  | registered a t changes ha hState hUndo hOk hSame =>
    rw [hSame.registry]
    exact ⟨List.mem_of_mem_filter, fun hne h => List.mem_filter.mpr ⟨h, decide_eq_true hne⟩⟩

/-- The withdrawal of an action that displaced a format puts it back and does nothing else to the
devices; no resize leaves the plan. -/
theorem cancel_of_puts (hLinked : s.Linked) (hPut : s.puts? (.cancel id) = some (d, f)) :
    (s.tree.device? d).isSome ∧ (s.cancel id).2.tree = s.tree.setFormat d f ∧
      s.devicesOf .resizeDevice ⊆ (s.cancel id).2.devicesOf .resizeDevice := by
  obtain ⟨a, ha, hPair⟩ := Option.bind_eq_some_iff.mp hPut
  obtain ⟨ha, hOpen⟩ := Option.filter_eq_some_iff.mp ha
  obtain ⟨g, hDisplaced, hPair⟩ := Option.map_eq_some_iff.mp hPair
  cases hPair
  have hDevice := hLinked.device id a ha
  have hTree := DeviceTree.undoConstruction_of_displaced hDevice hDisplaced
  have hUndo : s.tree.undoRegistration a = .ok (s.tree, {}) := by
    unfold DeviceTree.undoRegistration
    cases hOp : a.operation <;> rw [hOp] at hDisplaced <;> first | rfl | cases hDisplaced
  have hKind : a.kind ≠ .resizeDevice := by
    unfold Action.kind
    cases hOp : a.operation <;> rw [hOp] at hDisplaced <;> cases hDisplaced <;>
      simp [Operation.kind]
  refine ⟨hDevice, ?_, fun e he => ?_⟩
  · rw [← hTree]
    cases hState : a.state with
    | constructed => exact (cancel_of_constructed ha hState).tree
    | registered => exact (cancel_of_registered ha hState hUndo).2.tree
    | cancelled | pruned => simp [Action.isOpen, hState] at hOpen
  · obtain ⟨other, hOther, hResized⟩ := mem_devicesOf.mp he
    have hne : other ≠ id := by
      rintro rfl
      rw [deviceOf?_of ha, if_neg hKind] at hResized
      cases hResized
    refine mem_devicesOf.mpr ⟨other, (mem_registry_cancel s id).2 hne hOther, ?_⟩
    rw [(cancel_actions s id).deviceOf?, hResized]

/-- The withdrawal of any other action leaves the formats where they are. -/
theorem sameContent_cancel (hPut : s.puts? (.cancel id) = none) :
    s.tree.SameContent (s.cancel id).2.tree := by
  have hDisplaced : ∀ a, s.action? id = some a → a.isOpen = true →
      a.operation.displaced? = none := by
    intro a ha hOpen
    simpa [Session.puts?, ha, Option.filter, hOpen] using hPut
  cases cancelled s id with
  | refused hOk hSame =>
    rw [hSame.tree]
    exact .refl s.tree
  | constructed a ha hState hOk hSame =>
    rw [hSame.tree]
    exact DeviceTree.sameContent_undoConstruction
      (hDisplaced a ha (by simp [Action.isOpen, hState]))
  | registered a t changes ha hState hUndo hOk hSame =>
    rw [hSame.tree]
    have hMoves := DeviceTree.sameContent_of_moves (DeviceTree.undoRegistration_ok hUndo)
    exact hMoves.trans (DeviceTree.sameContent_undoConstruction
      (hDisplaced a ha (by simp [Action.isOpen, hState])))

theorem resizesFit_cancel_iff (hLinked : s.Linked) (h : s.ResizesFit) :
    (s.cancel id).2.ResizesFit ↔ s.putsFitting (.cancel id) = true := by
  have hSub : (s.cancel id).2.devicesOf .resizeDevice ⊆ s.devicesOf .resizeDevice :=
    devicesOf_subset (cancel_actions s id) (fun _ => (mem_registry_cancel s id).1) _
  rw [putsFitting]
  rw [resizesFit_iff] at h ⊢
  cases hPut : s.puts? (.cancel id) with
  | none =>
    refine iff_of_true (fun d hd => ?_) rfl
    rw [(sameContent_cancel hPut).holdsFixed]
    exact h d (hSub hd)
  | some put =>
    obtain ⟨hDevice, hTree, hStays⟩ := cancel_of_puts hLinked hPut
    simp only [hTree, DeviceTree.holdsFixed_setFormat hDevice]
    refine Iff.trans ?_ (holdsFixed_after_iff h put.1 put.2)
    exact forall_congr' fun d => imp_congr_left ⟨fun hd => hSub hd, fun hd => hStays hd⟩

/-! ## Runs -/

theorem resizesFit_perform_iff (hLinked : s.Linked) (hListed : s.Listed) (hNumbered : s.Numbered n)
    (hEquipped : s.Equipped) (h : s.ResizesFit) {command : Command}
    (hCommand : command.makes = true ∨ command.schedules = true)
    (hFew : (s.perform command).2.storedIds.length < 2 ^ 64 - 1) :
    (s.perform command).2.ResizesFit ↔ s.putsFitting command = true := by
  cases command with
  | newDevice draft =>
    exact iff_of_true (h.of_grows hLinked hEquipped (answerTree_plan s _ _)
      (s.newDevice_grows draft)) rfl
  | newFormat typeName mountPoint onMedia =>
    exact iff_of_true (h.of_grows hLinked hEquipped (answerTree_plan s _ _)
      (s.newFormat_grows typeName mountPoint onMedia)) rfl
  | adoptDevice draft typeName mountPoint =>
    refine iff_of_true (h.of_grows hLinked hEquipped ?_ (hNumbered.adoptDevice_grows hFew)) rfl
    obtain ⟨t, hTree⟩ := adoptDevice_snd s draft typeName mountPoint
    show (s.adoptDevice draft typeName mountPoint).2.plan = s.plan
    rw [hTree]
    rfl
  | schedule p => exact resizesFit_schedule_iff hLinked hListed hNumbered hEquipped h hFew
  | cancel id => exact resizesFit_cancel_iff hLinked h
  | _ => rcases hCommand with hCommand | hCommand <;> cases hCommand

/-- **The resizes of a plan fit all along exactly when no command puts a format that is on the media
and cannot be resized on a device that the plan resizes.**  Such a format comes back when an action
that displaced it is withdrawn, or it is one that another device came with. -/
theorem resizesFit_along_iff (commands : List Command)
    (hCommands : ∀ command ∈ commands, command.makes = true ∨ command.schedules = true)
    (hUnwritten : ∀ command ∈ commands, command.writesFormat = false)
    (hFew : (({} : Session).performAll commands).storedIds.length < 2 ^ 64 - 1) :
    ({} : Session).Along (fun s command => (s.perform command).2.ResizesFit) commands ↔
    ({} : Session).Along (fun s command => s.putsFitting command = true) commands := by
  have hOverwrites : ∀ command ∈ commands, command.overwrites = false :=
    fun command hCommand => Command.overwrites_eq_false (hCommands command hCommand)
  have hAllowed := ((along_of_forall hCommands ({} : Session)).and
    (along_of_forall hUnwritten ({} : Session))).and (numbered_empty.along_few hOverwrites hFew)
  refine along_good_iff (fun s => s.Linked ∧ s.Listed ∧ s.Numbered 0 ∧ s.Equipped) ResizesFit
    ?_ ?_ ⟨linked_empty, listed_empty, numbered_empty, equipped_empty⟩ ?_ hAllowed
  · rintro s command ⟨⟨hCommand, hUnwritten⟩, _⟩ ⟨hLinked, hListed, hNumbered, hEquipped⟩
    have hNone := Command.overwrites_eq_false hCommand
    exact ⟨hLinked.perform hNone, hListed.perform command, hNumbered.perform hNone,
      hEquipped.perform hCommand hUnwritten⟩
  · rintro s command ⟨⟨hCommand, _⟩, hFew⟩ ⟨hLinked, hListed, hNumbered, hEquipped⟩ hFit
    exact resizesFit_perform_iff hLinked hListed hNumbered hEquipped hFit hCommand hFew
  · intro a ha
    cases ha

/-- A format that can be resized comes back to a partition that the plan resizes, and one that
cannot comes back to a partition that it does not resize. -/
theorem resizesFit_along_of_resizable_content :
    let commands : List Command := [
      .adoptDevice { name := "sda", kind := .disk, size := gibibytes 100 } "" "",
      .adoptDevice { name := "sda1", kind := .partition, size := gibibytes 10, parents := [2] }
        "ext4" "/",
      .adoptDevice { name := "sda2", kind := .partition, size := gibibytes 10, parents := [2] }
        "xfs" "/srv",
      .newFormat "xfs" "/" false,
      .schedule (.destroyFormat 4), .schedule (.resizeDevice 4 (gibibytes 5)), .cancel 11,
      .schedule (.createFormat 4 9), .schedule (.destroyFormat 7), .cancel 15]
    ((∀ command ∈ commands, command.makes = true ∨ command.schedules = true) ∧
      (∀ command ∈ commands, command.writesFormat = false) ∧
      (({} : Session).performAll commands).storedIds.length < 2 ^ 64 - 1 ∧
      (({} : Session).performAll commands).registry = [12, 13] ∧
      ({} : Session).Along (fun s command => s.putsFitting command = true) commands) ∧
    ({} : Session).Along (fun s command => (s.perform command).2.ResizesFit) commands := by
  intro commands
  have hCommands : ∀ command ∈ commands, command.makes = true ∨ command.schedules = true := by
    decide
  have hUnwritten : ∀ command ∈ commands, command.writesFormat = false := by decide
  have hFew : (({} : Session).performAll commands).storedIds.length < 2 ^ 64 - 1 := by
    decide +kernel
  have hFitting : ({} : Session).Along (fun s command => s.putsFitting command = true)
      commands := by decide +kernel
  exact ⟨⟨hCommands, hUnwritten, hFew, by decide +kernel, hFitting⟩,
    (resizesFit_along_iff commands hCommands hUnwritten hFew).mpr hFitting⟩

/-- A format is taken off a partition, the partition is resized, and then the first action is
withdrawn: the plan shrinks a partition that holds a format which cannot shrink. -/
theorem not_resizesFit_of_content_put_back :
    let commands : List Command := [
      .adoptDevice { name := "sda", kind := .disk, size := gibibytes 100 } "" "",
      .adoptDevice { name := "sda1", kind := .partition, size := gibibytes 10, parents := [2] }
        "xfs" "/",
      .schedule (.destroyFormat 4), .schedule (.resizeDevice 4 (gibibytes 5)), .cancel 7]
    let s := ({} : Session).performAll commands
    s.plan.map (fun a => (a.id, a.kind, a.device)) = [(8, .resizeDevice, 4)] ∧
      s.tree.formatIdOf? 4 = some 5 ∧ s.tree.isFixed 5 = true ∧ s.tree.canResize 4 = false ∧
      ¬ s.ResizesFit := by
  decide +kernel

end Session

end StoragePlan

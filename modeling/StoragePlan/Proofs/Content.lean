import StoragePlan.Proofs.Composing

/-!
# What devices carry

Every device carries a format, by its id.  An action puts another one on its device, and when the
action is taken back the format that it displaced lies there again; nothing else changes what a
device carries (`SameContent`).

* `Prepares.content`: what constructing an action does to what devices carry.
* `Session.CarriesOnly.propose`, `Session.CarriesOnly.cancel`: what is true of all formats that
  devices carry, and of all that **can come back to one**, stays true, if it is true of the formats
  that are stored.
-/

namespace StoragePlan

/-- The format that an operation puts on its device, unless it is a blank one made for it. -/
def Operation.puts? : Operation → Option ObjectId
  | .createFormat format _ => some format
  | _ => none

/-- The format that an operation takes off its device. -/
def Operation.displaced? : Operation → Option ObjectId
  | .createFormat _ previous => some previous
  | .destroyFormat removed _ => some removed
  | _ => none

namespace DeviceTree

variable {t t' t'' : DeviceTree} {p : Preparation} {a : Action} {d e f : ObjectId}

/-- The id of the format that a device carries. -/
def formatIdOf? (t : DeviceTree) (device : ObjectId) : Option ObjectId :=
  (t.device? device).map Device.formatId

/-- An id names a stored format, or nothing that could ever be stored. -/
def Settles (t : DeviceTree) (format : ObjectId) : Prop := format = 0 ∨ (t.format? format).isSome

/-! ## Stored formats -/

/-- What is asked of a stored format has the same answer in a larger tree. -/
theorem Grows.any_format (h : t.Grows t') (hf : (t.format? f).isSome) (test : Format → Bool) :
    (t'.format? f).any test = (t.format? f).any test := by
  obtain ⟨format, hf⟩ := Option.isSome_iff_exists.mp hf
  rw [hf, h.format? f format hf]

/-- No stored format is changed by a new one, and no question is answered by a new one that fails
it. -/
theorem any_storeFormat (t : DeviceTree) {type : FormatType} {mountPoint : String}
    {onMedia : Bool} {test : Format → Bool}
    (hNew : test (.ofType type t.ids.next mountPoint onMedia) = false) (f : ObjectId) :
    ((t.storeFormat type mountPoint onMedia).2.format? f).any test = (t.format? f).any test := by
  show ((t.formats.insert (.ofType type t.ids.next mountPoint onMedia)).find? f).any test = _
  cases hOld : t.format? f with
  | some format => rw [Arena.find?_insert_of_find? hOld]
  | none =>
    cases hFound : (t.formats.insert (.ofType type t.ids.next mountPoint onMedia)).find? f with
    | none => rfl
    | some format =>
      rcases Arena.of_find?_insert hFound with h | ⟨rfl, _⟩
      · cases h.symm.trans hOld
      · exact hNew

theorem Grows.formatIdOf? (h : t.Grows t') (hd : (t.device? d).isSome) :
    t'.formatIdOf? d = t.formatIdOf? d := by
  obtain ⟨device, hd⟩ := Option.isSome_iff_exists.mp hd
  rw [DeviceTree.formatIdOf?, DeviceTree.formatIdOf?, hd, h.device? d device hd]

theorem Grows.settles (h : t.Grows t') (hf : t.Settles f) : t'.Settles f := by
  refine hf.imp_right fun hf => ?_
  obtain ⟨format, hf⟩ := Option.isSome_iff_exists.mp hf
  exact Option.isSome_of_eq_some (h.format? f format hf)

theorem SameIds.settles (h : t.SameIds t') (hf : t.Settles f) : t'.Settles f :=
  hf.imp_right h.isSome_format.mpr

theorem settles_storeFormat (t : DeviceTree) (type : FormatType) (mountPoint : String)
    (onMedia : Bool) : (t.storeFormat type mountPoint onMedia).2.Settles t.ids.next := by
  by_cases hZero : t.ids.next = 0
  · exact Or.inl hZero
  · refine Or.inr (Arena.isSome_find?_iff.mpr ?_)
    show t.ids.next ∈ (t.formats.insert (.ofType type t.ids.next mountPoint onMedia)).ids
    rcases t.formats.ids_insert (.ofType type t.ids.next mountPoint onMedia) with
      hNew | ⟨hOld, hTaken⟩
    · rw [hNew]
      exact List.mem_append_right _ (List.mem_singleton_self _)
    · rw [hOld]
      exact hTaken.resolve_left hZero

theorem Settles.adoptFormat (hf : t.Settles f) {id : ObjectId} {typeName mountPoint : String}
    (hAdopt : t.adoptFormat id typeName mountPoint = .ok t') : t'.Settles f := by
  unfold DeviceTree.adoptFormat at hAdopt
  split at hAdopt
  · cases hAdopt
    exact hf
  · obtain ⟨result, hNew, rfl⟩ := map_ok hAdopt
    exact (newFormat_grows hNew).settles hf

/-! ## The same content -/

/-- The same formats lie on the same devices, up to the sizes that they shall get. -/
structure SameContent (t t' : DeviceTree) : Prop where
  formatIdOf? : ∀ d, t'.formatIdOf? d = t.formatIdOf? d
  format? : ∀ f, (t'.format? f).map (fun format => { format with targetSize := 0 })
    = (t.format? f).map fun format => { format with targetSize := 0 }

theorem SameContent.refl (t : DeviceTree) : t.SameContent t := ⟨fun _ => rfl, fun _ => rfl⟩

theorem SameContent.trans (h : t.SameContent t') (h' : t'.SameContent t'') : t.SameContent t'' :=
  ⟨fun d => (h'.formatIdOf? d).trans (h.formatIdOf? d), fun f => (h'.format? f).trans (h.format? f)⟩

theorem SameContent.any_format (h : t.SameContent t') {test : Format → Bool}
    (hTarget : ∀ format size, test { format with targetSize := size } = test format)
    (f : ObjectId) : (t'.format? f).any test = (t.format? f).any test := by
  have hStrip : ∀ stored : Option Format,
      stored.any test = (stored.map fun format => { format with targetSize := 0 }).any test := by
    intro stored
    cases stored with
    | none => rfl
    | some format => exact (hTarget format 0).symm
  rw [hStrip (t'.format? f), h.format? f, ← hStrip]

theorem SameContent.settles (h : t.SameContent t') (hf : t.Settles f) : t'.Settles f := by
  refine hf.imp_right fun hf => ?_
  rwa [← Option.isSome_map, h.format?, Option.isSome_map]

theorem sameContent_modifyDevice (t : DeviceTree) (id : ObjectId) (change : Device → Device)
    (keeps : ∀ d, (change d).id = d.id)
    (hFormat : ∀ device, (change device).formatId = device.formatId) :
    t.SameContent (t.modifyDevice id change keeps) :=
  ⟨map_modifyDevice t id change keeps hFormat, fun _ => rfl⟩

theorem sameContent_setFormatTarget (t : DeviceTree) (f : ObjectId) (size : ByteSize) :
    t.SameContent (t.setFormatTarget f size) := by
  refine ⟨fun _ => rfl, fun g => ?_⟩
  rw [setFormatTarget, format?_modifyFormat, Option.map_map]
  congr 1
  funext format
  simp only [Function.comp]
  split <;> rfl

theorem sameContent_of_moves {enters leaves : ActionKind} (h : t.Moves t' a enters leaves) :
    t.SameContent t' := by
  obtain ⟨order, presence, rfl⟩ := eq_of_moves h
  exact ⟨fun _ => rfl, fun _ => rfl⟩

theorem undoConstruction_of_displaced (hDevice : (t.device? a.device).isSome)
    (h : a.operation.displaced? = some f) : (t.undoConstruction a).1 = t.setFormat a.device f := by
  rw [undoConstruction_fst hDevice]
  cases hOp : a.operation <;> rw [hOp] at h <;> cases h <;> rfl

/-- Taking back an action that displaced no format leaves the formats where they are. -/
theorem sameContent_undoConstruction (h : a.operation.displaced? = none) :
    t.SameContent (t.undoConstruction a).1 := by
  cases hDevice : (t.device? a.device).isSome with
  | false =>
    rw [undoConstruction_of_missing hDevice]
    exact .refl t
  | true =>
    rw [undoConstruction_fst hDevice]
    cases hOp : a.operation <;> rw [hOp] at h <;> dsimp only
    case createFormat | destroyFormat => cases h
    case createDevice | destroyDevice => exact .refl t
    case resizeDevice => exact sameContent_modifyDevice _ _ _ _ fun _ => rfl
    case resizeFormat =>
      split
      · exact .refl t
      · exact sameContent_setFormatTarget _ _ _
    case addMember =>
      split
      · exact sameContent_modifyDevice _ _ _ _ fun _ => rfl
      · exact .refl t
    case removeMember =>
      split
      · exact .refl t
      · exact sameContent_modifyDevice _ _ _ _ fun _ => rfl

/-! ## One format on one device -/

theorem formatIdOf?_setFormat (t : DeviceTree) (d f e : ObjectId) :
    (t.setFormat d f).formatIdOf? e = (t.formatIdOf? e).map fun g => if e = d then f else g := by
  unfold formatIdOf? setFormat
  rw [device?_modifyDevice, Option.map_map, Option.map_map]
  congr 1
  funext device
  simp only [Function.comp]
  split <;> rfl

/-- What an action displaces lay on its device. -/
theorem Prepares.displaced (h : t.Prepares p) :
    ∀ f ∈ p.operation.displaced?, t.formatIdOf? p.device = some f := by
  intro f hf
  cases h with
  | createFormat hd | destroyFormat hd =>
    cases hf
    rw [formatIdOf?, hd]
    rfl
  | _ => cases hf

/-- A preparation puts a format on its device, a new blank one, or none. -/
theorem Prepares.content (h : t.Prepares p) :
    (∃ f, p.operation.puts? = some f ∧ (t.format? f).isSome ∧ p.tree = t.setFormat p.device f) ∨
    (p.operation.puts? = none ∧
      p.tree = (t.storeFormat .blank "" false).2.setFormat p.device t.ids.next) ∨
    p.operation.puts? = none ∧ t.SameContent p.tree := by
  cases h with
  | createFormat hd hFormat => exact Or.inl ⟨_, rfl, hFormat, rfl⟩
  | destroyFormat => exact Or.inr (Or.inl ⟨rfl, rfl⟩)
  | createDevice | destroyDevice => exact Or.inr (Or.inr ⟨rfl, .refl t⟩)
  | resizeDevice | addMember | removeMember =>
    exact Or.inr (Or.inr ⟨rfl, sameContent_modifyDevice _ _ _ _ fun _ => rfl⟩)
  | resizeFormat => exact Or.inr (Or.inr ⟨rfl, sameContent_setFormatTarget _ _ _⟩)

theorem Prepares.settles (h : t.Prepares p) (hf : t.Settles f) : p.tree.Settles f :=
  hf.imp_right h.isSome_format

/-! ## What holds of every format that is carried -/

/-- The formats that devices carry all have a property. -/
def CarriesOnly (t : DeviceTree) (F : ObjectId → Prop) : Prop :=
  ∀ d f, t.formatIdOf? d = some f → F f

variable {F G : ObjectId → Prop}

theorem carriesOnly_empty (F : ObjectId → Prop) : ({} : DeviceTree).CarriesOnly F :=
  fun _ _ h => (Option.some_ne_none _ h.symm).elim

theorem CarriesOnly.mono (h : t.CarriesOnly F) (hF : ∀ f, F f → G f) : t.CarriesOnly G :=
  fun d f hf => hF f (h d f hf)

theorem CarriesOnly.of_sameContent (h : t.CarriesOnly F) (hSame : t.SameContent t') :
    t'.CarriesOnly F := fun d f hf => h d f (hSame.formatIdOf? d ▸ hf)

theorem CarriesOnly.setFormat (h : t.CarriesOnly F) (hf : F f) (d : ObjectId) :
    (t.setFormat d f).CarriesOnly F := by
  intro e g hg
  rw [formatIdOf?_setFormat] at hg
  obtain ⟨g', hg', rfl⟩ := Option.map_eq_some_iff.mp hg
  split
  · exact hf
  · exact h e g' hg'

/-- The id of a new format names it, unless it names nothing. -/
theorem of_settles (hf : t.Settles f) (hStored : ∀ f, (t.format? f).isSome → F f)
    (hZero : f = 0 → F 0) : F f := by
  rcases hf with rfl | hf
  · exact hZero rfl
  · exact hStored f hf

theorem CarriesOnly.storeDevice (h : t.CarriesOnly F) {draft : DeviceDraft} {name : String}
    {number : Int}
    (hStored : ∀ f, ((t.storeDevice draft name number).2.format? f).isSome → F f)
    (hZero : t.ids.next = 0 → F 0) : (t.storeDevice draft name number).2.CarriesOnly F := by
  intro d f hf
  obtain ⟨device, hd, rfl⟩ := Option.map_eq_some_iff.mp hf
  rcases Arena.of_find?_insert hd with hd | ⟨rfl, _⟩
  · exact h d _ (Option.map_eq_some_iff.mpr ⟨device, hd, rfl⟩)
  · exact of_settles (t.settles_storeFormat .blank "" false) hStored hZero

theorem CarriesOnly.newFormat (h : t.CarriesOnly F) {id : ObjectId} {typeName mountPoint : String}
    {onMedia : Bool} (hNew : t.newFormat typeName mountPoint onMedia = .ok (id, t')) :
    t'.CarriesOnly F := by
  unfold DeviceTree.newFormat at hNew
  split at hNew
  · cases hNew
  · cases hNew
    exact h

theorem CarriesOnly.adoptFormat (h : t.CarriesOnly F) {id : ObjectId}
    {typeName mountPoint : String} (hAdopt : t.adoptFormat id typeName mountPoint = .ok t')
    (hStored : ∀ f, (t'.format? f).isSome → F f) (hZero : t.ids.next = 0 → F 0) :
    t'.CarriesOnly F := by
  unfold DeviceTree.adoptFormat at hAdopt
  split at hAdopt
  · cases hAdopt
    exact h
  · obtain ⟨result, hNew, rfl⟩ := map_ok hAdopt
    unfold DeviceTree.newFormat at hNew
    split at hNew
    · cases hNew
    · rename_i type _
      cases hNew
      refine CarriesOnly.setFormat h ?_ id
      exact of_settles (t.settles_storeFormat type mountPoint true) hStored hZero

theorem CarriesOnly.prepares (h : t.CarriesOnly F) (hPrepares : t.Prepares p)
    (hStored : ∀ f, (p.tree.format? f).isSome → F f) (hZero : t.ids.next = 0 → F 0) :
    p.tree.CarriesOnly F := by
  rcases hPrepares.content with ⟨f, _, hf, hTree⟩ | ⟨_, hTree⟩ | ⟨_, hSame⟩
  · have hf := hStored f (hPrepares.isSome_format hf)
    rw [hTree]
    exact h.setFormat hf p.device
  · rw [hTree] at hStored ⊢
    refine CarriesOnly.setFormat h ?_ p.device
    exact of_settles (t.settles_storeFormat .blank "" false) hStored hZero
  · exact h.of_sameContent hSame

theorem CarriesOnly.undoConstruction (h : t.CarriesOnly F)
    (hDisplaced : ∀ f ∈ a.operation.displaced?, F f) :
    (t.undoConstruction a).1.CarriesOnly F := by
  cases hOp : a.operation.displaced? with
  | none => exact h.of_sameContent (sameContent_undoConstruction hOp)
  | some f =>
    cases hDevice : (t.device? a.device).isSome with
    | false => rwa [undoConstruction_of_missing hDevice]
    | true =>
      rw [undoConstruction_of_displaced hDevice hOp]
      exact h.setFormat (hDisplaced f hOp) a.device

end DeviceTree

namespace Session

variable {s s' : Session} {F G : ObjectId → Prop}

/-- The formats that devices carry, and those that actions took off them, all have a property. -/
structure CarriesOnly (s : Session) (F : ObjectId → Prop) : Prop where
  tree : s.tree.CarriesOnly F
  displaced : ∀ id a, s.action? id = some a → ∀ f ∈ a.operation.displaced?, F f

theorem CarriesOnly.mono (h : s.CarriesOnly F) (hF : ∀ f, F f → G f) : s.CarriesOnly G :=
  ⟨h.tree.mono hF, fun id a ha f hf => hF f (h.displaced id a ha f hf)⟩

theorem CarriesOnly.of_sameActions (h : s.CarriesOnly F) (hActions : s.SameActions s')
    (hTree : s'.tree.CarriesOnly F) : s'.CarriesOnly F := by
  refine ⟨hTree, fun id a ha f hf => ?_⟩
  obtain ⟨b, hb, hCore⟩ := hActions.exists_core ha
  have hOp : b.core.operation = a.core.operation := congrArg Action.operation hCore
  exact h.displaced id b hb f (hOp ▸ hf)

/-- A new action took off its device what the device carried. -/
theorem CarriesOnly.propose (h : s.CarriesOnly F) {p : Proposal}
    (hStored : ∀ f, ((s.propose p).2.tree.format? f).isSome → F f)
    (hZero : s.tree.ids.next = 0 → F 0) : (s.propose p).2.CarriesOnly F := by
  rcases propose_cases s p with
    hSame | ⟨preparation, hPrepare, ⟨_, hSame⟩ | ⟨actions, message, hInsert, hNew⟩⟩
  · rw [hSame]
    exact h
  all_goals have hPrepares := DeviceTree.prepares_of_prepare hPrepare
  · rw [hSame] at hStored ⊢
    exact ⟨h.tree.prepares hPrepares hStored hZero, h.displaced⟩
  · rw [hNew] at hStored ⊢
    refine ⟨h.tree.prepares hPrepares hStored hZero, fun id a ha f hf => ?_⟩
    have hFind : actions.find? id = some a := ha
    rw [Arena.find?_insert? hInsert] at hFind
    split at hFind
    · cases hFind
      exact h.tree _ f (hPrepares.displaced f hf)
    · exact h.displaced id a hFind f hf

theorem CarriesOnly.register (h : s.CarriesOnly F) (id : ObjectId) :
    (s.register id).2.CarriesOnly F := by
  have hActions := register_actions s id
  rcases register_cases s id with hSame | ⟨_, hSame⟩ | ⟨a, t, _, _, ha, _, hApply, hNew⟩
  · rw [hSame]
    exact h
  · rw [hSame]
    exact ⟨h.tree, h.displaced⟩
  · have hMoves := DeviceTree.sameContent_of_moves (DeviceTree.applyRegistration_ok hApply)
    rw [hNew] at hActions ⊢
    exact h.of_sameActions hActions (h.tree.of_sameContent hMoves)

/-- What is put back was taken off before. -/
theorem CarriesOnly.cancel (h : s.CarriesOnly F) (id : ObjectId) :
    (s.cancel id).2.CarriesOnly F := by
  have hActions := cancel_actions s id
  cases cancelled s id with
  | refused hOk hSame =>
    refine h.of_sameActions hActions ?_
    rw [hSame.tree]
    exact h.tree
  | constructed a ha hState hOk hSame =>
    refine h.of_sameActions hActions ?_
    rw [hSame.tree]
    exact h.tree.undoConstruction (h.displaced id a ha)
  | registered a t changes ha hState hUndo hOk hSame =>
    have hContent := DeviceTree.sameContent_of_moves (DeviceTree.undoRegistration_ok hUndo)
    refine h.of_sameActions hActions ?_
    rw [hSame.tree]
    exact (h.tree.of_sameContent hContent).undoConstruction (h.displaced id a ha)

end Session

end StoragePlan

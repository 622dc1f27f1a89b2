import StoragePlan.Proofs.Facts
import StoragePlan.Proofs.Panels

/-!
# The viewer keeps the devices in strata

What the viewer makes stands in four strata: partitions on disks, volume groups on partitions and
logical volumes on volume groups (`Stratified`).  The panels move members only between the two
devices that go by fixed names, and no device of a wrong kind ever takes one of these names, so that
a membership change, or its withdrawal at any later time, stays within the strata too (`Strata`).

* `Stratified.graded`: strata rise along the graph, and the partitions of one disk share theirs.
* `Strata.offered`, `Strata.newDevice`: every call of the panels keeps the strata.
* `acyclic_of_viewer`: **no run of the viewer closes a cycle of dependencies**, so that the plan can
  always be sorted.
-/

namespace StoragePlan

namespace DeviceKind

/-- Whether devices of a kind stand on devices of another kind. -/
def restsOn : DeviceKind → DeviceKind → Bool
  | partition, disk | volumeGroup, partition | logicalVolume, volumeGroup => true
  | _, _ => false

/-- How many strata there are below devices of a kind. -/
def stratum : DeviceKind → ℕ
  | partition => 1
  | volumeGroup => 2
  | logicalVolume => 3
  | disk | raidArray | mapper | file => 0

theorem stratum_lt_of_restsOn {kind base : DeviceKind} (h : kind.restsOn base = true) :
    base.stratum < kind.stratum := by
  cases kind <;> cases base <;> first | decide | cases h

/-- A name by which the panels look for a device belongs to the kind that they look for. -/
abbrev Names (kind : DeviceKind) (name : String) : Prop :=
  (name = "VolGroup" → kind = volumeGroup) ∧ (name = "sdb1" → kind = partition)

end DeviceKind

namespace DeviceTree

open Relation

variable {t t' : DeviceTree} {d e p c m : ObjectId} {kind : DeviceKind}

/-- The kind of a stored device. -/
def kindOf? (t : DeviceTree) (d : ObjectId) : Option DeviceKind := (t.device? d).map Device.kind

/-- Every device stands on devices of the kind below its own, and the names that the panels look for
belong to devices of the right kind. -/
structure Stratified (t : DeviceTree) : Prop where
  base : ∀ device ∈ t.devices.items, ∀ p ∈ device.parents,
    (t.kindOf? p).any device.kind.restsOn = true
  names : ∀ device ∈ t.devices.items, device.kind.Names device.name

-- the lists are run through, not all ids
instance (t : DeviceTree) : Decidable t.Stratified :=
  have (device : Device) :
      Decidable (∀ p ∈ device.parents, (t.kindOf? p).any device.kind.restsOn = true) :=
    List.decidableBAll _ _
  decidable_of_iff ((∀ device ∈ t.devices.items, ∀ p ∈ device.parents,
      (t.kindOf? p).any device.kind.restsOn = true) ∧
    ∀ device ∈ t.devices.items, device.kind.Names device.name)
    ⟨fun h => ⟨h.1, h.2⟩, fun h => ⟨h.base, h.names⟩⟩

/-- How many strata there are below a device. -/
def stratum (t : DeviceTree) (d : ObjectId) : ℕ := ((t.kindOf? d).map DeviceKind.stratum).getD 0

theorem stratum_of_kind (h : t.kindOf? d = some kind) : t.stratum d = kind.stratum := by
  rw [stratum, h]
  rfl

/-! ## Strata rise along the graph -/

/-- A device that is found by a name is stored under it. -/
theorem Stratified.kindOf?_named (h : t.Stratified) {name : String} {device : Device}
    (hNamed : t.named? name = some device) :
    t.kindOf? device.id = some device.kind ∧ device.kind.Names name := by
  obtain ⟨_, hd⟩ := mem_present.mp (List.mem_of_find?_eq_some hNamed)
  have hName : device.name = name := by simpa using List.find?_some hNamed
  refine ⟨?_, hName ▸ h.names device (Arena.mem_of_find? hd)⟩
  rw [kindOf?, hd, Option.map_some]

theorem Stratified.restsOn (h : t.Stratified) (hp : t.BuiltOn d p) :
    ∃ kind base, t.kindOf? d = some kind ∧ t.kindOf? p = some base ∧ kind.restsOn base = true := by
  obtain ⟨device, hd, hp⟩ := builtOn_iff.mp hp
  obtain ⟨base, hBase, hRests⟩ := (Option.any_eq_true _ _).mp
    (h.base device (Arena.mem_of_find? hd) p hp)
  refine ⟨device.kind, base, ?_, hBase, hRests⟩
  rw [kindOf?, hd]
  rfl

theorem Stratified.stratum_lt (h : t.Stratified) (hp : t.StandsOn d p) :
    t.stratum p < t.stratum d := by
  have hEdge : ∀ d p, t.BuiltOn d p → t.stratum p < t.stratum d := by
    intro d p hp
    obtain ⟨kind, base, hKind, hBase, hRests⟩ := h.restsOn hp
    rw [stratum_of_kind hKind, stratum_of_kind hBase]
    exact DeviceKind.stratum_lt_of_restsOn hRests
  induction hp with
  | single hp => exact hEdge _ _ hp
  | tail _ hp ih => exact (hEdge _ _ hp).trans ih

theorem kindOf?_of_diskOfPartition (h : t.diskOfPartition? d = some p) :
    t.kindOf? d = some .partition := by
  obtain ⟨device, hd, hKind, _⟩ := diskOfPartition?_eq_some h
  rw [kindOf?, hd, Option.map_some, hKind]

/-- **Strata rise along the graph**, and all partitions are in one. -/
theorem Stratified.graded (h : t.Stratified) : t.Graded t.stratum := by
  refine ⟨fun d x hx => h.stratum_lt (dependsOn_iff.mp hx).2, fun d x hx => ?_⟩
  unfold shareDisk at hx
  cases hd : t.diskOfPartition? d with
  | none => simp [hd] at hx
  | some disk =>
    cases he : t.diskOfPartition? x with
    | none => simp [hd, he] at hx
    | some other =>
      rw [stratum_of_kind (kindOf?_of_diskOfPartition hd),
        stratum_of_kind (kindOf?_of_diskOfPartition he)]

/-! ## Changes to a tree -/

theorem KeepsFacts.device? (h : t.KeepsFacts t') {device : Device}
    (hd : t.device? d = some device) :
    ∃ device', t'.device? d = some device' ∧ device'.facts = device.facts := by
  have hMem : device.facts ∈ t.devices.items.map Device.facts :=
    List.mem_map_of_mem (Arena.mem_of_find? hd)
  obtain ⟨device', hStored, hFacts⟩ := List.mem_map.mp (h.devices.subset hMem)
  have hId : device'.id = d := by
    have hSame : device'.facts.id = device.facts.id := congrArg Device.id hFacts
    exact hSame.trans (Arena.id_of_find? hd)
  exact ⟨device', hId ▸ (Arena.mem_iff_find? t'.devices device').mp hStored, hFacts⟩

/-- A stored device keeps its kind. -/
theorem KeepsFacts.kindOf? (h : t.KeepsFacts t') (hKind : t.kindOf? d = some kind) :
    t'.kindOf? d = some kind := by
  obtain ⟨device, hd, rfl⟩ := Option.map_eq_some_iff.mp hKind
  obtain ⟨device', hd', hFacts⟩ := h.device? hd
  have hSame : device'.facts.kind = device.facts.kind := congrArg Device.kind hFacts
  rw [DeviceTree.kindOf?, hd', Option.map_some]
  exact congrArg some hSame

/-- A change keeps the strata when every new edge leads to the stratum below, and every new device
goes by a name of its kind. -/
theorem Stratified.of_keepsFacts (h : t.Stratified) (hFacts : t.KeepsFacts t')
    (hEdges : ∀ d p, t'.BuiltOn d p → t.BuiltOn d p ∨
      ∃ kind base, t'.kindOf? d = some kind ∧ t'.kindOf? p = some base ∧ kind.restsOn base = true)
    (hNew : ∀ d device, t'.device? d = some device → t.device? d = none →
      device.kind.Names device.name) : t'.Stratified := by
  refine ⟨fun device hStored p hp => ?_, fun device hStored => ?_⟩
  · have hd := (Arena.mem_iff_find? t'.devices device).mp hStored
    have hEdge : ∃ kind base, t'.kindOf? device.id = some kind ∧ t'.kindOf? p = some base ∧
        kind.restsOn base = true := by
      rcases hEdges _ p (builtOn_iff.mpr ⟨device, hd, hp⟩) with hOld | hNew
      · obtain ⟨kind, base, hKind, hBase, hRests⟩ := h.restsOn hOld
        exact ⟨kind, base, hFacts.kindOf? hKind, hFacts.kindOf? hBase, hRests⟩
      · exact hNew
    obtain ⟨kind, base, hKind, hBase, hRests⟩ := hEdge
    obtain rfl : device.kind = kind := by
      have hSame : t'.kindOf? device.id = some device.kind := by
        rw [DeviceTree.kindOf?, show t'.device? device.id = some device from hd, Option.map_some]
      exact Option.some.inj (hSame.symm.trans hKind)
    exact (Option.any_eq_true _ _).mpr ⟨base, hBase, hRests⟩
  · have hd := (Arena.mem_iff_find? t'.devices device).mp hStored
    cases hOld : t.device? device.id with
    | none => exact hNew _ device hd hOld
    | some old =>
      obtain ⟨device', hd', hSame⟩ := hFacts.device? hOld
      obtain rfl : device = device' := Option.some.inj (Eq.trans hd.symm hd')
      have hKind : device.facts.kind = old.facts.kind := congrArg Device.kind hSame
      have hName : device.facts.name = old.facts.name := congrArg Device.name hSame
      have hNames := h.names old (Arena.mem_of_find? hOld)
      change device.kind = old.kind at hKind
      change device.name = old.name at hName
      rwa [hKind, hName]

/-- A change that stores no device and leads no new edge keeps the strata. -/
theorem Stratified.of_fewer (h : t.Stratified) (hFacts : t.KeepsFacts t')
    (hStored : ∀ d, (t'.device? d).isSome = (t.device? d).isSome)
    (hEdges : ∀ d p, t'.BuiltOn d p → t.BuiltOn d p) : t'.Stratified := by
  refine h.of_keepsFacts hFacts (fun d p hp => Or.inl (hEdges d p hp)) fun d device hd hNone => ?_
  have hSame := hStored d
  rw [hd, hNone] at hSame
  cases hSame

theorem Stratified.of_sameLayout (h : t.Stratified) (hFacts : t.KeepsFacts t')
    (hLayout : t.SameLayout t') : t'.Stratified :=
  h.of_fewer hFacts hLayout.isSome fun _ _ hp => hLayout.builtOn_iff.mp hp

theorem Stratified.of_moves {a : Action} {enters leaves : ActionKind} (h : t.Stratified)
    (hMoves : t.Moves t' a enters leaves) : t'.Stratified := by
  obtain ⟨order, presence, rfl⟩ := eq_of_moves hMoves
  exact ⟨h.base, h.names⟩

theorem Stratified.lose (h : t.Stratified) {change : List ObjectId → List ObjectId}
    (hSub : ∀ l, (change l).Sublist l) : (t.changeParents c change).Stratified :=
  h.of_fewer (t.writesOnly_changeParents c change).keepsFacts
    (fun d => t.isSome_modifyDevice c _ _ d) fun d _ hp => (parentsOf_sublist hSub d).subset hp

/-- A volume group may take in a partition. -/
theorem Stratified.enrol (h : t.Stratified) (hc : t.kindOf? c = some .volumeGroup)
    (hm : t.kindOf? m = some .partition) (change : List ObjectId → List ObjectId)
    (hChange : ∀ p ∈ change (t.parentsOf c), p = m ∨ p ∈ t.parentsOf c) :
    (t.changeParents c change).Stratified := by
  have hFacts := (t.writesOnly_changeParents c change).keepsFacts
  refine h.of_keepsFacts hFacts (fun d p hp => ?_) fun d device hd hNone => ?_
  · rcases builtOn_changeParents hp with hp | ⟨rfl, hp⟩
    · exact Or.inl hp
    · rcases hChange p hp with rfl | hp
      · exact Or.inr ⟨_, _, hFacts.kindOf? hc, hFacts.kindOf? hm, rfl⟩
      · exact Or.inl hp
  · have hSame : ((t.changeParents c change).device? d).isSome = (t.device? d).isSome :=
      t.isSome_modifyDevice c _ _ d
    rw [hd, hNone] at hSame
    cases hSame

/-- What is found after a device was stored was found before, or is the new device. -/
theorem of_storeDevice {draft : DeviceDraft} {name : String} {number : Int} {device : Device}
    (hd : (t.storeDevice draft name number).2.device? d = some device) :
    t.device? d = some device ∨
      t.device? d = none ∧ device.Suits draft ∧ device.name = name := by
  rcases Arena.of_find?_insert hd with hd | ⟨rfl, hNone⟩
  · exact Or.inl hd
  · exact Or.inr ⟨hNone, ⟨rfl, rfl, rfl⟩, rfl⟩

theorem Stratified.storeDevice (h : t.Stratified) {draft : DeviceDraft} {name : String}
    (hBase : ∀ p ∈ draft.parents, (t.kindOf? p).any draft.kind.restsOn = true)
    (hName : draft.kind.Names name) (number : Int) :
    (t.storeDevice draft name number).2.Stratified := by
  have hFacts := t.keepsFacts_storeDevice draft name number
  refine h.of_keepsFacts hFacts (fun d p hp => ?_) fun d device hd hNone => ?_
  · obtain ⟨device, hd, hp⟩ := builtOn_iff.mp hp
    rcases of_storeDevice hd with hOld | ⟨_, hSuits, _⟩
    · exact Or.inl (builtOn_iff.mpr ⟨device, hOld, hp⟩)
    · obtain ⟨base, hKind, hRests⟩ := (Option.any_eq_true _ _).mp (hBase p (hSuits.parents ▸ hp))
      refine Or.inr ⟨draft.kind, base, ?_, hFacts.kindOf? hKind, hRests⟩
      rw [DeviceTree.kindOf?, hd, Option.map_some, hSuits.kind]
  · rcases of_storeDevice hd with hOld | ⟨_, hSuits, rfl⟩
    · rw [hNone] at hOld
      cases hOld
    · rwa [hSuits.kind]

/-! ## Making devices -/

/-- A draft that passes its checks is stored under the name and number so found. -/
theorem storeDevice_of_newDevice {draft : DeviceDraft} {id : ObjectId}
    (h : t.newDevice draft = .ok (id, t')) :
    ∃ name number, t.checkKind draft = .ok (name, number) ∧
      (id, t') = t.storeDevice draft name number := by
  unfold newDevice at h
  split at h
  · cases h
  · obtain ⟨_, _, h⟩ := bind_ok h
    obtain ⟨result, hKind, h⟩ := bind_ok h
    exact ⟨result.1, result.2, hKind, (Except.ok.inj h).symm⟩

theorem name_of_partition {draft : DeviceDraft} {name : String} {number : Int}
    (h : t.checkKind draft = .ok (name, number)) (hKind : draft.kind = .partition) :
    name = draft.name := by
  unfold checkKind at h
  rw [hKind] at h
  dsimp only at h
  split at h
  · cases h
  · split at h
    · cases h
    · cases h
      rfl

theorem name_of_volumeGroup {draft : DeviceDraft} {name : String} {number : Int}
    (h : t.checkKind draft = .ok (name, number)) (hKind : draft.kind = .volumeGroup) :
    name = draft.name := by
  unfold checkKind at h
  rw [hKind] at h
  cases h
  rfl

/-- A logical volume stands on a volume group and is named after it. -/
theorem group_of_logicalVolume {draft : DeviceDraft} {name : String} {number : Int}
    (h : t.checkKind draft = .ok (name, number)) (hKind : draft.kind = .logicalVolume) :
    ∃ p group, draft.parents = [p] ∧ t.device? p = some group ∧ group.kind = .volumeGroup ∧
      name = group.name ++ "-" ++ draft.name := by
  unfold checkKind at h
  rw [hKind] at h
  dsimp only at h
  split at h
  · rename_i group hParents
    obtain ⟨p, hParents, hGroup⟩ := List.map_eq_singleton_iff.mp hParents
    split at h
    · cases h
      exact ⟨p, group, hParents, hGroup, ‹_›, rfl⟩
    · cases h
  · cases h

/-- A new device has the kind of its draft while ids are left. -/
theorem kindOf?_newDevice {draft : DeviceDraft} {id : ObjectId} {actions : List ObjectId} {n : Nat}
    (hNumbered : t.Numbered actions n) (h : t.newDevice draft = .ok (id, t'))
    (hFew : (t'.storedIds ++ actions).length < 2 ^ 64 - 1) : t'.kindOf? id = some draft.kind := by
  obtain ⟨name, number, _, hStore⟩ := storeDevice_of_newDevice h
  have hId : id = (t.storeDevice draft name number).1 := congrArg Prod.fst hStore
  have hTree : t' = (t.storeDevice draft name number).2 := congrArg Prod.snd hStore
  rw [hTree] at hFew
  obtain ⟨hNew, hStored⟩ := hNumbered.storeDevice_fresh draft name number hFew
  rw [hId, hTree]
  obtain ⟨device, hd⟩ := Option.isSome_iff_exists.mp (Arena.isSome_find?_iff.mpr hStored)
  rcases of_storeDevice hd with hOld | ⟨_, hSuits, _⟩
  · exact absurd (Arena.isSome_find?_iff.mp (Option.isSome_of_eq_some hOld)) hNew
  · rw [DeviceTree.kindOf?, DeviceTree.device?, hd, Option.map_some, hSuits.kind]

/-! ## Constructing and taking back -/

/-- Only a membership proposal is prepared to an operation with a container. -/
theorem proposal_of_container {proposal : Proposal} {p : Preparation}
    (h : t.prepare proposal = .ok p) (hc : p.operation.container? = some c) :
    proposal = .addMember c p.device ∨ proposal = .removeMember c p.device := by
  cases hMembership : proposal.isMembership with
  | false =>
    rw [(prepare_layout hMembership h).2.1] at hc
    cases hc
  | true =>
    cases proposal with
    | addMember container member =>
      obtain ⟨_, _, rfl⟩ := prepare_addMember_ok h
      cases hc
      exact Or.inl rfl
    | removeMember container member =>
      obtain ⟨_, _, _, rfl⟩ := prepare_removeMember_ok h
      cases hc
      exact Or.inr rfl
    | _ => cases hMembership

/-- A volume group and a partition, if there is a container. -/
abbrev Pairs (t : DeviceTree) (container? : Option ObjectId) (member : ObjectId) : Prop :=
  ∀ c, container? = some c → t.kindOf? c = some .volumeGroup ∧ t.kindOf? member = some .partition

theorem KeepsFacts.pairs (h : t.KeepsFacts t') {container? : Option ObjectId}
    (hPairs : t.Pairs container? m) : t'.Pairs container? m :=
  fun c hc => ⟨h.kindOf? (hPairs c hc).1, h.kindOf? (hPairs c hc).2⟩

theorem Prepares.keepsFacts {p : Preparation} (h : t.Prepares p) : t.KeepsFacts p.tree := by
  obtain ⟨_, _, hWrites⟩ := h.writesOnly
    (a := { id := 0, displayId := "", device := p.device, operation := p.operation }) rfl rfl
  exact hWrites.keepsFacts

theorem Stratified.prepares {p : Preparation} (h : t.Stratified) (hPrepares : t.Prepares p)
    (hPairs : t.Pairs p.operation.container? p.device) : p.tree.Stratified := by
  have hFacts := hPrepares.keepsFacts
  cases hPrepares with
  | createDevice | destroyDevice => exact h
  | createFormat => exact h.of_sameLayout hFacts (setFormat_layout t _ _)
  | destroyFormat =>
    exact h.of_sameLayout hFacts ((storeFormat_layout t _ _ _).trans (setFormat_layout _ _ _))
  | resizeDevice => exact h.of_sameLayout hFacts (sameLayout_modifyDevice _ _ _ _ fun _ => rfl)
  | resizeFormat => exact h.of_sameLayout hFacts ⟨rfl, rfl, rfl⟩
  | @addMember container member =>
    obtain ⟨hGroup, hMember⟩ := hPairs container.id rfl
    refine h.enrol hGroup hMember (fun parents => parents ++ [member.id]) fun p hp => ?_
    rw [List.mem_append, List.mem_singleton] at hp
    exact hp.symm
  | removeMember => exact h.lose fun l => List.erase_sublist

/-- Taking back a removal puts a partition back into a volume group; taking back anything else puts
nothing anywhere. -/
theorem Stratified.undoConstruction {a : Action} (h : t.Stratified)
    (hPairs : t.Pairs a.container? a.device) : (t.undoConstruction a).1.Stratified := by
  cases hLeaves : a.leaves? with
  | none =>
    rcases t.undoConstruction_cases hLeaves with hLayout | ⟨c, change, hSub, hUndo⟩
    · exact h.of_sameLayout (t.undoConstruction_writesOnly a).keepsFacts hLayout
    · rw [hUndo]
      exact h.lose hSub
  | some c =>
    obtain ⟨hGroup, hMember⟩ := hPairs c (Action.container_of_leaves hLeaves)
    have hStored : ∀ {d kind}, t.kindOf? d = some kind → (t.device? d).isSome := by
      intro d kind hKind
      obtain ⟨device, hd, _⟩ := Option.map_eq_some_iff.mp hKind
      exact Option.isSome_of_eq_some hd
    obtain ⟨position, hUndo⟩ :=
      undoConstruction_of_leaves (hStored hMember) (hStored hGroup) hLeaves
    rw [hUndo]
    exact h.enrol hGroup hMember _ fun p hp => mem_insertAt.mp hp

end DeviceTree

namespace Session

variable {s s' : Session} {id c m : ObjectId}

/-- The devices stand in strata, and every membership action is about a partition and a volume
group. -/
structure Strata (s : Session) : Prop where
  tree : s.tree.Stratified
  pairs : ∀ id a, s.action? id = some a → s.tree.Pairs a.container? a.device

/-- **In strata no chain of actions closes.** -/
theorem Strata.ok_sort (h : s.Strata) : s.sort.1.ok = true := by
  refine ok_sort_of_graded h.tree.graded fun a ha container hOp => ?_
  have hContainer : a.container? = some container := by
    rw [Action.container?, hOp]
    rfl
  obtain ⟨hGroup, hMember⟩ := h.pairs a.id a (mem_plan_iff.mp ha).2 container hContainer
  rw [DeviceTree.stratum_of_kind hGroup, DeviceTree.stratum_of_kind hMember]
  decide

/-! ## Single calls -/

theorem Strata.of_sameActions (h : s.Strata) (hActions : s.SameActions s')
    (hFacts : s.tree.KeepsFacts s'.tree) (hTree : s'.tree.Stratified) : s'.Strata := by
  refine ⟨hTree, fun id a ha => ?_⟩
  obtain ⟨b, hb, hCore⟩ := hActions.exists_core ha
  have hDevice : b.core.device = a.core.device := congrArg Action.device hCore
  have hContainer : b.core.container? = a.core.container? := congrArg Action.container? hCore
  change b.device = a.device at hDevice
  change b.container? = a.container? at hContainer
  rw [← hDevice, ← hContainer]
  exact hFacts.pairs (h.pairs id b hb)

theorem Strata.register (h : s.Strata) (id : ObjectId) : (s.register id).2.Strata := by
  refine h.of_sameActions (register_actions s id) (keepsFacts_register (.refl _) id) ?_
  rcases register_cases s id with hSame | ⟨_, hSame⟩ | ⟨a, t, _, _, _, _, hApply, hNew⟩
  · rw [hSame]
    exact h.tree
  · rw [hSame]
    exact h.tree
  · rw [hNew]
    exact h.tree.of_moves (DeviceTree.applyRegistration_ok hApply)

theorem Strata.cancel (h : s.Strata) (id : ObjectId) : (s.cancel id).2.Strata := by
  refine h.of_sameActions (cancel_actions s id) (keepsFacts_cancel (.refl _) id) ?_
  rcases cancel_cases s id with
    hSame | ⟨_, hSame⟩ | ⟨a, _, ha, _, hNew⟩ | ⟨a, t, _, _, ha, _, hUndo, hNew⟩
  · rw [hSame]
    exact h.tree
  · rw [hSame]
    exact h.tree
  · rw [hNew]
    exact h.tree.undoConstruction (h.pairs id a ha)
  · rw [hNew]
    have hMoves := DeviceTree.undoRegistration_ok hUndo
    refine (h.tree.of_moves hMoves).undoConstruction ?_
    obtain ⟨order, presence, rfl⟩ := DeviceTree.eq_of_moves hMoves
    exact h.pairs id a ha

theorem Strata.propose (h : s.Strata) {p : Proposal}
    (hPairs : ∀ c m, p = .addMember c m ∨ p = .removeMember c m → s.tree.Pairs (some c) m) :
    (s.propose p).2.Strata := by
  rcases propose_cases s p with
    hSame | ⟨preparation, hPrepare, ⟨_, hSame⟩ | ⟨actions, _, hInsert, hNew⟩⟩
  · rw [hSame]
    exact h
  all_goals
    have hPrepares := DeviceTree.prepares_of_prepare hPrepare
    have hFits : s.tree.Pairs preparation.operation.container? preparation.device := by
      intro c hc
      exact hPairs c _ (DeviceTree.proposal_of_container hPrepare hc) c rfl
    have hTree := h.tree.prepares hPrepares hFits
    have hFacts := hPrepares.keepsFacts
  · rw [hSame]
    exact h.of_sameActions (fun _ => rfl) (hFacts.trans (.of_same rfl rfl))
      ⟨hTree.base, hTree.names⟩
  · rw [hNew]
    refine ⟨⟨hTree.base, hTree.names⟩, fun id a ha => ?_⟩
    change actions.find? id = some a at ha
    rw [Arena.find?_insert? hInsert] at ha
    -- the action is the new one or was there before
    split at ha
    · cases ha
      exact hFacts.pairs hFits
    · exact hFacts.pairs (h.pairs id a ha)

/-! ## The calls of the panels -/

/-- The devices that the panels find by name are of the kind that they look for. -/
theorem Strata.pairs_of_offers (h : s.Strata) {p : Proposal} (hOffers : s.Offers (.schedule p)) :
    ∀ c m, p = .addMember c m ∨ p = .removeMember c m → s.tree.Pairs (some c) m := by
  intro c m hp
  have hNamed : (∃ group, s.tree.named? "VolGroup" = some group ∧ group.id = c) ∧
      ∃ partition, s.tree.named? "sdb1" = some partition ∧ partition.id = m := by
    rcases hp with rfl | rfl <;> exact hOffers
  obtain ⟨⟨group, hGroup, rfl⟩, partition, hPartition, rfl⟩ := hNamed
  obtain ⟨hGroupKind, hGroupNames⟩ := h.tree.kindOf?_named hGroup
  obtain ⟨hMemberKind, hMemberNames⟩ := h.tree.kindOf?_named hPartition
  rintro c ⟨rfl⟩
  rw [hGroupKind, hGroupNames.1 rfl, hMemberKind, hMemberNames.2 rfl]
  exact ⟨rfl, rfl⟩

theorem Strata.newFormat (h : s.Strata) (typeName mountPoint : String) (onMedia : Bool) :
    (s.newFormat typeName mountPoint onMedia).2.Strata := by
  refine h.of_sameActions (sameActions_answerTree s _ _)
    (keepsFacts_perform (.refl _)
      (rfl : (Command.newFormat typeName mountPoint onMedia).edits = false)) ?_
  unfold Session.newFormat answerTree
  split
  · exact h.tree
  · rename_i hNew
    exact h.tree.of_sameLayout (DeviceTree.keepsFacts_newFormat hNew)
      (DeviceTree.newFormat_layout hNew)

theorem overwrites_of_offers {command : Command} (h : s.Offers command) :
    command.overwrites = false := by
  cases command <;> first | rfl | cases h

/-- **Every call that the panels make one at a time keeps the strata.** -/
theorem Strata.offered (h : s.Strata) {command : Command} (hOffers : s.Offers command) :
    (s.perform command).2.Strata :=
  offered_preserves (fun _ _ _ h => ⟨h.tree, h.pairs⟩) (fun _ _ _ _ h => h.newFormat _ _ _)
    (fun _ _ h hOffers => h.propose (h.pairs_of_offers hOffers)) (fun _ id h => h.register id)
    (fun _ id h => h.cancel id)
    (fun s _ id h => h.of_sameActions (sameActions_drop s id .pruned) (.refl _) h.tree) h hOffers

theorem Strata.newDevice (h : s.Strata) {draft : DeviceDraft}
    (hFits : ∀ name number, s.tree.checkKind draft = .ok (name, number) →
      (∀ p ∈ draft.parents, (s.tree.kindOf? p).any draft.kind.restsOn = true) ∧
        draft.kind.Names name) : (s.newDevice draft).2.Strata := by
  refine h.of_sameActions (sameActions_answerTree s _ _)
    (keepsFacts_perform (.refl _) (rfl : (Command.newDevice draft).edits = false)) ?_
  unfold Session.newDevice answerTree
  split
  · exact h.tree
  · rename_i hNew
    obtain ⟨name, number, hKind, hStore⟩ := DeviceTree.storeDevice_of_newDevice hNew
    obtain ⟨hBase, hName⟩ := hFits name number hKind
    have hStratified := h.tree.storeDevice hBase hName number
    rw [← hStore] at hStratified
    exact hStratified

theorem strata_demo : ({} : Session).adoptDemo.2.Strata := by
  have hActions : ({} : Session).adoptDemo.2.actions = .empty :=
    adoptDemo_preserves (P := fun s => s.actions = .empty)
      (fun s draft typeName mountPoint h => by
        obtain ⟨t, hTree⟩ := adoptDevice_snd s draft typeName mountPoint
        rw [hTree]
        exact h)
      (fun _ _ h => h) rfl
  refine ⟨by decide +kernel, fun id a ha => ?_⟩
  rw [action?, hActions] at ha
  cases ha

end Session

namespace Viewer

open Session

variable {s : Session}

/-! ## Laying out an empty disk -/

theorem names_partition (disk : Device) :
    DeviceKind.partition.Names (autopartPartition disk).name := by
  refine ⟨fun h => ?_, fun _ => rfl⟩
  have hLast := congrArg (fun name => name.toList.getLast?) h
  simp [autopartPartition] at hLast

theorem names_volumeGroup (serial : Nat) (partition : ObjectId) :
    DeviceKind.volumeGroup.Names (autopartGroup serial partition).name := by
  refine ⟨fun _ => rfl, fun h => ?_⟩
  have hHead := congrArg (fun name => name.toList.head?) h
  simp [autopartGroup] at hHead

theorem names_logicalVolume (disk : Device) (group : ObjectId) (groupName : String) :
    DeviceKind.logicalVolume.Names (groupName ++ "-" ++ (autopartVolume disk group).name) := by
  refine ⟨fun h => ?_, fun h => ?_⟩ <;>
    have hLast := congrArg (fun name => name.toList.getLast?) h <;>
    simp [autopartVolume] at hLast

/-- A disk that is listed is stored, and it is a disk. -/
theorem kindOf?_of_mem_ofKind {t : DeviceTree} {kind : DeviceKind} {device : Device}
    (h : device ∈ t.ofKind kind) : t.kindOf? device.id = some kind := by
  obtain ⟨hPresent, hKind⟩ := List.mem_filter.mp h
  obtain ⟨_, hd⟩ := DeviceTree.mem_present.mp hPresent
  rw [DeviceTree.kindOf?, hd, Option.map_some, eq_of_beq hKind]

theorem strata_partition (h : s.Strata) {disk : Device} (hDisk : disk ∈ s.tree.ofKind .disk) :
    (s.newDevice (autopartPartition disk)).2.Strata := by
  refine h.newDevice fun name number hKind => ⟨fun p hp => ?_, ?_⟩
  · rw [List.mem_singleton.mp hp, kindOf?_of_mem_ofKind hDisk]
    rfl
  · rw [DeviceTree.name_of_partition hKind rfl]
    exact names_partition disk

theorem strata_volumeGroup (h : s.Strata) {partition : ObjectId}
    (hPartition : s.tree.kindOf? partition = some .partition) (serial : Nat) :
    (s.newDevice (autopartGroup serial partition)).2.Strata := by
  refine h.newDevice fun name number hKind => ⟨fun p hp => ?_, ?_⟩
  · rw [List.mem_singleton.mp hp, hPartition]
    rfl
  · rw [DeviceTree.name_of_volumeGroup hKind rfl]
    exact names_volumeGroup serial partition

/-- A logical volume is made only in a volume group. -/
theorem strata_logicalVolume (h : s.Strata) (disk : Device) (group : ObjectId) :
    (s.newDevice (autopartVolume disk group)).2.Strata := by
  refine h.newDevice fun name number hKind => ?_
  obtain ⟨p, stored, hParents, hStored, hGroup, rfl⟩ :=
    DeviceTree.group_of_logicalVolume hKind rfl
  refine ⟨fun q hq => ?_, names_logicalVolume disk group stored.name⟩
  rw [hParents] at hq
  rw [List.mem_singleton.mp hq, DeviceTree.kindOf?, hStored, Option.map_some, hGroup]
  rfl

/-- The partition that was made is a partition while ids are left. -/
theorem kindOf?_made {disk : Device} (hNumbered : s.Numbered 0)
    (hOk : (s.newDevice (autopartPartition disk)).1.ok = true)
    (hLeft : (s.newDevice (autopartPartition disk)).2.IdsLeft) :
    (s.newDevice (autopartPartition disk)).2.tree.kindOf?
      (s.newDevice (autopartPartition disk)).1.value = some .partition := by
  unfold Session.newDevice answerTree at hOk hLeft ⊢
  cases hNew : s.tree.newDevice (autopartPartition disk) with
  | error cause =>
    rw [hNew] at hOk
    cases hOk
  | ok made =>
    rw [hNew] at hLeft
    exact DeviceTree.kindOf?_newDevice hNumbered hNew hLeft

/-! ## Runs of the viewer -/

namespace Frame

theorem kept_strata : Kept (fun s _ => s.WhileLeft Strata)
    (fun id s => s.WhileLeft fun s => s.tree.kindOf? id = some .partition) where
  panels _ _ _ h _ := h
  call _ _ _ _ h hOffers _ _ :=
    h.step (fun _ h => h.perform (overwrites_of_offers hOffers)) fun _ _ hs _ =>
      hs.offered hOffers
  reset _ _ :=
    have hDemo : (({} : Session).perform .adoptDemo).2.Numbered 0 := numbered_empty.perform rfl
    ⟨hDemo, fun _ => strata_demo⟩
  partition s _ _ _ h hDisk _ :=
    h.step (fun n => (numbered_kept n).newDevice s _) fun _ _ hs _ => strata_partition hs hDisk
  known s _ _ h _ hOk :=
    ⟨(numbered_kept 0).newDevice s _ h.numbered, kindOf?_made h.numbered hOk⟩
  still _ _ _ h hOffers :=
    h.step (fun _ h => h.perform (overwrites_of_offers hOffers)) fun _ _ hKind _ =>
      (keepsFacts_perform (.refl _) (Command.edits_of_overwrites
        (overwrites_of_offers hOffers))).kindOf? hKind
  group s _ _ serial _ h hKnown _ _ :=
    h.step (fun n => (numbered_kept n).newDevice s _) fun _ hLeft hs _ =>
      strata_volumeGroup hs (hKnown.holds hLeft) serial
  volume s _ _ disk group h _ :=
    h.step (fun n => (numbered_kept n).newDevice s _) fun _ _ hs _ =>
      strata_logicalVolume hs disk group

theorem strata_empty : ({} : Session).Strata :=
  ⟨⟨fun _ h => absurd h List.not_mem_nil, fun _ h => absurd h List.not_mem_nil⟩,
    fun _ _ h => by cases h⟩

/-- **No run of the viewer closes a cycle of dependencies.**  As long as the present session has ids
left, no chain of registered actions closes, and the plan can be sorted. -/
theorem acyclic_of_viewer (events : List Event)
    (hLeft : (({} : Frame).handleAll events).session.IdsLeft) :
    let s := (({} : Frame).handleAll events).session
    (∀ a, ¬ Relation.TransGen s.WaitsOn a a) ∧ s.sort.1.ok = true := by
  intro s
  have hStart : ({} : Frame).Holds fun s _ => s.WhileLeft Strata :=
    ⟨numbered_empty, fun _ => strata_empty⟩
  have hStrata : s.Strata := (kept_strata.handleAll_holds hStart events).holds hLeft
  have hListed : s.Listed :=
    (kept_shown.handleAll_holds (f := {}) (.of_hidden listed_empty rfl) events).listed
  exact ⟨(sort_ok_iff hListed).mp hStrata.ok_sort, hStrata.ok_sort⟩

/-- A member leaves its group and comes back, the removal is withdrawn, and the member, which now
stands in the group twice, leaves it twice: its addition is planned, although the group does not
stand on it any more. -/
theorem acyclic_of_viewer_twice_removed :
    let events : List Event := [
      .toolbox { pressed := ["Reset Demo"] },
      .toolbox { pressed := ["Autopart Chain On Empty Disk", "Remove sdb1 From VolGroup"] },
      .toolbox { pressed := ["Add sdb1 To VolGroup"] },
      .plan { pressed := ["Cancel#43"] },
      .toolbox { pressed := ["Remove sdb1 From VolGroup"] },
      .toolbox { pressed := ["Remove sdb1 From VolGroup"] }]
    let s := (({} : Frame).handleAll events).session
    (s.IdsLeft ∧ s.registry = [32, 34, 37, 40, 42, 44, 45, 46] ∧
      ¬ ∀ a ∈ s.plan, s.tree.KeepsMember a) ∧
    (∀ a, ¬ Relation.TransGen s.WaitsOn a a) ∧ s.sort.1.ok = true := by
  intro events s
  have hLeft : s.IdsLeft := by
    show s.storedIds.length < 2 ^ 64 - 1
    decide +kernel
  exact ⟨⟨hLeft, by decide +kernel, by decide +kernel⟩, acyclic_of_viewer events hLeft⟩

end Frame

end Viewer

end StoragePlan

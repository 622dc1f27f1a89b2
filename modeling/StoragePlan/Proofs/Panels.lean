import StoragePlan.Proofs.Sorting
import StoragePlan.Viewer.Event

/-!
# What the panels do to a session

A panel acts on the session only through the calls that it reports, and every report takes back the
sorted plan; only a sort that succeeded shows one.  `Kept` lists the few steps that panels are made
of, and `Kept.handleAll` says that what these steps keep is kept by every run of the viewer.

* `Shown`: when a sorted plan is shown, sorting the session now would succeed and give that plan.
* `sort_of_planValid`: **the viewer never shows a stale plan as valid**.
-/

namespace StoragePlan

namespace Session

/-- The calls that panels make one at a time.  Members are moved only between the devices that go by
two fixed names. -/
def Offers (s : Session) : Command → Prop
  | .newFormat .. | .cancel _ | .removeStack .. | .prune | .sort | .clearLog => True
  | .schedule (.addMember container member) | .schedule (.removeMember container member) =>
    (∃ group, s.tree.named? "VolGroup" = some group ∧ group.id = container) ∧
      ∃ partition, s.tree.named? "sdb1" = some partition ∧ partition.id = member
  | .schedule _ => True
  | _ => False

/-- What the panels' calls are made of keeps what the calls keep. -/
theorem offered_preserves {P : Session → Prop}
    (hLog : ∀ s log number, P s → P { s with log, nextSequence := number })
    (hFormat : ∀ s typeName mountPoint onMedia, P s →
      P (s.newFormat typeName mountPoint onMedia).2)
    (hPropose : ∀ s p, P s → s.Offers (.schedule p) → P (s.propose p).2)
    (hRegister : ∀ s id, P s → P (s.register id).2) (hCancel : ∀ s id, P s → P (s.cancel id).2)
    (hPrune : ∀ s reason id, P s → P (s.pruneAction reason id)) {s : Session} (h : P s)
    {command : Command} (hOffers : s.Offers command) : P (s.perform command).2 := by
  have hSchedule : ∀ s p, P s → s.Offers (.schedule p) → P (s.schedule p).2 := by
    intro s p h hOffers
    unfold schedule Answer.andThen
    split
    · exact registerOrCancel_preserves hRegister hCancel (hPropose s p h hOffers) _
    · exact hPropose s p h hOffers
  cases command with
  | newFormat typeName mountPoint onMedia => exact hFormat s typeName mountPoint onMedia h
  | cancel action => exact hCancel s action h
  | schedule p => exact hSchedule s p h hOffers
  | removeStack device includeSelf =>
    exact removeStack_preserves (fun s _ h => hSchedule s _ h trivial)
      (fun s _ h => hSchedule s _ h trivial) h device includeSelf
  | prune => exact prune_preserves hPrune h
  | sort =>
    obtain ⟨level, message, hSort⟩ := sort_cases s
    show P s.sort.2
    rw [hSort]
    exact hLog s _ _ h
  | clearLog => exact hLog s _ _ h
  | newDevice | addDevice | removeDevice | editDevice | editFormat | setNextId | adoptDevice
  | adoptDemo | propose | register | registerOrCancel => cases hOffers

/-- What a sort answers depends on the tree, the actions and the registry alone. -/
theorem sort_of_same {s s' : Session} (hTree : s'.tree = s.tree) (hActions : s'.actions = s.actions)
    (hRegistry : s'.registry = s.registry) : s'.sort.1 = s.sort.1 := by
  have hArrangement : s'.arrangement = s.arrangement := by
    unfold arrangement steps plan action?
    rw [hTree, hActions, hRegistry]
  unfold sort
  rw [hArrangement]
  split
  split
  · rfl
  · rfl

end Session

namespace Viewer

/-! ## The state of the viewer -/

namespace PanelState

variable (panels : PanelState)

/-- The later one of two states of the viewer counts at least as many volume groups. -/
def Counts (panels panels' : PanelState) : Prop := panels.autopartSerial ≤ panels'.autopartSerial

/-- A later state of the viewer that shows the same plan. -/
def SamePlan (panels panels' : PanelState) : Prop :=
  panels'.sortedPlan = panels.sortedPlan ∧ panels'.planValid = panels.planValid ∧
    panels.Counts panels'

/-- A later state of the viewer that shows no plan. -/
def Hides (panels panels' : PanelState) : Prop :=
  panels'.planValid = false ∧ panels.Counts panels'

/-- A report takes the sorted plan back. -/
theorem hides_report (what : String) (refusal : Option Refusal) :
    panels.Hides (panels.report what refusal) := by
  cases refusal <;> exact ⟨rfl, Nat.le_refl panels.autopartSerial⟩

end PanelState

namespace Frame

/-- What every step of the panels keeps about the session and the sorted plan shown with it.  The
devices that an empty disk is laid out with build on each other, so `R` says what is known of the
partition once it is made.  A volume group is numbered by the count that the viewer keeps. -/
structure Kept (P : Session → PanelState → Prop) (R : ObjectId → Session → Prop) : Prop where
  panels : ∀ s p p', P s p → p.SamePlan p' → P s p'
  /-- Only a sort that succeeded shows a plan. -/
  call : ∀ s p p' command, P s p → s.Offers command → p.Counts p' →
    (p'.planValid = true → command = .sort ∧ s.sort.1.ok = true ∧ p'.sortedPlan = s.sort.1.value ∨
      command = .clearLog ∧ p.SamePlan p') →
    P (s.perform command).2 p'
  reset : ∀ p, p.planValid = false → P ({} : Session).adoptDemo.2 p
  partition : ∀ s p p' disk, P s p → disk ∈ s.tree.ofKind .disk → p.Hides p' →
    P (s.newDevice (autopartPartition disk)).2 p'
  known : ∀ s p disk, P s p → disk ∈ s.tree.ofKind .disk →
    (s.newDevice (autopartPartition disk)).1.ok = true →
    R (s.newDevice (autopartPartition disk)).1.value (s.newDevice (autopartPartition disk)).2
  still : ∀ id s command, R id s → s.Offers command → R id (s.perform command).2
  group : ∀ s p p' serial id, P s p → R id s → p.Hides p' → serial ≤ p'.autopartSerial →
    P (s.newDevice (autopartGroup serial id)).2 p'
  volume : ∀ s p p' disk id, P s p → p.Hides p' →
    P (s.newDevice (autopartVolume disk id)).2 p'

/-- A property of the session and the state of the viewer holds in a frame. -/
def Holds (P : Session → PanelState → Prop) (f : Frame) : Prop := P f.session f.panels

section

variable {P : Session → PanelState → Prop} {R : ObjectId → Session → Prop} {f : Frame}

/-! ## Steps -/

theorem Holds.draw (h : f.Holds P) (item : Item) : (f.draw item).Holds P := h

theorem Holds.drawAll (h : f.Holds P) (items : List Item) : (f.drawAll items).Holds P := h

/-- What a button does, it does to the session that the frame had before it. -/
theorem Holds.button {g : Gesture} {label : String} {act : Frame → Frame} (h : f.Holds P)
    (hAct : ∀ f' : Frame, f'.session = f.session → f'.Holds P → (act f').Holds P) :
    (f.button g label act).Holds P := by
  unfold Frame.button
  split
  · exact hAct _ rfl (h.draw _)
  · exact h.draw _

/-- A call is reported, and its value is used only if it succeeded. -/
theorem holds_call {α : Type} {what : String} {make : Session → Answer α}
    {next : α → Frame → Frame}
    (hCall : P (make f.session).2 (f.panels.report what (make f.session).1.refusal))
    (hNext : ∀ f' : Frame, (make f.session).1.ok = true → f'.session = (make f.session).2 →
      f.panels.Counts f'.panels → f'.Holds P → (next (make f.session).1.value f').Holds P) :
    (f.call what make next).Holds P := by
  unfold call
  dsimp only
  split
  · rename_i hOk
    exact hNext _ hOk rfl (PanelState.hides_report _ _ _).2 hCall
  · exact hCall

namespace Kept

variable (hP : Kept P R)

include hP

theorem setPanels (h : f.Holds P) {change : PanelState → PanelState}
    (hSame : f.panels.SamePlan (change f.panels)) : (f.setPanels change).Holds P :=
  hP.panels f.session f.panels _ h hSame

/-- A call that shows no plan keeps what the panels keep. -/
theorem call_holds (command : Command) (h : f.Holds P) {α : Type} {what : String}
    {make : Session → Answer α} (hOffers : f.session.Offers command)
    (hMake : (make f.session).2 = (f.session.perform command).2) {next : α → Frame → Frame}
    (hNext : ∀ x (f' : Frame), f'.session = (f.session.perform command).2 →
      f.panels.Counts f'.panels → f'.Holds P → (next x f').Holds P) :
    (f.call what make next).Holds P := by
  refine holds_call ?_ fun f' _ hSame hCounts h' => hNext _ f' (hSame.trans hMake) hCounts h'
  have hHides := f.panels.hides_report what (make f.session).1.refusal
  rw [hMake]
  refine hP.call _ _ _ _ h hOffers hHides.2 fun hValid => ?_
  rw [hHides.1] at hValid
  cases hValid

theorem schedule_holds (h : f.Holds P) (what : String) {p : Proposal}
    (hOffers : f.session.Offers (.schedule p)) : (f.schedule what p).Holds P :=
  hP.call_holds (.schedule p) h hOffers rfl fun _ _ _ _ h' => h'

/-! ## Laying out an empty disk -/

theorem autopartFilesystem_holds (h : f.Holds P) (serial : Nat) (volume : ObjectId) :
    (f.autopartFilesystem serial volume).Holds P := by
  refine hP.call_holds (.newFormat "ext4" _ false) h trivial rfl fun _ _ _ _ h' => ?_
  exact hP.schedule_holds h' _ trivial

theorem autopartVolumes_holds (h : f.Holds P) {partition : ObjectId}
    (hKnown : R partition f.session) (disk : Device) {serial : Nat}
    (hSerial : serial ≤ f.panels.autopartSerial) :
    (f.autopartVolumes disk serial partition).Holds P := by
  have hHides := fun (p : PanelState) what refusal => p.hides_report what refusal
  refine holds_call (hP.group _ _ _ _ _ h hKnown (hHides _ _ _)
    (hSerial.trans (hHides _ _ _).2)) fun f₁ _ _ _ h₁ => ?_
  refine hP.call_holds (.schedule (.createDevice _)) h₁ trivial rfl fun _ f₂ _ _ h₂ => ?_
  refine holds_call (hP.volume _ _ _ _ _ h₂ (hHides _ _ _)) fun f₃ _ _ _ h₃ => ?_
  refine hP.call_holds (.schedule (.createDevice _)) h₃ trivial rfl fun _ f₄ _ _ h₄ => ?_
  exact hP.autopartFilesystem_holds h₄ serial _

/-- What is known of the partition stays known until the volume group is made over it. -/
theorem autopartOn_holds (h : f.Holds P) {disk : Device}
    (hDisk : disk ∈ f.session.tree.ofKind .disk) {serial : Nat}
    (hSerial : serial ≤ f.panels.autopartSerial) : (f.autopartOn disk serial).Holds P := by
  refine holds_call (hP.partition _ _ _ disk h hDisk (PanelState.hides_report _ _ _))
    fun f₁ hOk hSame₁ hCounts₁ h₁ => ?_
  have hKnown₁ := hSame₁ ▸ hP.known f.session f.panels disk h hDisk hOk
  refine hP.call_holds (.schedule (.createDevice _)) h₁ trivial rfl
    fun _ f₂ hSame₂ hCounts₂ h₂ => ?_
  have hKnown₂ := hSame₂ ▸ hP.still _ _ (.schedule (.createDevice _)) hKnown₁ trivial
  refine hP.call_holds (.newFormat "lvmpv" "" false) h₂ trivial rfl
    fun _ f₃ hSame₃ hCounts₃ h₃ => ?_
  have hKnown₃ := hSame₃ ▸ hP.still _ _ (.newFormat "lvmpv" "" false) hKnown₂ trivial
  refine hP.call_holds (.schedule (.createFormat _ _)) h₃ trivial rfl
    fun _ f₄ hSame₄ hCounts₄ h₄ => ?_
  have hKnown₄ := hSame₄ ▸ hP.still _ _ (.schedule (.createFormat _ _)) hKnown₃ trivial
  refine hP.autopartVolumes_holds h₄ hKnown₄ disk ?_
  exact (((hSerial.trans hCounts₁).trans hCounts₂).trans hCounts₃).trans hCounts₄

theorem autopart_holds (h : f.Holds P) : f.autopart.Holds P := by
  unfold autopart
  split
  · exact hP.setPanels h ⟨rfl, rfl, Nat.le_refl _⟩
  · rename_i disk hEmpty
    refine hP.autopartOn_holds (hP.setPanels h ⟨rfl, rfl, Nat.le_succ _⟩) ?_ (Nat.le_refl _)
    exact List.mem_of_find?_eq_some hEmpty

/-! ## The toolbox -/

theorem resetDemo_holds (f : Frame) : f.resetDemo.Holds P := by
  unfold resetDemo callOnly
  exact holds_call (hP.reset _ (PanelState.hides_report _ _ _).1) fun _ _ _ _ h' => h'

theorem diskEntry_holds (h : f.Holds P) (g : Gesture) (entry : Device × Nat) :
    (f.diskEntry g entry).Holds P := by
  unfold diskEntry
  dsimp only
  split
  · exact hP.setPanels (h.draw _) ⟨rfl, rfl, Nat.le_refl _⟩
  · exact h.draw _

theorem foldl_diskEntry_holds (h : f.Holds P) (g : Gesture) (entries : List (Device × Nat)) :
    (entries.foldl (diskEntry g) f).Holds P := by
  induction entries generalizing f with
  | nil => exact h
  | cons entry entries ih => exact ih (hP.diskEntry_holds h g entry)

theorem removeEverything_holds (h : f.Holds P) (disk : Device) :
    (f.removeEverything disk).Holds P :=
  hP.call_holds (.removeStack disk.id false) h trivial rfl fun _ _ _ _ h' =>
    hP.setPanels h' ⟨rfl, rfl, Nat.le_refl _⟩

theorem teardownSection_holds (h : f.Holds P) (g : Gesture) : (f.teardownSection g).Holds P := by
  unfold teardownSection
  extract_lets f₁ disks f₂
  have h₁ : f₁.Holds P := h.draw _
  have h₂ : f₂.Holds P := by
    unfold f₂
    split
    · exact h₁
    · exact hP.setPanels h₁ ⟨rfl, rfl, Nat.le_refl _⟩
  split
  · exact h₂
  · rename_i current _
    extract_lets f₃ f₄
    have h₃ : f₃.Holds P := h₂.draw _
    have h₄ : f₄.Holds P := by
      unfold f₄
      split
      · exact hP.foldl_diskEntry_holds h₃ g _
      · exact h₃
    exact h₄.button fun _ _ h' => hP.removeEverything_holds h' current

theorem createSection_holds (h : f.Holds P) (g : Gesture) : (f.createSection g).Holds P :=
  (h.draw _).button fun _ _ h' => hP.autopart_holds h'

theorem membershipSection_holds (h : f.Holds P) (g : Gesture) :
    (f.membershipSection g).Holds P := by
  unfold membershipSection
  extract_lets f₁
  have h₁ : f₁.Holds P := h.draw _
  split
  · rename_i group member hGroup hMember
    split
    · refine h₁.button fun f' hSame h' => hP.schedule_holds h' _ ?_
      rw [hSame]
      exact ⟨⟨group, hGroup, rfl⟩, member, hMember, rfl⟩
    · refine h₁.button fun f' hSame h' => hP.schedule_holds h' _ ?_
      rw [hSame]
      exact ⟨⟨group, hGroup, rfl⟩, member, hMember, rfl⟩
  · exact h₁.draw _

theorem prunePlan_holds (h : f.Holds P) : f.prunePlan.Holds P :=
  hP.call_holds .prune h trivial rfl fun _ _ _ _ h' => hP.setPanels h' ⟨rfl, rfl, Nat.le_refl _⟩

/-- The sort is reported first, and shown when it succeeded. -/
theorem sortPlan_holds (h : f.Holds P) : f.sortPlan.Holds P := by
  unfold sortPlan Frame.call
  dsimp only
  split
  · rename_i hOk
    exact hP.call _ _ _ .sort h trivial (PanelState.hides_report _ _ _).2 fun _ =>
      Or.inl ⟨rfl, hOk, rfl⟩
  · have hHides := f.panels.hides_report "sort" f.session.sort.1.refusal
    refine hP.call _ _ _ .sort h trivial hHides.2 fun hValid => ?_
    rw [hHides.1] at hValid
    cases hValid

theorem toolbox_holds (h : f.Holds P) (g : Gesture) : (f.toolbox g).Holds P := by
  have hReset : (f.button g "Reset Demo" resetDemo).Holds P :=
    h.button fun f' _ _ => hP.resetDemo_holds f'
  have hMembership := hP.membershipSection_holds
    (hP.createSection_holds (hP.teardownSection_holds hReset g) g) g
  refine ((hMembership.draw _).button fun _ _ h' => hP.prunePlan_holds h').button ?_
  exact fun _ _ h' => hP.sortPlan_holds h'

/-! ## The other panels -/

theorem chooseFormat_holds (h : f.Holds P) (g : Gesture) : (f.chooseFormat g).Holds P := by
  unfold chooseFormat
  split
  · split
    · exact hP.setPanels h ⟨rfl, rfl, Nat.le_refl _⟩
    · exact h
  · exact h

theorem destroySection_holds (h : f.Holds P) (g : Gesture) (device : Device) :
    (f.destroySection g device).Holds P := by
  refine (h.button fun _ _ h' => ?_).button fun _ _ h' => ?_
  · exact hP.schedule_holds h' _ trivial
  · exact hP.schedule_holds h' _ trivial

theorem formatSection_holds (h : f.Holds P) (g : Gesture) (device : Device) :
    (f.formatSection g device).Holds P := by
  refine ((hP.chooseFormat_holds h g).draw _).button fun _ _ h' => ?_
  refine hP.call_holds (.newFormat _ "" false) h' trivial rfl fun _ _ _ _ h' => ?_
  exact hP.schedule_holds h' _ trivial

theorem resizeSection_holds (h : f.Holds P) (g : Gesture) (device : Device) :
    (f.resizeSection g device).Holds P := by
  unfold resizeSection
  refine Holds.button (Holds.button (hP.setPanels (h.draw _) ⟨rfl, rfl, Nat.le_refl _⟩)
    fun _ _ h' => ?_) fun _ _ h' => ?_
  · exact hP.schedule_holds h' _ trivial
  · exact hP.schedule_holds h' _ trivial

theorem inspector_holds (h : f.Holds P) (g : Gesture) : (f.inspector g).Holds P := by
  unfold inspector
  split
  · exact h.draw _
  · rename_i device _
    have hActions : ∀ f : Frame, f.Holds P → f.actionsSection.Holds P :=
      fun _ h => (h.draw _).drawAll _
    refine hActions _ (hP.resizeSection_holds (hP.formatSection_holds ?_ g device) g device)
    exact hP.destroySection_holds ((h.drawAll _).draw _) g device

theorem cancelPressed_holds (h : f.Holds P) (g : Gesture) (actions : List Action) :
    (f.cancelPressed g actions).Holds P := by
  unfold cancelPressed
  split
  · exact h
  · rename_i a _
    exact hP.call_holds (.cancel a.id) h trivial rfl fun _ _ _ _ h' => h'

theorem planPanel_holds (h : f.Holds P) (g : Gesture) : (f.planPanel g).Holds P := by
  have hSorted : ∀ f : Frame, f.Holds P → f.sortedSection.Holds P := by
    intro f h
    unfold sortedSection
    dsimp only
    split
    · exact (h.draw _).drawAll _
    · exact (h.draw _).draw _
  exact hSorted _ (hP.cancelPressed_holds ((h.draw _).drawAll _) g f.session.plan)

theorem diagnostics_holds (h : f.Holds P) (g : Gesture) : (f.diagnostics g).Holds P := by
  have hLog : (f.issuesSection.logSection g).Holds P := by
    have hIssues : f.issuesSection.Holds P := (h.draw _).drawAll _
    refine Holds.drawAll ((hIssues.draw _).button fun f' _ h' => ?_) _
    exact hP.call _ _ _ .clearLog h' trivial (Nat.le_refl _) fun _ =>
      Or.inr ⟨rfl, rfl, rfl, Nat.le_refl _⟩
  unfold diagnostics historySection
  dsimp only
  split
  · exact hLog
  · exact hLog

theorem checkbox_holds (h : f.Holds P) (g : Gesture) (label : String) (read : PanelState → Bool)
    {write : Bool → PanelState → PanelState}
    (hSame : ∀ on (panels : PanelState), panels.SamePlan (write on panels)) :
    (f.checkbox g label read write).Holds P :=
  (hP.setPanels h (hSame _ _)).draw _

theorem topBar_holds (h : f.Holds P) (g : Gesture) : (f.topBar g).Holds P := by
  refine Holds.drawAll (Holds.draw (hP.setPanels ?_ ⟨rfl, rfl, Nat.le_refl _⟩) _) _
  refine hP.checkbox_holds (hP.checkbox_holds h g _ _ ?_) g _ _ ?_
  · exact fun _ _ => ⟨rfl, rfl, Nat.le_refl _⟩
  · exact fun _ _ => ⟨rfl, rfl, Nat.le_refl _⟩

theorem pick_holds (h : f.Holds P) (click : Click) : (f.pick click).Holds P := by
  unfold pick
  split
  · exact h
  · split
    · exact hP.setPanels h ⟨rfl, rfl, Nat.le_refl _⟩
    · split
      · exact hP.setPanels h ⟨rfl, rfl, Nat.le_refl _⟩
      · exact hP.setPanels h ⟨rfl, rfl, Nat.le_refl _⟩

/-! ## Runs -/

theorem handle_holds (h : f.Holds P) (event : Event) : (f.handle event).Holds P := by
  have hNew : ({ f with drawn := [] } : Frame).Holds P := h
  cases event with
  | pick click => exact hP.pick_holds hNew click
  | toolbox g => exact hP.toolbox_holds hNew g
  | inspector g => exact hP.inspector_holds hNew g
  | plan g => exact hP.planPanel_holds hNew g
  | diagnostics g => exact hP.diagnostics_holds hNew g
  | topBar g => exact hP.topBar_holds hNew g

/-- **What every step of the panels keeps is kept by every run of the viewer.** -/
theorem handleAll_holds (h : f.Holds P) (events : List Event) : (f.handleAll events).Holds P := by
  unfold handleAll
  induction events generalizing f with
  | nil => exact h
  | cons event events ih => exact ih (hP.handle_holds h event)

end Kept

end

/-! ## The sorted plan -/

/-- When a sorted plan is shown, sorting the session would succeed and give that plan. -/
structure Shown (s : Session) (panels : PanelState) : Prop where
  listed : s.Listed
  sorts : panels.planValid = true → s.sort.1.ok = true ∧ s.sort.1.value = panels.sortedPlan

/-- A state of the viewer that shows no plan asks only for a registry in order. -/
theorem Shown.of_hidden {s : Session} {panels : PanelState} (hListed : s.Listed)
    (hHidden : panels.planValid = false) : Shown s panels := by
  refine ⟨hListed, fun hValid => ?_⟩
  rw [hHidden] at hValid
  cases hValid

theorem shown_call {s : Session} {p p' : PanelState} {command : Command} (h : Shown s p)
    (hValid : p'.planValid = true →
      command = .sort ∧ s.sort.1.ok = true ∧ p'.sortedPlan = s.sort.1.value ∨
      command = .clearLog ∧ p.SamePlan p') : Shown (s.perform command).2 p' := by
  refine ⟨h.listed.perform command, fun hShown => ?_⟩
  rcases hValid hShown with ⟨rfl, hOk, hPlan⟩ | ⟨rfl, hPlan, hSame⟩
  · have hAfter : (s.perform .sort).2.sort.1 = s.sort.1 := by
      obtain ⟨level, message, hRecord⟩ := Session.sort_cases s
      show s.sort.2.sort.1 = s.sort.1
      rw [hRecord]
      exact Session.sort_of_same rfl rfl rfl
    rw [hAfter]
    exact ⟨hOk, hPlan.symm⟩
  · have hAfter : (s.perform .clearLog).2.sort.1 = s.sort.1 := Session.sort_of_same rfl rfl rfl
    rw [hAfter, hPlan]
    exact h.sorts (hSame.1.symm.trans hShown)

theorem kept_shown : Kept Shown fun _ _ => True where
  panels s p p' h hSame := ⟨h.listed, fun hValid => by
    rw [hSame.1]
    exact h.sorts (hSame.2.1.symm.trans hValid)⟩
  call s p p' command h _ _ hValid := shown_call h hValid
  reset p hHidden := .of_hidden (Session.listed_empty.perform .adoptDemo) hHidden
  partition s p p' disk h _ hHides := .of_hidden (h.listed.perform (.newDevice _)) hHides.1
  known _ _ _ _ _ _ := trivial
  still _ _ _ _ _ := trivial
  group s p p' serial id h _ hHides _ := .of_hidden (h.listed.perform (.newDevice _)) hHides.1
  volume s p p' disk id h hHides := .of_hidden (h.listed.perform (.newDevice _)) hHides.1

/-- **The viewer never shows a stale plan as valid.**  After every run of the viewer, when a sorted
plan is shown, sorting the session now would succeed and give exactly this plan, which has every
registered action once. -/
theorem sort_of_planValid (events : List Event)
    (hValid : (({} : Frame).handleAll events).panels.planValid = true) :
    let f := ({} : Frame).handleAll events
    f.session.sort.1.ok = true ∧ f.session.sort.1.value = f.panels.sortedPlan ∧
    f.panels.sortedPlan.Perm f.session.registry ∧ f.panels.sortedPlan.Nodup := by
  intro f
  have hStart : ({} : Frame).Holds Shown := .of_hidden Session.listed_empty rfl
  obtain ⟨hListed, hSorts⟩ := kept_shown.handleAll_holds hStart events
  obtain ⟨hOk, hValue⟩ := hSorts hValid
  have hPerm : f.panels.sortedPlan.Perm f.session.registry :=
    hValue ▸ Session.sort_perm hListed hOk
  exact ⟨hOk, hValue, hPerm, hPerm.nodup_iff.mpr hListed.nodup⟩

/-- An empty disk of the demonstration layout is laid out, a member leaves its group, the plan is
sorted in the same frame, and the plan is looked at. -/
theorem sort_of_planValid_laid_out :
    let events : List Event := [
      .toolbox { pressed := ["Reset Demo"] },
      .toolbox {
        pressed := ["Autopart Chain On Empty Disk", "Remove sdb1 From VolGroup", "Sort"] },
      .diagnostics { pressed := ["Clear"] }, .topBar { pressed := ["Sizes"] }, .plan {}]
    let f := ({} : Frame).handleAll events
    (f.panels.planValid = true ∧ f.session.registry.length = 6) ∧
    f.session.sort.1.ok = true ∧ f.session.sort.1.value = f.panels.sortedPlan ∧
    f.panels.sortedPlan.Perm f.session.registry ∧ f.panels.sortedPlan.Nodup := by
  intro events f
  have hValid : f.panels.planValid = true := by decide +kernel
  exact ⟨⟨hValid, by decide +kernel⟩, sort_of_planValid events hValid⟩

-- the plan is taken back with the only action in it
example :
    (({} : Frame).handleAll [
      .toolbox { pressed := ["Reset Demo"] },
      .toolbox { pressed := ["Remove sdb1 From VolGroup", "Sort"] },
      .plan { pressed := ["Cancel#30"] }]).panels.planValid = false := by
  decide +kernel

end Frame

end Viewer

end StoragePlan

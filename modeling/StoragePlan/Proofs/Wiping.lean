import StoragePlan.Proofs.Content
import StoragePlan.Proofs.Sweeping

/-!
# Formats that are taken off

The format that a populated device came with is on the media until an action puts another one in its
place.  Only the first of the actions that do so can displace it: what they leave on the device is
not on the media (`Rewriting`).

* `Rewriting.perform`: a call of a plan in the making keeps this.
* `rewritesOf_prune_iff`: **pruning keeps one of these actions if the newest is a creation or the
  only one**.
-/

namespace StoragePlan

/-- Whether an action changes which format a device carries. -/
def Action.rewrites (a : Action) (device : ObjectId) : Bool :=
  a.device == device && (a.kind == .createFormat || a.kind == .destroyFormat)

/-- The format that an action leaves on its device. -/
def Action.installed? (a : Action) : Option ObjectId :=
  match a.operation with
  | .createFormat format _ => some format
  | .destroyFormat _ blank => some blank
  | _ => none

namespace DeviceTree

variable {t t' : DeviceTree} {a b : Action} {p : Preparation} {d f : ObjectId}

/-- Whether a stored format is on the media. -/
def isWritten (t : DeviceTree) (format : ObjectId) : Bool :=
  (t.format? format).any Format.onMedia

/-- Whether an action puts a format on its device that is on the media already. -/
def putsWritten (t : DeviceTree) (a : Action) : Bool :=
  match a.operation with
  | .createFormat format _ => t.isWritten format
  | _ => false

/-! ## Formats on the media -/

theorem Grows.isWritten (h : t.Grows t') (hf : (t.format? f).isSome) :
    t'.isWritten f = t.isWritten f := h.any_format hf _

theorem isSome_of_isWritten (h : t.isWritten f = true) : (t.format? f).isSome := by
  obtain ⟨format, hf, _⟩ := (Option.any_eq_true _ _).mp h
  exact Option.isSome_of_eq_some hf

/-- Preparing an action stores no format that is on the media. -/
theorem Prepares.isWritten (h : t.Prepares p) : p.tree.isWritten = t.isWritten := by
  cases h with
  | resizeFormat =>
    funext f
    rw [DeviceTree.isWritten, DeviceTree.isWritten, setFormatTarget, format?_modifyFormat]
    cases t.format? f with
    | none => rfl
    | some format =>
      rw [Option.map_some, Option.any_some, Option.any_some]
      split <;> rfl
  | destroyFormat => exact funext (any_storeFormat t rfl)
  | _ => rfl

theorem removesUnwritten_iff {removed blank : ObjectId}
    (h : a.operation = .destroyFormat removed blank) :
    t.removesUnwritten a = true ↔ t.isWritten removed = false := by
  simp only [removesUnwritten, h, isWritten]
  cases t.format? removed <;> simp

/-- The format that a prepared action leaves on its device is stored, and it is not on the media
unless the action put one there that is.  What it takes off is the format that the device
carries. -/
theorem Prepares.installs (h : t.Prepares p) (hOp : a.operation = p.operation)
    (hKind : a.kind = .createFormat ∨ a.kind = .destroyFormat)
    (hFresh : t.ids.next ≠ 0 ∧ t.ids.next ∉ t.formats.ids) :
    ∃ g, a.installed? = some g ∧ (p.tree.format? g).isSome ∧
      (t.putsWritten a = false → t.isWritten g = false) ∧
      ∀ removed blank, a.operation = .destroyFormat removed blank →
        t.formatIdOf? p.device = some removed := by
  unfold Action.installed? putsWritten
  unfold Action.kind at hKind
  rw [hOp] at hKind ⊢
  cases h with
  | createFormat hd hFormat =>
    exact ⟨_, rfl, hFormat, fun h => h, fun removed blank h => by cases h⟩
  | destroyFormat hd =>
    refine ⟨_, rfl, ?_, fun _ => ?_, fun removed blank h => ?_⟩
    · show ((t.formats.insert (.ofType .blank t.ids.next "" false)).find? t.ids.next).isSome
      rw [Arena.isSome_find?_iff]
      rcases t.formats.ids_insert (.ofType .blank t.ids.next "" false) with hIds | ⟨_, hTaken⟩
      · rw [hIds]
        exact List.mem_append_right _ (List.mem_singleton_self _)
      · exact absurd hTaken (not_or.mpr hFresh)
    · by_contra hWritten
      rw [Bool.not_eq_false] at hWritten
      exact hFresh.2 (Arena.isSome_find?_iff.mp (isSome_of_isWritten hWritten))
    · cases h
      rw [formatIdOf?, hd]
      rfl
  | _ => rcases hKind with hKind | hKind <;> cases hKind

/-- The format that a device carries after an action. -/
theorem formatIdOf?_act (hRead : t'.read = act t.read a) :
    t'.formatIdOf? d = if a.rewrites d then a.installed? else t.formatIdOf? d := by
  have hContent := congrFun hRead (.content d)
  simp only [read, act, Function.update_apply, Action.slot, Action.effect] at hContent
  unfold formatIdOf? Action.rewrites Action.installed? Action.kind
  cases hOp : a.operation <;> rw [hOp] at hContent
  case createFormat | destroyFormat =>
    by_cases hd : d = a.device
    · subst hd
      simpa [Operation.kind] using hContent
    · simpa [Operation.kind, hd, Ne.symm hd] using hContent
  all_goals simpa [Operation.kind] using hContent

/-! ## Actions on the format of one device -/

theorem rewrites_iff : a.rewrites d = true ↔
    a.device = d ∧ (a.kind = .createFormat ∨ a.kind = .destroyFormat) := by
  rw [Action.rewrites, Bool.and_eq_true, Bool.or_eq_true, beq_iff_eq, beq_iff_eq, beq_iff_eq]

theorem container?_of_rewrites (h : a.rewrites d = true) : a.container? = none := by
  obtain ⟨_, hKind | hKind⟩ := rewrites_iff.mp h <;>
    exact container?_eq_none (by simp [Action.object, hKind, ActionKind.object])

theorem concerns_of_rewrites (h : a.rewrites d = true) {e : ObjectId} (he : a.concerns e = true) :
    e = d := by
  rw [Action.concerns, container?_of_rewrites h, (rewrites_iff.mp h).1] at he
  exact (beq_iff_eq.mp (by simpa using he)).symm

/-- What makes a change of a device's format unnecessary is another one, unless the device is
destroyed. -/
theorem rewrites_of_obsoletes (hStays : ¬ (a.kind = .destroyDevice ∧ a.device = d))
    (h : t.obsoletes a b = true) (hb : b.rewrites d = true) : a.rewrites d = true := by
  have hContainer := container?_of_rewrites hb
  obtain ⟨rfl, hKind⟩ := rewrites_iff.mp hb
  rw [rewrites_iff]
  cases ha : a.kind
  case destroyDevice =>
    refine absurd ⟨ha, ?_⟩ hStays
    simp only [obsoletes, ha, destroyObsoletes] at h
    split at h
    · cases h
    · split at h
      · simp only [Bool.and_eq_true, beq_iff_eq] at h
        exact h.1.1.symm
      · simp only [Action.concerns, hContainer, Bool.and_eq_true, Bool.or_eq_true,
          beq_iff_eq, reduceCtorEq, or_false] at h
        exact h.1.symm
  case createFormat | destroyFormat => rcases hKind with hKind | hKind <;> simp_all [obsoletes]
  all_goals rcases hKind with hKind | hKind <;> simp [obsoletes, ha, hKind] at h

/-- Of two changes of one device's format the newer one makes the older one unnecessary, unless it
creates a format and the older one destroys one. -/
theorem obsoletes_of_rewrites (ha : a.rewrites d = true) (hb : b.rewrites d = true)
    (hne : b.id ≠ a.id) :
    t.obsoletes a b = true ↔
      b.id < a.id ∧ (a.kind = .destroyFormat ∨ b.kind = .createFormat) := by
  obtain ⟨rfl, hka⟩ := rewrites_iff.mp ha
  obtain ⟨hDevice, hkb⟩ := rewrites_iff.mp hb
  rcases hka with hka | hka <;> rcases hkb with hkb | hkb <;>
    simp [obsoletes, hka, hkb, hDevice, hne, Action.object, ActionKind.object]

theorem obsoletes_self_of_rewrites (ha : a.rewrites d = true) :
    t.obsoletes a a = t.removesUnwritten a := by
  obtain ⟨_, hKind | hKind⟩ := rewrites_iff.mp ha
  · have hOp : t.removesUnwritten a = false := by
      unfold removesUnwritten
      unfold Action.kind at hKind
      cases hOp : a.operation <;> simp_all [Operation.kind]
    simp [obsoletes, hKind, hOp]
  · simp [obsoletes, hKind, Action.object, ActionKind.object]

end DeviceTree

namespace Session

variable {s s' : Session} {a : Action} {d f : ObjectId} {populated : List ObjectId}

/-- The registered actions that change which format a device carries, oldest first. -/
def rewritesOf (s : Session) (device : ObjectId) : List Action :=
  s.plan.filter (·.rewrites device)

/-- The plan puts only formats on devices that are not on the media yet. -/
def PutsNew (s : Session) : Prop := ∀ a ∈ s.plan, s.tree.putsWritten a = false

instance (s : Session) : Decidable s.PutsNew :=
  inferInstanceAs (Decidable (∀ a ∈ s.plan, s.tree.putsWritten a = false))

/-- A device carries the format that it came with until the plan changes that, and from then on one
that is not on the media.  So only the first of the changes can take off one that is. -/
structure Rewriting (d f : ObjectId) (s : Session) : Prop where
  written : s.tree.isWritten f = true
  carries : ∃ g, s.tree.formatIdOf? d = some g ∧ (s.tree.format? g).isSome ∧
    if s.rewritesOf d = [] then g = f else s.tree.isWritten g = false
  newest : ∀ older a removed blank, s.rewritesOf d = older ++ [a] →
    a.operation = .destroyFormat removed blank →
    (s.tree.format? removed).isSome ∧ (s.tree.isWritten removed = true ↔ older = [])

/-! ## Formats that a plan leaves on a device -/

theorem putsNew_of_grows (h : s'.PutsNew) (hPlan : s.plan ⊆ s'.plan)
    (hWritten : ∀ f, s.tree.isWritten f = true → s'.tree.isWritten f = true) : s.PutsNew := by
  intro a ha
  have hAfter := h a (hPlan ha)
  unfold DeviceTree.putsWritten at hAfter ⊢
  cases hOp : a.operation with
  | createFormat format previous =>
    rw [hOp] at hAfter
    by_contra hBefore
    rw [Bool.not_eq_false] at hBefore
    exact Bool.false_ne_true (hAfter.symm.trans (hWritten format hBefore))
  | _ => rfl

theorem rewritesOf_of_plan (h : s'.plan = s.plan) : s'.rewritesOf d = s.rewritesOf d := by
  rw [rewritesOf, rewritesOf, h]

theorem rewritesOf_append {state : ActionState} (h : s'.plan = s.plan ++ [{ a with state }]) :
    s'.rewritesOf d = s.rewritesOf d ++ if a.rewrites d then [{ a with state }] else [] := by
  rw [rewritesOf, h, List.filter_append, List.filter_singleton]
  show _ ++ (bif a.rewrites d then _ else _) = _
  cases a.rewrites d <;> rfl

theorem Rewriting.of_same (h : Rewriting d f s) (hSame : s'.rewritesOf d = s.rewritesOf d)
    (hId : s'.tree.formatIdOf? d = s.tree.formatIdOf? d)
    (hFormats : ∀ g, (s.tree.format? g).isSome →
      (s'.tree.format? g).isSome ∧ s'.tree.isWritten g = s.tree.isWritten g) :
    Rewriting d f s' := by
  refine ⟨?_, ?_, fun older a removed blank ha hOp => ?_⟩
  · rw [(hFormats f (DeviceTree.isSome_of_isWritten h.written)).2]
    exact h.written
  · obtain ⟨g, hg, hStored, hCarries⟩ := h.carries
    rw [hSame, hId, ← (hFormats g hStored).2] at *
    exact ⟨g, hg, (hFormats g hStored).1, hCarries⟩
  · obtain ⟨hStored, hNewest⟩ := h.newest older a removed blank (hSame ▸ ha) hOp
    rw [← (hFormats removed hStored).2] at hNewest
    exact ⟨(hFormats removed hStored).1, hNewest⟩

/-- A change of the format takes off what the device carries and leaves a format on it that is not
on the media. -/
theorem Rewriting.append {g : ObjectId} (h : Rewriting d f s)
    (hRewrites : s'.rewritesOf d = s.rewritesOf d ++ [a])
    (hId : s'.tree.formatIdOf? d = some g) (hStored : (s'.tree.format? g).isSome)
    (hUnwritten : s'.tree.isWritten g = false)
    (hRemoves : ∀ removed blank, a.operation = .destroyFormat removed blank →
      s.tree.formatIdOf? d = some removed)
    (hFormats : ∀ g, (s.tree.format? g).isSome →
      (s'.tree.format? g).isSome ∧ s'.tree.isWritten g = s.tree.isWritten g) :
    Rewriting d f s' := by
  refine ⟨?_, ⟨g, hId, hStored, ?_⟩, fun older b removed blank hb hOp => ?_⟩
  · rw [(hFormats f (DeviceTree.isSome_of_isWritten h.written)).2]
    exact h.written
  · rw [if_neg (by simp [hRewrites])]
    exact hUnwritten
  · -- what this change takes off is the first format only if nothing was changed before
    rw [hRewrites] at hb
    obtain ⟨rfl, hSame⟩ := List.append_inj' hb rfl
    obtain rfl := List.singleton_inj.mp hSame
    obtain ⟨g', hg', hStored', hCarries⟩ := h.carries
    obtain rfl : g' = removed := Option.some.inj (hg'.symm.trans (hRemoves removed blank hOp))
    refine ⟨(hFormats g' hStored').1, ?_⟩
    rw [(hFormats g' hStored').2]
    split at hCarries
    · rename_i hNone
      exact iff_of_true (hCarries ▸ h.written) hNone
    · rename_i hSome
      exact iff_of_false (by simp [hCarries]) hSome

/-- **Each call of a plan in the making takes off the format that a device came with, or one that is
not on the media.** -/
theorem Rewriting.perform (h : s.PutsNew → Rewriting d f s) (hUnderway : Underway populated s)
    (hd : d ∈ populated) {command : Command} (hComposes : command.composes = true)
    (hFew : (s.perform command).2.storedIds.length < 2 ^ 64 - 1)
    (hNew : (s.perform command).2.PutsNew) : Rewriting d f (s.perform command).2 := by
  cases hUnderway.composed hComposes with
  | quiet hPlan hRegistry hGrows =>
    have hGrows := hGrows hFew
    have hStored := DeviceTree.isSome_of_isThere (hUnderway.standing d hd).isThere
    have hBefore := h (putsNew_of_grows hNew (fun a ha => hPlan ▸ ha)
      fun f hf => (hGrows.isWritten (DeviceTree.isSome_of_isWritten hf)).trans hf)
    refine hBefore.of_same (rewritesOf_of_plan hPlan) (hGrows.formatIdOf? hStored) fun g hg => ?_
    obtain ⟨format, hFormat⟩ := Option.isSome_iff_exists.mp hg
    exact ⟨Option.isSome_of_eq_some (hGrows.format? g format hFormat), hGrows.isWritten hg⟩
  | added p changes hPrepares hApply hPlan hRegistry hNewest =>
    obtain ⟨order, presence, hTree⟩ :=
      DeviceTree.eq_of_moves (DeviceTree.applyRegistration_ok hApply)
    have hStays : ∀ g, (p.tree.format? g).isSome → ((s.perform command).2.tree.format? g).isSome :=
      fun g hg => by rw [hTree]; exact hg
    have hWritten : (s.perform command).2.tree.isWritten = s.tree.isWritten := by
      rw [hTree]
      exact hPrepares.isWritten
    have hFormats : ∀ g, (s.tree.format? g).isSome →
        ((s.perform command).2.tree.format? g).isSome ∧
          (s.perform command).2.tree.isWritten g = s.tree.isWritten g :=
      fun g hg => ⟨hStays g (hPrepares.isSome_format hg), congrFun hWritten g⟩
    have hBefore := h (putsNew_of_grows hNew (fun a ha => hPlan ▸ List.mem_append_left _ ha)
      fun f hf => hWritten ▸ hf)
    have hId := DeviceTree.formatIdOf?_act (d := d) (read_of_added hPrepares hApply)
    have hRewrites := rewritesOf_append (d := d) hPlan
    by_cases hThis : (s.actionOf p).rewrites d = true
    · rw [if_pos hThis] at hId hRewrites
      obtain ⟨rfl, hKind⟩ := DeviceTree.rewrites_iff.mp hThis
      obtain ⟨hZero, hFresh⟩ := (hUnderway.numbered.2).notMem (hUnderway.few hComposes hFew)
      obtain ⟨g, hInstalled, hStored, hUnwritten, hRemoves⟩ :=
        hPrepares.installs (a := s.actionOf p) rfl hKind
          ⟨hZero, fun hTaken => hFresh (List.mem_append_left _ (List.mem_append_right _ hTaken))⟩
      have hPuts := hNew { s.actionOf p with state := .registered } (by rw [hPlan]; simp)
      refine hBefore.append hRewrites (hId.trans hInstalled) (hStays g hStored) ?_ hRemoves hFormats
      rw [hWritten]
      refine hUnwritten ?_
      unfold DeviceTree.putsWritten at hPuts ⊢
      rwa [hWritten] at hPuts
    · rw [if_neg hThis] at hId hRewrites
      rw [List.append_nil] at hRewrites
      exact hBefore.of_same hRewrites hId hFormats

/-! ## Pruning -/

section

variable (hUnderway : Underway populated s) (hd : d ∈ populated) (hPresent : d ∈ s.tree.order)

include hUnderway hd hPresent

/-- Only a change of its format makes a change of the format of a present device unnecessary. -/
theorem rewrites_of_plan {b : Action} (ha : a ∈ s.plan) (h : s.tree.obsoletes a b = true)
    (hb : b.rewrites d = true) : a.rewrites d = true := by
  refine DeviceTree.rewrites_of_obsoletes (fun hGone => ?_) h hb
  refine hUnderway.not_mem_destroyed hd hPresent (List.mem_map.mpr ⟨a, ?_, hGone.2⟩)
  exact List.mem_filter.mpr ⟨ha, beq_iff_eq.mpr hGone.1⟩

omit hPresent in
theorem uncreated_of_rewrites (ha : a.rewrites d = true) :
    ∀ e, a.concerns e = true → e ∉ s.devicesOf .createDevice := by
  intro e he
  rw [DeviceTree.concerns_of_rewrites ha he]
  exact (hUnderway.standing d hd).not_mem_created

variable (hFew : s.storedIds.length < 2 ^ 64 - 1) (hRewriting : Rewriting d f s)
  {older : List Action} (hNewest : s.rewritesOf d = older ++ [a])

include hFew hRewriting hNewest

omit hUnderway hd hPresent hFew in
/-- The newest change takes off a format that is not on the media if it destroys one and is not the
only change. -/
theorem removesUnwritten_newest :
    s.tree.removesUnwritten a = true ↔ a.kind = .destroyFormat ∧ older ≠ [] := by
  cases hOp : a.operation with
  | destroyFormat removed blank =>
    obtain ⟨_, hWritten⟩ := hRewriting.newest older a removed blank hNewest hOp
    rw [DeviceTree.removesUnwritten_iff hOp, ← Bool.not_eq_true, hWritten, Action.kind, hOp]
    exact (and_iff_right rfl).symm
  | _ => simp [DeviceTree.removesUnwritten, Action.kind, hOp, Operation.kind]

theorem newest_stays (hStays : ¬ (a.kind = .destroyFormat ∧ older ≠ [])) :
    a.id ∈ s.prune.2.registry := by
  obtain ⟨ha, hThis⟩ := (selected_iff hNewest).mpr (Or.inr rfl)
  refine mem_registry_prune (mem_withoutTransient ha (uncreated_of_rewrites hUnderway hd hThis)) ?_
  intro hOutdone
  obtain ⟨b, hb, _, hObsoletes⟩ :=
    exists_of_outdone (List.Subset.refl _) (fun _ _ => rfl) ha hOutdone
  have hRewrites := rewrites_of_plan hUnderway hd hPresent hb hObsoletes hThis
  rcases (selected_iff hNewest).mp ⟨hb, hRewrites⟩ with hOlder | rfl
  · have hLt := lt_newest hUnderway.listed (hUnderway.increasing hFew) hNewest hOlder
    rw [DeviceTree.obsoletes_of_rewrites hRewrites hThis (UInt64.ne_of_lt hLt).symm] at hObsoletes
    exact UInt64.lt_asymm hLt hObsoletes.1
  · rw [DeviceTree.obsoletes_self_of_rewrites hThis,
      removesUnwritten_newest hRewriting hNewest] at hObsoletes
    exact hStays hObsoletes

/-- A destruction that takes off a format which is not on the media drops all changes before it and
goes with them. -/
theorem all_dropped (hKind : a.kind = .destroyFormat) (hOlder : older ≠ []) :
    s.prune.2.rewritesOf d = [] := by
  have hListed := hUnderway.listed
  have hIncreasing := hUnderway.increasing hFew
  obtain ⟨s', hMidway, hTurn, hTurns⟩ := exists_newest_turn hListed hIncreasing hNewest
    (fun b hb c hObsoletes hc => rewrites_of_plan hUnderway hd hPresent hb hObsoletes hc)
    (fun b _ hb => uncreated_of_rewrites hUnderway hd hb)
  have hMember : ∀ b, b ∈ older ∨ b = a → b.rewrites d = true := fun b hb =>
    ((selected_iff hNewest).mpr hb).2
  -- whatever pruning leaves was left by the turn of the newest change
  refine List.eq_nil_iff_forall_not_mem.mpr fun b hb => ?_
  obtain ⟨hb, hid⟩ := (mem_filter_plan_prune hListed).mp hb
  have hid := hMidway.rest.registry.subset hid
  rcases (selected_iff hNewest).mp (List.mem_filter.mp hb) with hb | rfl
  · have hLt := lt_newest hListed hIncreasing hNewest hb
    have hDrops : s.tree.obsoletes a b = true :=
      (DeviceTree.obsoletes_of_rewrites (hMember a (Or.inr rfl)) (hMember b (Or.inl hb))
        (UInt64.ne_of_lt hLt)).mpr ⟨hLt, Or.inl hKind⟩
    exact Bool.false_ne_true (((hTurns b hb).mp hid).symm.trans hDrops)
  · have hSelf : s.tree.obsoletes b b = true := by
      rw [DeviceTree.obsoletes_self_of_rewrites (hMember b (Or.inr rfl)),
        removesUnwritten_newest hRewriting hNewest]
      exact ⟨hKind, hOlder⟩
    exact Bool.false_ne_true ((hTurn.mp hid).1.symm.trans hSelf)

end

/-- **Pruning keeps a change of a device's format exactly when the newest one creates a format or
there is only one.** -/
theorem rewritesOf_prune_iff (hUnderway : Underway populated s) (hd : d ∈ populated)
    (hPresent : d ∈ s.tree.order) (hFew : s.storedIds.length < 2 ^ 64 - 1)
    (hRewriting : Rewriting d f s) :
    s.prune.2.rewritesOf d ≠ [] ↔
      ((s.rewritesOf d).map Action.kind).getLast? = some .createFormat ∨
        (s.rewritesOf d).length = 1 := by
  rcases List.eq_nil_or_concat (s.rewritesOf d) with hNone | ⟨older, a, hNewest⟩
  · have hNone' : s.prune.2.rewritesOf d = [] := filter_plan_prune_eq_nil hUnderway.listed hNone
    simp [hNone, hNone']
  rw [List.concat_eq_append] at hNewest
  have ha : a ∈ s.rewritesOf d := by simp [hNewest]
  obtain ⟨_, hKinds⟩ := DeviceTree.rewrites_iff.mp (List.mem_filter.mp ha).2
  have hEither : ((s.rewritesOf d).map Action.kind).getLast? = some .createFormat ∨
      (s.rewritesOf d).length = 1 ↔ ¬ (a.kind = .destroyFormat ∧ older ≠ []) := by
    rw [hNewest, List.map_append, List.map_singleton, List.getLast?_concat, Option.some_inj]
    rcases hKinds with hKind | hKind <;> simp [hKind]
  rw [hEither]
  constructor
  · rintro hSome ⟨hKind, hOlder⟩
    exact hSome (all_dropped hUnderway hd hPresent hFew hRewriting hNewest hKind hOlder)
  · intro hStays
    have hid := newest_stays hUnderway hd hPresent hFew hRewriting hNewest hStays
    exact List.ne_nil_of_mem ((mem_filter_plan_prune hUnderway.listed).mpr ⟨ha, hid⟩)

/-! ## Plans that were scheduled on populated devices -/

theorem rewriting_of_plan_nil (h : s.plan = []) (hFormat : s.tree.formatIdOf? d = some f)
    (hWritten : s.tree.isWritten f = true) : Rewriting d f s := by
  have hNone : s.rewritesOf d = [] := by
    rw [rewritesOf, h]
    rfl
  refine ⟨hWritten, ⟨f, hFormat, DeviceTree.isSome_of_isWritten hWritten, ?_⟩,
    fun older a removed blank ha => ?_⟩
  · rw [if_pos hNone]
  · rw [hNone] at ha
    simp at ha

/-- A device carries another format than the one it came with exactly when the plan changes it. -/
theorem Rewriting.carries_iff (h : Rewriting d f s) :
    s.tree.formatIdOf? d ≠ some f ↔ s.rewritesOf d ≠ [] := by
  obtain ⟨g, hg, _, hCarries⟩ := h.carries
  rw [hg]
  split at hCarries
  · rename_i hNone
    simp [hCarries, hNone]
  · rename_i hSome
    refine iff_of_true (fun hSame => ?_) hSome
    rw [Option.some.inj hSame, h.written] at hCarries
    cases hCarries

/-- **Which formats pruning forgets to take off.**  Actions are scheduled on a tree that was
populated, and devices and formats are made for them, while ids are left.  No action puts a format
on a device that is on the media.  Then a populated device that is still present carries another
format than the one on the media that it came with exactly when the plan creates or destroys its
format.  Pruning keeps one of these actions exactly when the newest one creates a format or it is
the only one. -/
theorem wiped_after_prune_iff (populating planning : List Command)
    (hPopulates : ∀ command ∈ populating, command.populates = true)
    (hComposes : ∀ command ∈ planning, command.composes = true) :
    let start := ({} : Session).performAll populating
    let s := start.performAll planning
    s.storedIds.length < 2 ^ 64 - 1 → s.PutsNew → ∀ d ∈ start.tree.order, d ∈ s.tree.order →
      ∀ f, start.tree.formatIdOf? d = some f → start.tree.isWritten f = true →
      (s.tree.formatIdOf? d ≠ some f ↔ s.rewritesOf d ≠ []) ∧
      (s.prune.2.rewritesOf d ≠ [] ↔
        ((s.rewritesOf d).map Action.kind).getLast? = some .createFormat ∨
          (s.rewritesOf d).length = 1) := by
  intro start s hFew hNew d hd hPresent f hFormat hWritten
  obtain ⟨hEmpty, hStart⟩ := underway_of_populated hPopulates
  obtain ⟨hUnderway, hRewriting⟩ := hStart.performAll (I := fun s => s.PutsNew → Rewriting d f s)
    (fun _ _ hCommand => hCommand)
    (fun _ _ hCommand hUnderway hFew h hNew => .perform h hUnderway hd hCommand hFew hNew)
    (fun _ => rewriting_of_plan_nil hEmpty hFormat hWritten) (along_of_forall hComposes start)
  have hRewriting := hRewriting hFew hNew
  exact ⟨hRewriting.carries_iff,
    rewritesOf_prune_iff hUnderway hd hPresent hFew hRewriting⟩

/-- A file system is taken off a partition and two others are put in its place, one after the other.
Pruning keeps the destruction and the newer creation.  Another partition only loses its file system,
by one action, which stays. -/
theorem wiped_after_prune_of_new_formats :
    let populating : List Command := [
      .adoptDevice { name := "sda", kind := .disk } "" "",
      .adoptDevice { name := "sda1", kind := .partition, parents := [2] } "ext4" "",
      .adoptDevice { name := "sda2", kind := .partition, parents := [2] } "xfs" ""]
    let planning : List Command := [.schedule (.destroyFormat 4), .newFormat "ext3" "/" false,
      .schedule (.createFormat 4 11), .newFormat "xfs" "/" false, .schedule (.createFormat 4 13),
      .schedule (.destroyFormat 7)]
    let start := ({} : Session).performAll populating
    let s := start.performAll planning
    ((∀ command ∈ populating, command.populates = true) ∧
      (∀ command ∈ planning, command.composes = true) ∧
      s.storedIds.length < 2 ^ 64 - 1 ∧ s.PutsNew ∧ start.tree.order = [2, 4, 7] ∧
      start.tree.formatIdOf? 4 = some 5 ∧ start.tree.isWritten 5 = true ∧
      start.tree.formatIdOf? 7 = some 8 ∧ start.tree.isWritten 8 = true) ∧
    (s.tree.formatIdOf? 4 = some 13 ∧
      (s.rewritesOf 4).map Action.kind = [.destroyFormat, .createFormat, .createFormat] ∧
      (s.prune.2.rewritesOf 4).map Action.kind = [.destroyFormat, .createFormat]) ∧
    (s.tree.formatIdOf? 7 = some 15 ∧ (s.rewritesOf 7).map Action.kind = [.destroyFormat] ∧
      (s.prune.2.rewritesOf 7).map Action.kind = [.destroyFormat]) ∧
    ∀ d f, (d = 4 ∧ f = 5) ∨ (d = 7 ∧ f = 8) →
      (s.tree.formatIdOf? d ≠ some f ↔ s.rewritesOf d ≠ []) ∧
      (s.prune.2.rewritesOf d ≠ [] ↔
        ((s.rewritesOf d).map Action.kind).getLast? = some .createFormat ∨
          (s.rewritesOf d).length = 1) := by
  intro populating planning start s
  have hPopulates : ∀ command ∈ populating, command.populates = true := by decide
  have hComposes : ∀ command ∈ planning, command.composes = true := by decide
  have hFew : s.storedIds.length < 2 ^ 64 - 1 := by decide +kernel
  have hNew : s.PutsNew := by decide +kernel
  have hFormats : start.tree.formatIdOf? 4 = some 5 ∧ start.tree.isWritten 5 = true ∧
      start.tree.formatIdOf? 7 = some 8 ∧ start.tree.isWritten 8 = true := by decide +kernel
  refine ⟨⟨hPopulates, hComposes, hFew, hNew, by decide +kernel, hFormats⟩, by decide +kernel,
    by decide +kernel, ?_⟩
  rintro d f (⟨rfl, rfl⟩ | ⟨rfl, rfl⟩)
  · exact wiped_after_prune_iff populating planning hPopulates hComposes hFew hNew 4
      (by decide +kernel) (by decide +kernel) 5 hFormats.1 hFormats.2.1
  · exact wiped_after_prune_iff populating planning hPopulates hComposes hFew hNew 7
      (by decide +kernel) (by decide +kernel) 8 hFormats.2.2.1 hFormats.2.2.2

/-- The file system of a partition is taken off twice, and on another partition a new one is made
and taken off.  Pruning drops all four actions, and both file systems stay on the media. -/
theorem not_wiped_after_prune_of_destroyed_twice :
    let start := ({} : Session).performAll [
      .adoptDevice { name := "sda", kind := .disk } "" "",
      .adoptDevice { name := "sda1", kind := .partition, parents := [2] } "ext4" "",
      .adoptDevice { name := "sda2", kind := .partition, parents := [2] } "xfs" ""]
    let s := start.performAll [.schedule (.destroyFormat 4), .schedule (.destroyFormat 4),
      .newFormat "ext4" "/" false, .schedule (.createFormat 7 13), .schedule (.destroyFormat 7)]
    (start.tree.order = [2, 4, 7] ∧ s.tree.order = [2, 4, 7] ∧ s.PutsNew) ∧
    (start.tree.formatIdOf? 4 = some 5 ∧ start.tree.isWritten 5 = true ∧
      s.tree.formatIdOf? 4 = some 11 ∧
      (s.rewritesOf 4).map Action.kind = [.destroyFormat, .destroyFormat] ∧
      s.prune.2.rewritesOf 4 = []) ∧
    (start.tree.formatIdOf? 7 = some 8 ∧ start.tree.isWritten 8 = true ∧
      s.tree.formatIdOf? 7 = some 15 ∧
      (s.rewritesOf 7).map Action.kind = [.createFormat, .destroyFormat] ∧
      s.prune.2.rewritesOf 7 = []) := by
  decide +kernel

end Session

end StoragePlan

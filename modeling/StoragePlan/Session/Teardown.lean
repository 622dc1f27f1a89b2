import StoragePlan.Session.Register

/-!
# Taking down what stands on a device

Everything built on a device is scheduled for destruction, the newest leaf first, each device right
after its content.  Every device taken down leaves the tree order (`tearDown_order_lt`), so the work
ends on every graph, cyclic ones included.
-/

namespace StoragePlan.Session

/-- Schedule a proposal; the value lists its action if that succeeds. -/
def scheduleListed (s : Session) (p : Proposal) : Answer (List ObjectId) :=
  let (o, s) := s.schedule p
  match o.refusal with
  | none => ({ value := [o.value] }, s)
  | some cause => (.refused cause, s)

/-- Schedule the destruction of what a device holds, if it holds anything. -/
def destroyContent (s : Session) (id : ObjectId) : Answer (List ObjectId) :=
  if (s.tree.content? id).isSome then s.scheduleListed (.destroyFormat id) else ({ value := [] }, s)

/-- Schedule the destruction of a device and before it that of its content.  The value lists what
was scheduled, also when the second step is refused. -/
def tearDown (s : Session) (id : ObjectId) : Answer (List ObjectId) :=
  let content := s.destroyContent id
  if content.1.ok then
    let device := content.2.scheduleListed (.destroyDevice id)
    ({ device.1 with value := content.1.value ++ device.1.value }, device.2)
  else content

/-! ## A device taken down leaves the tree -/

theorem scheduleListed_ok {s : Session} {p : Proposal} (h : (s.scheduleListed p).1.ok = true) :
    (s.schedule p).1.ok = true ∧ (s.scheduleListed p).2 = (s.schedule p).2 := by
  unfold scheduleListed at h ⊢
  cases refusal : (s.schedule p).1.refusal with
  | none => simp [refusal, Outcome.ok]
  | some cause => simp [refusal, Outcome.refused, Outcome.ok] at h

theorem destroyContent_order {s : Session} {id : ObjectId} (h : (s.destroyContent id).1.ok = true) :
    (s.destroyContent id).2.tree.order = s.tree.order := by
  unfold destroyContent at h ⊢
  split at h
  case isFalse empty => simp [empty]
  case isTrue holds =>
    rw [if_pos holds]
    obtain ⟨scheduled, same⟩ := scheduleListed_ok h
    rw [same]
    obtain ⟨preparation, t, changes, prepared, order, applied⟩ := schedule_ok scheduled
    obtain ⟨device, blank, -, -, operation, sameOrder⟩ :=
      DeviceTree.prepare_destroyFormat_ok prepared
    simp only [DeviceTree.applyRegistration, actionOf, operation] at applied
    by_cases present : t.contains preparation.device = true
    · simp [present, Operation.container?] at applied
      rw [← applied.1, order, sameOrder]
    · simp [present, Operation.container?] at applied

theorem scheduleListed_destroyDevice_order_lt {s : Session} {id : ObjectId}
    (hListed : id ∈ s.tree.order) (h : (s.scheduleListed (.destroyDevice id)).1.ok = true) :
    (s.scheduleListed (.destroyDevice id)).2.tree.order.length < s.tree.order.length := by
  obtain ⟨scheduled, same⟩ := scheduleListed_ok h
  rw [same]
  obtain ⟨preparation, t, changes, prepared, order, applied⟩ := schedule_ok scheduled
  obtain ⟨device, found, rfl⟩ := DeviceTree.prepare_destroyDevice_ok prepared
  obtain rfl : device.id = id := Arena.id_of_find? found
  simp only [DeviceTree.applyRegistration, actionOf, DeviceTree.remove] at applied
  split at applied
  · simp [Except.map] at applied
  · split at applied
    · simp [Except.map] at applied
    · simp only [Except.map, Except.ok.injEq, Prod.mk.injEq] at applied
      rw [← applied.1, ← order, List.length_filter_lt_length_iff_exists]
      exact ⟨device.id, order ▸ hListed, by simp⟩

theorem tearDown_order_lt {s : Session} {id : ObjectId} (hListed : id ∈ s.tree.order)
    (h : (s.tearDown id).1.ok = true) :
    (s.tearDown id).2.tree.order.length < s.tree.order.length := by
  unfold tearDown at h ⊢
  simp only at h ⊢
  split at h
  case isFalse content => exact absurd h content
  case isTrue content =>
    rw [if_pos content]
    have same := destroyContent_order content
    have := scheduleListed_destroyDevice_order_lt (same ▸ hListed) h
    rwa [same] at this

/-! ## The whole stack -/

theorem mem_order_of_find? {t : DeviceTree} {id leaf : ObjectId}
    (h : (t.dependents id).reverse.find? t.isLeaf = some leaf) : leaf ∈ t.order :=
  (List.mem_filter.mp (List.mem_reverse.mp (List.mem_of_find?_eq_some h))).1

/-- Take down everything built on a device: again and again the newest device above it that nothing
stands on. -/
def tearDownAbove (s : Session) (id : ObjectId) : Answer (List ObjectId) :=
  if s.tree.dependents id = [] then ({ value := [] }, s)
  else match _found : (s.tree.dependents id).reverse.find? s.tree.isLeaf with
  | none => (.refused .noRemovableLeaf, s)
  | some leaf =>
    let first := s.tearDown leaf
    if first.1.ok then
      let rest := first.2.tearDownAbove id
      ({ rest.1 with value := first.1.value ++ rest.1.value }, rest.2)
    else first
termination_by s.tree.order.length
decreasing_by exact tearDown_order_lt (mem_order_of_find? _found) (by assumption)

/-- Take down everything built on a device, and the device itself if asked to. -/
def tearDownStack (s : Session) (id : ObjectId) (includeSelf : Bool) : Answer (List ObjectId) :=
  let above := s.tearDownAbove id
  if above.1.ok ∧ includeSelf then
    let own := above.2.tearDown id
    ({ own.1 with value := above.1.value ++ own.1.value }, own.2)
  else above

/-- Schedule the destruction of everything built on a present device, and of the device itself if
asked to.  A refused call keeps what was scheduled before the refusal. -/
def removeStack (s : Session) (id : ObjectId) (includeSelf : Bool) : Answer (List ObjectId) :=
  if s.tree.contains id = false then (.refused .notInTree, s)
  else
    let (o, s) := s.tearDownStack id includeSelf
    ({ o with changes := { created := if o.ok then o.value else [] } }, s)

end StoragePlan.Session

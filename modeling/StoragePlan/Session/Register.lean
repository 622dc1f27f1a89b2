import StoragePlan.Session.Propose

/-!
# Registering and withdrawing actions

An action that was constructed may be registered, which appends it to the plan, and an action that
was constructed or registered may be cancelled, which undoes what its registration and its
construction changed.  To schedule a proposal is to construct and register its action; when the
registration is refused the action is cancelled at once.
-/

namespace StoragePlan

namespace DeviceTree

/-- What registering an action does to the tree. -/
def applyRegistration (t : DeviceTree) (a : Action) : Except Refusal (DeviceTree × Changes) :=
  match a.operation with
  | .createDevice =>
    if t.contains a.device then .error .alreadyInTree
    else (t.add a.device).map fun t => (t, { created := [a.device] })
  | .destroyDevice => (t.remove a.device).map fun t => (t, { deleted := [a.device] })
  | operation =>
    if operation.container?.all t.contains = false then .error .containerNotInTree
    else if t.contains a.device = false then .error .notInTree
    else .ok (t, {})

/-- What withdrawing a registered action does to the tree's membership. -/
def undoRegistration (t : DeviceTree) (a : Action) : Except Refusal (DeviceTree × Changes) :=
  match a.operation with
  | .createDevice => (t.remove a.device).map fun t => (t, { deleted := [a.device] })
  | .destroyDevice => (t.add a.device).map fun t => (t, { created := [a.device] })
  | _ => .ok (t, {})

/-- A list without the last occurrence of `x`. -/
def eraseLast (x : ObjectId) (l : List ObjectId) : List ObjectId := (l.reverse.erase x).reverse

/-- A list with `x` put in at a position, or at the end if the list is shorter. -/
def insertAt (position : Nat) (x : ObjectId) (l : List ObjectId) : List ObjectId :=
  l.insertIdx (min position l.length) x

/-- Take back what the construction of an action changed, by what the action displaced, and name the
objects so changed.  Nothing is done when the action's device, its format or its container is not
stored. -/
def undoConstruction (t : DeviceTree) (a : Action) : DeviceTree × List ObjectId :=
  if (t.device? a.device).isNone then (t, []) else
  match a.operation with
  | .createDevice | .destroyDevice => (t, [])
  | .createFormat _ previous =>
    (t.setFormat a.device previous, [a.device])
  | .destroyFormat removed _ =>
    (t.setFormat a.device removed, [a.device])
  | .resizeDevice _ previous _ =>
    (t.setTarget a.device previous, [a.device])
  | .resizeFormat format _ previous _ =>
    if (t.format? format).isNone then (t, [])
    else (t.setFormatTarget format previous, [format])
  | .addMember container =>
    if a.device ∈ t.parentsOf container then
      (t.changeParents container (eraseLast a.device), [container])
    else (t, [])
  | .removeMember container position =>
    if (t.device? container).isNone then (t, [])
    else (t.changeParents container (insertAt position a.device), [container])

end DeviceTree

namespace Session

/-- Refuse a call about an action and write a record of it. -/
def reject (s : Session) (id : ObjectId) (cause : Refusal) (message : String) : Answer ObjectId :=
  (.refused cause, s.record .warning .reject id message)

/-- Append a constructed action to the plan. -/
def register (s : Session) (id : ObjectId) : Answer ObjectId :=
  match s.action? id with
  | none => (.refused .unknownAction, s)
  | some a =>
    if a.state ≠ .constructed then
      let cause := Refusal.registerInState a.state
      s.reject id cause cause.message
    else
      match s.tree.applyRegistration a with
      | .error cause => s.reject id cause (s.describe id ++ ": " ++ cause.message)
      | .ok (tree, changes) =>
        let s := { s with tree, registry := s.registry ++ [id] }.setState id .registered
        ({ value := id, changes := changes.update id },
          s.record .info .register id (s.describe id))

/-- Take back the construction of an action that is not in the plan any more, given what was changed
on the way. -/
def withdraw (s : Session) (a : Action) (changes : Changes) : Answer ObjectId :=
  let (tree, updated) := s.tree.undoConstruction a
  let s := { s with tree }.setState a.id .cancelled
  ({ value := a.id
     changes := { changes with updated := changes.updated ++ updated ++ [a.id] } },
    s.record .info .cancel a.id (s.describe a.id))

/-- Withdraw an action that was constructed or registered. -/
def cancel (s : Session) (id : ObjectId) : Answer ObjectId :=
  match s.action? id with
  | none => (.refused .unknownAction, s)
  | some a =>
    match a.state with
    | .cancelled | .pruned =>
      let cause := Refusal.cancelInState a.state
      s.reject id cause cause.message
    | .constructed => s.withdraw a {}
    | .registered =>
      match s.tree.undoRegistration a with
      | .error cause =>
        let cause := Refusal.cancelBlocked a.displayId cause
        s.reject id cause cause.message
      | .ok (tree, changes) => ({ s with tree }.drop id .cancelled).withdraw a changes

/-- Register an action, and cancel it if that is refused. -/
def registerOrCancel (s : Session) (id : ObjectId) : Answer ObjectId :=
  let (registration, s) := s.register id
  match registration.refusal with
  | none => (registration, s)
  | some cause =>
    let (cancellation, s) := s.cancel id
    let refusal := (cancellation.refusal.map (Refusal.alsoCancel cause)).getD cause
    ({ registration with refusal := some refusal }, s)

/-- Construct and register the action of a proposal. -/
def schedule (s : Session) (p : Proposal) : Answer ObjectId :=
  (s.propose p).andThen fun id s => s.registerOrCancel id

/-! ## What a success tells -/

/-- A registration succeeds only by applying the action to the tree. -/
theorem register_ok {s : Session} {id : ObjectId} (h : (s.register id).1.ok = true) :
    ∃ a changes, s.action? id = some a
      ∧ s.tree.applyRegistration a = .ok ((s.register id).2.tree, changes) := by
  unfold register at h ⊢
  cases found : s.action? id with
  | none => simp [found, Outcome.refused, Outcome.ok] at h
  | some a =>
    simp only [found] at h ⊢
    by_cases state : a.state = .constructed
    · simp only [state, ne_eq, not_true, if_false] at h ⊢
      cases applied : s.tree.applyRegistration a with
      | error cause => simp [applied, reject, Outcome.refused, Outcome.ok] at h
      | ok result => exact ⟨a, result.2, rfl, by simp [applied]⟩
    · simp [state, reject, Outcome.refused, Outcome.ok] at h

theorem registerOrCancel_of_ok {s : Session} {id : ObjectId}
    (h : (s.registerOrCancel id).1.ok = true) : s.registerOrCancel id = s.register id := by
  unfold registerOrCancel at h ⊢
  cases refusal : (s.register id).1.refusal with
  | none => simp [refusal]
  | some cause => simp [refusal, Outcome.ok] at h

/-- A construction that succeeds stores the action it answers. -/
theorem construct_ok {s : Session} {p : Preparation} (h : (s.construct p).1.ok = true) :
    (s.construct p).2.action? (s.construct p).1.value = some (s.actionOf p) := by
  unfold construct at h ⊢
  simp only at h ⊢
  split at h
  case h_1 => simp [Outcome.ok] at h
  case h_2 actions stored =>
    simp only [action?, record_actions]
    rw [Arena.find?_insert? stored]
    simp [Identified.id]

theorem construct_order (s : Session) (p : Preparation) :
    (s.construct p).2.tree.order = p.tree.order := by
  unfold construct
  simp only
  split <;> rfl

/-- A proposal is scheduled only by preparing it and applying its action to the tree. -/
theorem schedule_ok {s : Session} {p : Proposal} (h : (s.schedule p).1.ok = true) :
    ∃ preparation, ∃ t : DeviceTree, ∃ changes, s.tree.prepare p = .ok preparation
      ∧ t.order = preparation.tree.order
      ∧ t.applyRegistration (s.actionOf preparation) = .ok ((s.schedule p).2.tree, changes) := by
  unfold schedule Answer.andThen at h ⊢
  split at h
  case isFalse proposed => exact absurd h proposed
  case isTrue proposed =>
    rw [if_pos proposed]
    simp only at h ⊢
    have same := registerOrCancel_of_ok h
    rw [same] at h ⊢
    obtain ⟨a, changes, found, applied⟩ := register_ok h
    cases prepared : s.tree.prepare p with
    | error cause => simp [propose, prepared, Outcome.refused, Outcome.ok] at proposed
    | ok preparation =>
      simp only [propose, prepared] at proposed found applied
      rw [construct_ok proposed, Option.some_inj] at found
      subst found
      exact ⟨preparation, _, changes, rfl, construct_order s preparation,
        by simpa only [propose, prepared] using applied⟩

end Session

end StoragePlan

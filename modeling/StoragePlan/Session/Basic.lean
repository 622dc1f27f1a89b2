import StoragePlan.Outcome
import StoragePlan.Tree.Edit
import StoragePlan.Action.Describe
import StoragePlan.Action.Requires
import StoragePlan.Action.Obsoletes

/-!
# Planning sessions

A session holds a device tree, every action ever constructed against it, and the plan: the ordered
registry of the actions that are proposed now.  It keeps a log of what happened to the actions.

Formats, sizes and memberships change when an action is constructed, so that later actions see the
planned state; a device enters or leaves the tree when its action is registered.
-/

namespace StoragePlan

/-! ## The log -/

/-- How serious a log record is. -/
inductive LogLevel where
  | info
  | warning
  | error
deriving DecidableEq, Repr, Inhabited

/-- The word for a level. -/
def LogLevel.label : LogLevel → String
  | info => "info"
  | warning => "warning"
  | error => "error"

/-- What a log record reports. -/
inductive LogEvent where
  | construct
  | register
  | reject
  | cancel
  | prune
  | sort
  | populate
deriving DecidableEq, Repr, Inhabited

/-- The word for an event. -/
def LogEvent.label : LogEvent → String
  | construct => "construct"
  | register => "register"
  | reject => "reject"
  | cancel => "cancel"
  | prune => "prune"
  | sort => "sort"
  | populate => "populate"

/-- One line of the log. -/
structure LogRecord where
  sequence : Nat
  level : LogLevel
  event : LogEvent
  /-- The action concerned; `0` when the record is about the whole plan. -/
  action : ObjectId
  message : String
deriving DecidableEq, Repr, Inhabited

/-! ## Sessions -/

/-- A device tree and a plan for it. -/
structure Session where
  tree : DeviceTree := {}
  /-- Every action ever constructed. -/
  actions : Arena Action := .empty
  /-- The registered actions, in order of registration. -/
  registry : List ObjectId := []
  /-- The serial number of the next action.  It is a number without a bound and stands for a machine
  word of 64 bits: the two agree until the word wraps, and as every action draws an id, too, the ids
  have run out by then. -/
  nextSerial : Nat := 1
  log : List LogRecord := []
  /-- The number of the next line of the log, without a bound as well: it stands for a word of 64
  bits and agrees with it for the first `2 ^ 64 - 1` lines. -/
  nextSequence : Nat := 1

/-- What a call on a session gives: its outcome and the session after it. -/
abbrev Answer (α : Type) := Outcome α × Session

/-- Go on with the value of a call that succeeded; a refusal stands as it is. -/
def Answer.andThen {α : Type} (a : Answer α) (next : α → Session → Answer α) : Answer α :=
  if a.1.ok then next a.1.value a.2 else a

namespace Session

instance : Inhabited Session := ⟨{}⟩

/-- The action with this id. -/
def action? (s : Session) (id : ObjectId) : Option Action := s.actions.find? id

/-- The registered actions, in order of registration. -/
def plan (s : Session) : List Action := s.registry.filterMap s.action?

/-- Whether an action is registered. -/
def isRegistered (s : Session) (id : ObjectId) : Bool := s.registry.contains id

/-- An action in words. -/
def describe (s : Session) (id : ObjectId) : String :=
  ((s.action? id).map s.tree.describe).getD "unknown action"

/-- The registered actions that concern a device and are of a type and on an object; what is left
open does not restrict. -/
def planWhere (s : Session) (device : Option ObjectId := none) (type : Option ActionType := none)
    (object : Option ActionObject := none) : List Action :=
  s.plan.filter fun a =>
    device.all a.concerns && type.all (a.type == ·) && object.all (a.object == ·)

/-- Whether an action has to run after another one. -/
def requires (s : Session) (a b : ObjectId) : Bool :=
  match s.action? a, s.action? b with
  | some a, some b => s.tree.requires a b
  | _, _ => false

/-- Whether an action makes another one unnecessary. -/
def obsoletes (s : Session) (a b : ObjectId) : Bool :=
  match s.action? a, s.action? b with
  | some a, some b => s.tree.obsoletes a b
  | _, _ => false

/-- Write a record into the log. -/
def record (s : Session) (level : LogLevel) (event : LogEvent) (action : ObjectId)
    (message : String) : Session :=
  { s with
    log := s.log ++ [{ sequence := s.nextSequence, level, event, action, message }]
    nextSequence := s.nextSequence + 1 }

/-- Forget the log; the numbering of records goes on. -/
def clearLog (s : Session) : Session := { s with log := [] }

/-- Move an action to a state. -/
def setState (s : Session) (id : ObjectId) (state : ActionState) : Session :=
  { s with actions := s.actions.modify id (fun a => { a with state }) fun _ => rfl }

/-- Take an action out of the registry and move it to a state. -/
def drop (s : Session) (id : ObjectId) (state : ActionState) : Session :=
  { s with registry := s.registry.filter (· ≠ id) }.setState id state

/-! ## Changes to the tree alone -/

/-- The answer of a change to the tree: the id that it answers and the ids that it touches. -/
def answerTree (s : Session) (result : Except Refusal (ObjectId × DeviceTree))
    (changes : ObjectId → Changes) : Answer ObjectId :=
  match result with
  | .error cause => (.refused cause, s)
  | .ok (id, tree) => ({ value := id, changes := changes id }, { s with tree })

/-- Make a device without putting it into the tree. -/
def newDevice (s : Session) (draft : DeviceDraft) : Answer ObjectId :=
  s.answerTree (s.tree.newDevice draft) fun _ => {}

/-- Make a format. -/
def newFormat (s : Session) (typeName : String) (mountPoint : String := "")
    (onMedia : Bool := false) : Answer ObjectId :=
  s.answerTree (s.tree.newFormat typeName mountPoint onMedia) fun _ => {}

/-- Put a stored device into the tree. -/
def addDevice (s : Session) (id : ObjectId) : Answer ObjectId :=
  s.answerTree ((s.tree.add id).map fun t => (id, t)) fun id => { created := [id] }

/-- Take a device out of the tree. -/
def removeDevice (s : Session) (id : ObjectId) (force : Bool) : Answer ObjectId :=
  s.answerTree ((s.tree.remove id force).map fun t => (id, t)) fun id => { deleted := [id] }

/-! ## What the small steps leave alone -/

@[simp] theorem record_tree (s : Session) (level : LogLevel) (event : LogEvent) (action : ObjectId)
    (message : String) : (s.record level event action message).tree = s.tree := rfl

@[simp] theorem record_actions (s : Session) (level : LogLevel) (event : LogEvent)
    (action : ObjectId) (message : String) :
    (s.record level event action message).actions = s.actions := rfl

@[simp] theorem record_registry (s : Session) (level : LogLevel) (event : LogEvent)
    (action : ObjectId) (message : String) :
    (s.record level event action message).registry = s.registry := rfl

@[simp] theorem setState_tree (s : Session) (id : ObjectId) (state : ActionState) :
    (s.setState id state).tree = s.tree := rfl

@[simp] theorem setState_registry (s : Session) (id : ObjectId) (state : ActionState) :
    (s.setState id state).registry = s.registry := rfl

@[simp] theorem drop_tree (s : Session) (id : ObjectId) (state : ActionState) :
    (s.drop id state).tree = s.tree := rfl

@[simp] theorem drop_registry (s : Session) (id : ObjectId) (state : ActionState) :
    (s.drop id state).registry = s.registry.filter (· ≠ id) := rfl

end Session

end StoragePlan

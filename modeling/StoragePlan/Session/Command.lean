import StoragePlan.Session.Adopt
import StoragePlan.Session.Prune
import StoragePlan.Session.Sort
import StoragePlan.Session.Teardown

/-!
# Commands

Every call that can change a session, as data.  `perform` carries one out; a run of a session is a
list of commands performed in turn.
-/

namespace StoragePlan

/-- A call that can change a session. -/
inductive Command where
  /-- Make a device without putting it into the tree. -/
  | newDevice (draft : DeviceDraft)
  | newFormat (typeName mountPoint : String) (onMedia : Bool)
  | addDevice (device : ObjectId)
  | removeDevice (device : ObjectId) (force : Bool)
  /-- Write values straight into a stored device, without any check. -/
  | editDevice (device : ObjectId) (patch : DevicePatch)
  | editFormat (format : ObjectId) (patch : FormatPatch)
  /-- Replace the counter from which ids are drawn. -/
  | setNextId (next : ObjectId)
  | adoptDevice (draft : DeviceDraft) (typeName mountPoint : String)
  | adoptDemo
  | propose (p : Proposal)
  | schedule (p : Proposal)
  | register (action : ObjectId)
  | cancel (action : ObjectId)
  | registerOrCancel (action : ObjectId)
  | removeStack (device : ObjectId) (includeSelf : Bool)
  | prune
  | sort
  | clearLog
deriving DecidableEq, Repr, Inhabited

/-- The answer to a command. -/
inductive Reply where
  /-- A call about one object. -/
  | object (o : Outcome ObjectId)
  /-- A call about a list of actions. -/
  | actions (o : Outcome (List ObjectId))
  /-- Whether a direct change found its object. -/
  | done (found : Bool)
  /-- The id that the next object receives. -/
  | nextId (id : ObjectId)
deriving DecidableEq, Repr, Inhabited

namespace Session

/-- Carry out a command. -/
def perform (s : Session) : Command → Reply × Session
  | .newDevice draft => (s.newDevice draft).map .object id
  | .newFormat typeName mountPoint onMedia =>
    (s.newFormat typeName mountPoint onMedia).map .object id
  | .addDevice device => (s.addDevice device).map .object id
  | .removeDevice device force => (s.removeDevice device force).map .object id
  | .editDevice device patch =>
    (s.tree.patchDevice device patch).map .done fun tree => { s with tree }
  | .editFormat format patch =>
    (s.tree.patchFormat format patch).map .done fun tree => { s with tree }
  | .setNextId next => (.nextId next, { s with tree := { s.tree with ids := ⟨next⟩ } })
  | .adoptDevice draft typeName mountPoint =>
    (s.adoptDevice draft typeName mountPoint).map .object id
  | .adoptDemo => s.adoptDemo.map .object id
  | .propose p => (s.propose p).map .object id
  | .schedule p => (s.schedule p).map .object id
  | .register action => (s.register action).map .object id
  | .cancel action => (s.cancel action).map .object id
  | .registerOrCancel action => (s.registerOrCancel action).map .object id
  | .removeStack device includeSelf => (s.removeStack device includeSelf).map .actions id
  | .prune => s.prune.map .actions id
  | .sort => s.sort.map .actions id
  | .clearLog => (.done true, s.clearLog)

/-- The session after a list of commands. -/
def performAll (s : Session) (commands : List Command) : Session :=
  commands.foldl (fun s command => (s.perform command).2) s

end Session

end StoragePlan

import StoragePlan.Session.Register

/-!
# Pruning the plan

Pruning drops the actions without a net effect.  First go all actions that concern a device which
the plan both creates and destroys.  Then the plan is swept from the newest action to the oldest:
each action that is still there removes what it makes unnecessary, and itself when it has no effect
or when one of the removed actions obsoletes it in turn.  Sweeps are repeated until one removes
nothing.
-/

namespace StoragePlan.Session

/-- Drop one action from the plan for a reason, and log it. -/
def pruneAction (s : Session) (reason : String) (id : ObjectId) : Session :=
  (s.drop id .pruned).record .info .prune id (s.describe id ++ " (" ++ reason ++ ")")

/-- Drop actions from the plan for one reason, in order. -/
def pruneAll (s : Session) (reason : String) (ids : List ObjectId) : Session :=
  ids.foldl (fun s id => s.pruneAction reason id) s

/-- The devices that registered actions of a kind are about. -/
def devicesOf (s : Session) (kind : ActionKind) : List ObjectId :=
  (s.plan.filter fun a => a.kind == kind).map Action.device

/-- The devices that the plan both creates and destroys. -/
def transientDevices (s : Session) : List ObjectId :=
  (s.devicesOf .destroyDevice).filter fun id => (s.devicesOf .createDevice).contains id

/-- The registered actions that concern a device which the plan both creates and destroys. -/
def transientActions (s : Session) : List ObjectId :=
  (s.plan.filter fun a => s.transientDevices.any a.concerns).map Action.id

/-- The other registered actions that an action makes unnecessary, in registry order. -/
def obsoletedBy (s : Session) (a : Action) : List Action :=
  s.plan.filter fun b => b.id != a.id && s.tree.obsoletes a b

/-- Whether an action goes together with what it removes: it obsoletes itself, or one of the actions
it makes unnecessary obsoletes it in turn. -/
def goesToo (s : Session) (a : Action) : Bool :=
  s.tree.obsoletes a a || (s.obsoletedBy a).any fun b => s.tree.obsoletes b a

/-- Remove what one registered action makes unnecessary, and the action itself if it goes too. -/
def pruneFor (s : Session) (a : Action) : List ObjectId × Session :=
  let others := (s.obsoletedBy a).map Action.id
  let without := s.pruneAll ("obsoleted by " ++ a.displayId) others
  if s.goesToo a then (others ++ [a.id], without.pruneAction "no net effect" a.id)
  else (others, without)

/-- Go through a list of actions; each one that is still registered removes what it makes
unnecessary. -/
def sweepOver (s : Session) : List ObjectId → List ObjectId × Session
  | [] => ([], s)
  | id :: rest =>
    match (s.action? id).filter fun a => s.isRegistered a.id with
    | none => s.sweepOver rest
    | some a =>
      let (pruned, after) := s.pruneFor a
      let (more, last) := after.sweepOver rest
      (pruned ++ more, last)

/-- One sweep over the plan, newest action first. -/
def sweep (s : Session) : List ObjectId × Session := s.sweepOver s.registry.reverse

/-- Sweep until nothing is removed any more. -/
def pruneObsolete (s : Session) : List ObjectId × Session :=
  let (pruned, after) := s.sweep
  if after.registry.length < s.registry.length then
    let (more, last) := after.pruneObsolete
    (pruned ++ more, last)
  else (pruned, after)
termination_by s.registry.length

/-- Drop every action without a net effect.  The value lists the dropped actions in order. -/
def prune (s : Session) : Answer (List ObjectId) :=
  let transient := s.transientActions
  let (obsolete, after) := (s.pruneAll "device is created and destroyed" transient).pruneObsolete
  let pruned := transient ++ obsolete
  ({ value := pruned, changes := { updated := pruned } }, after)

end StoragePlan.Session

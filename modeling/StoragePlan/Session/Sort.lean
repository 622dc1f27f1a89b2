import StoragePlan.Precedence
import StoragePlan.Session.Basic

/-!
# Sorting the plan

The registered actions in an order in which each one comes after all that it requires.  Of several
actions that could come next the one registered first is taken.  When actions wait for each other
there is no order, and the refusal names all that are left.
-/

namespace StoragePlan.Session

/-- A registered action and the registered actions that it has to wait for. -/
structure Step where
  action : Action
  requires : List ObjectId

/-- Whether a step waits for another one. -/
def Step.waitsFor (a b : Step) : Bool := a.requires.contains b.action.id

/-- The registered actions, each with those that it has to wait for. -/
def steps (s : Session) : List Step :=
  s.plan.map fun a =>
    { action := a, requires := (s.plan.filter fun b => s.tree.requires a b).map Action.id }

/-- The registered actions in order, and those that wait for each other. -/
def arrangement (s : Session) : List Step × List Step :=
  Precedence.arrange Step.waitsFor s.steps

/-- Sort the plan.  The registry itself stays as it is. -/
def sort (s : Session) : Answer (List ObjectId) :=
  let (order, stuck) := s.arrangement
  if stuck.isEmpty then
    ({ value := order.map fun step => step.action.id },
      s.record .info .sort 0 ("sorted " ++ s.registry.length.repr ++ " actions"))
  else
    let cause := Refusal.cycleAmong (stuck.map fun step => step.action.displayId)
    (.refused cause, s.record .error .sort 0 cause.message)

end StoragePlan.Session

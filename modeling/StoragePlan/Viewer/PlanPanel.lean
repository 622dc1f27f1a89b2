import StoragePlan.Viewer.Inspector

/-!
# The plan

The panel with the registered actions, each with a button that withdraws it, and the sorted plan.
-/

namespace StoragePlan.Viewer

/-- The label of the button that withdraws an action: it holds the action's id as a signed number of
32 bits. -/
def cancelLabel (id : ObjectId) : String := "Cancel#" ++ id.toUInt32.toInt32.toInt.repr

/-- The number of a step of the sorted plan, right-aligned in two columns. -/
def stepNumber (n : Nat) : String := String.ofList (List.leftpad 2 ' ' n.repr.toList)

/-- The sorted plan, line by line; actions that are not registered any more are left out. -/
def planLines (s : Session) (order : List ObjectId) : List String :=
  let actions := (order.filterMap s.action?).filter fun a => a.state == .registered
  (actions.zipIdx 1).map fun (a, n) => stepNumber n ++ ". " ++ shown (s.describe a.id)

namespace Frame

/-- The line of a registered action, with its button. -/
def registryItems (s : Session) (a : Action) : List Item :=
  [.button (cancelLabel a.id), .text (actionLine s a)]

/-- Withdraw the registered action whose button is pressed; of several the last one. -/
def cancelPressed (g : Gesture) (actions : List Action) (f : Frame) : Frame :=
  match (actions.filter fun a => g.presses (cancelLabel a.id)).getLast? with
  | none => f
  | some a => f.callOnly ("cancel " ++ a.displayId) fun s => s.cancel a.id

/-- The sorted plan, as long as it is valid. -/
def sortedSection (f : Frame) : Frame :=
  let f := f.draw (.disabled "Sorted plan")
  if f.panels.planValid then f.drawAll ((planLines f.session f.panels.sortedPlan).map .text)
  else f.draw (.disabled "Press Sort in the toolbox")

/-- The plan. -/
def planPanel (g : Gesture) (f : Frame) : Frame :=
  let s := f.session
  let heading := "Registered actions (" ++ s.registry.length.repr ++ ")"
  let f := (f.draw (.text heading)).drawAll (s.plan.flatMap (registryItems s))
  (f.cancelPressed g s.plan).sortedSection

end Frame

end StoragePlan.Viewer

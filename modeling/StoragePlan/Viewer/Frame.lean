import StoragePlan.Viewer.State

/-!
# Frames

A frame carries the session, the state of the viewer and what is drawn so far.  A panel is a chain
of steps on a frame: items are drawn in turn, and a button acts at its place in the chain, so what
is drawn after it shows the new state.
-/

namespace StoragePlan.Viewer

/-- The session, the state of the viewer and what a panel has drawn so far. -/
structure Frame where
  session : Session := {}
  panels : PanelState := {}
  drawn : List Item := []

namespace Frame

instance : Inhabited Frame := ⟨{}⟩

/-- Draw one item. -/
def draw (f : Frame) (item : Item) : Frame := { f with drawn := f.drawn ++ [item] }

/-- Draw a list of items. -/
def drawAll (f : Frame) (items : List Item) : Frame := { f with drawn := f.drawn ++ items }

/-- Change the state of the viewer. -/
def setPanels (f : Frame) (change : PanelState → PanelState) : Frame :=
  { f with panels := change f.panels }

/-- Add a line to the history. -/
def note (f : Frame) (line : String) : Frame := f.setPanels fun panels => panels.note line

/-- Draw a button, and act if it is pressed. -/
def button (f : Frame) (g : Gesture) (label : String) (act : Frame → Frame) : Frame :=
  let f := f.draw (.button label)
  if g.presses label then act f else f

/-- Make a call on the session, report it, and go on with its value if it succeeded. -/
def call {α : Type} (f : Frame) (what : String) (make : Session → Answer α)
    (next : α → Frame → Frame) : Frame :=
  let (o, session) := make f.session
  let f := { f with session, panels := f.panels.report what o.refusal }
  if o.ok then next o.value f else f

/-- Make a call on the session and report it. -/
def callOnly {α : Type} (f : Frame) (what : String) (make : Session → Answer α) : Frame :=
  f.call what make fun _ f => f

/-- Schedule a proposal and report it. -/
def schedule (f : Frame) (what : String) (p : Proposal) : Frame :=
  f.callOnly what fun s => s.schedule p

end Frame

end StoragePlan.Viewer

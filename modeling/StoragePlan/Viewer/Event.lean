import StoragePlan.Viewer.Diagnostics
import StoragePlan.Viewer.Layout
import StoragePlan.Viewer.PlanPanel
import StoragePlan.Viewer.Toolbox
import StoragePlan.Viewer.TopBar

/-!
# Events of the viewer

One frame of one panel, or one click into the graph, as data.  A run of the viewer is a list of
events handled in turn, beginning with a fresh session and a fresh viewer.
-/

namespace StoragePlan.Viewer

/-- A click into the graph. -/
structure Click where
  x : Int
  y : Int
  /-- Whether the mouse belongs to a panel. -/
  captured : Bool := false
  /-- Whether the button went down in this frame. -/
  pressed : Bool := true
deriving DecidableEq, Repr, Inhabited

/-- One frame of one panel, or one click into the graph. -/
inductive Event where
  | pick (click : Click)
  | toolbox (g : Gesture)
  | inspector (g : Gesture)
  | plan (g : Gesture)
  | diagnostics (g : Gesture)
  | topBar (g : Gesture)
deriving DecidableEq, Repr, Inhabited

/-- The size of a device in whole MiB, as a signed number of 32 bits. -/
def mibOf (size : ByteSize) : Int32 := (size / mebibytes 1).toUInt32.toInt32

namespace Frame

/-- The placed device under a point. -/
def deviceAt? (f : Frame) (x y : Int) : Option ObjectId :=
  ((places f.session).find? fun p => p.covers x y).map Place.device

/-- Select the device under the pointer, and offer its own size for a resize. -/
def pick (click : Click) (f : Frame) : Frame :=
  if click.captured || !click.pressed then f
  else match f.deviceAt? click.x click.y with
  | none => f.setPanels fun panels => { panels with selected := 0 }
  | some id =>
    match f.session.tree.device? id with
    | none => f.setPanels fun panels => { panels with selected := id }
    | some device =>
      f.setPanels fun panels => { panels with selected := id, mib := mibOf device.size }

/-- Handle an event in a new frame. -/
def handle (f : Frame) (event : Event) : Frame :=
  let f := { f with drawn := [] }
  match event with
  | .pick click => f.pick click
  | .toolbox g => f.toolbox g
  | .inspector g => f.inspector g
  | .plan g => f.planPanel g
  | .diagnostics g => f.diagnostics g
  | .topBar g => f.topBar g

/-- Handle a list of events. -/
def handleAll (f : Frame) (events : List Event) : Frame := events.foldl handle f

end Frame

end StoragePlan.Viewer

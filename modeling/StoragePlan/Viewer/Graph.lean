import StoragePlan.Viewer.Layout
import StoragePlan.Viewer.State
import StoragePlan.Tree.Resize

/-!
# The device graph

The shapes of which the graph is made: a line from each parent to its child, and for each device a
filled box, its outline and two or three lines of text.  The shapes form a set; they are listed in
the order of their texts.
-/

namespace StoragePlan.Viewer

/-- A shape of the graph. -/
inductive Shape where
  | line (x y toX toY thickness : Nat) (color : Color)
  | box (x y width height : Nat) (color : Color)
  | outline (x y width height thickness : Nat) (color : Color)
  | label (x y fontSize : Nat) (color : Color) (text : String)
deriving DecidableEq, Repr, Inhabited

/-- A shape as a list of texts. -/
def Shape.words : Shape → List String
  | line x y toX toY thickness color =>
    "line" :: [x, y, toX, toY, thickness].map Nat.repr ++ [colorText color]
  | box x y width height color => "rect" :: [x, y, width, height].map Nat.repr ++ [colorText color]
  | outline x y width height thickness color =>
    "outline" :: [x, y, width, height, thickness].map Nat.repr ++ [colorText color]
  | label x y fontSize color text =>
    "label" :: [x, y, fontSize].map Nat.repr ++ [colorText color, text]
where
  /-- A colour as text: its four components. -/
  colorText (color : Color) : String := " ".intercalate (color.components.map Nat.repr)

/-- The colour of edges. -/
def edgeColor : Color := { red := 120, green := 130, blue := 140 }

/-- The colour of outlines. -/
def outlineColor : Color := { red := 20, green := 24, blue := 28 }

/-- The colour of the outline of the selected device. -/
def selectedColor : Color := { red := 253, green := 249, blue := 0 }

/-- The colour of names. -/
def nameColor : Color := { red := 245, green := 245, blue := 245 }

/-- The colour of the other texts. -/
def detailColor : Color := { red := 200, green := 200, blue := 200 }

/-- The lines from the parents of a placed device that are placed too. -/
def edgesTo (t : DeviceTree) (placed : List Place) (p : Place) : List Shape :=
  (t.parentsOf p.device).filterMap fun parent =>
    (placed.find? fun q => q.device == parent).map fun q =>
      .line q.middle q.bottom p.middle p.y 2 edgeColor

/-- What a device is, in one line: its kind, and the type of what it holds. -/
def kindText (t : DeviceTree) (device : Device) : String :=
  match t.content? device.id with
  | none => device.kind.label
  | some format => device.kind.label ++ " / " ++ format.typeName

/-- The box of a device, with its outline and texts. -/
def node (t : DeviceTree) (panels : PanelState) (p : Place) (device : Device) : List Shape :=
  let outline : Shape :=
    if p.device = panels.selected then
      .outline p.x p.y grid.nodeWidth grid.nodeHeight 3 selectedColor
    else .outline p.x p.y grid.nodeWidth grid.nodeHeight 1 outlineColor
  let size : List Shape :=
    if panels.showSizes then
      [.label (p.x + 6) (p.y + 37) 12 detailColor (sizeText (t.capacity p.device))]
    else []
  [ .box p.x p.y grid.nodeWidth grid.nodeHeight (colorOf t device),
    outline,
    .label (p.x + 6) (p.y + 4) 16 nameColor (shown device.name),
    .label (p.x + 6) (p.y + 22) 12 detailColor (shown (kindText t device)) ] ++ size

/-- The shapes of the graph, device by device. -/
def shapes (s : Session) (panels : PanelState) : List Shape :=
  let placed := places s
  placed.flatMap (edgesTo s.tree placed) ++ placed.flatMap fun p =>
    ((s.tree.device? p.device).map (node s.tree panels p)).getD []

/-- The shapes of the graph as texts, in order. -/
def graph (s : Session) (panels : PanelState) : List (List String) :=
  ((shapes s panels).map Shape.words).mergeSort fun a b => !decide (b < a)

end StoragePlan.Viewer

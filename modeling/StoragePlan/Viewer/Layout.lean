import StoragePlan.Session.Basic

/-!
# The layout of the device graph

The devices are placed in layers, one below the other: a device stands one layer below the lowest of
its parents.  Within a layer the devices stand side by side in the order in which they are shown.
-/

namespace StoragePlan.Viewer

/-- The size of a node and the distances between nodes. -/
structure Grid where
  nodeWidth : Nat
  nodeHeight : Nat
  columnSpacing : Nat
  layerSpacing : Nat
deriving DecidableEq, Repr

/-- The grid on which the graph is drawn. -/
def grid : Grid where
  nodeWidth := 150
  nodeHeight := 54
  columnSpacing := 170
  layerSpacing := 110

/-- The devices that are shown: those in the tree, then those that a registered action destroys, so
that a pending teardown stays visible. -/
def shownIds (s : Session) : List ObjectId :=
  (s.plan.filter fun a => a.kind == .destroyDevice).foldl
    (fun ids a => if ids.contains a.device then ids else ids ++ [a.device]) s.tree.order

/-! ## Layers -/

/-- The layers found so far; of several entries for one device the first counts. -/
abbrev Layers := List (ObjectId × Nat)

/-- How many edges are followed up from a device. -/
def maxDepth : Nat := 32

/-- Find the layer of a device, following at most `depth` edges: one more than the lowest layer
among its parents, `0` when it has none or when no edge may be followed.  Every layer found on the
way is remembered, and a remembered layer is not looked for again. -/
def findLayer (t : DeviceTree) (depth : Nat) (known : Layers) (id : ObjectId) : Nat × Layers :=
  match known.lookup id with
  | some layer => (layer, known)
  | none =>
    match depth with
    | 0 => (0, (id, 0) :: known)
    | depth + 1 =>
      let (layer, known) := (t.parentsOf id).foldl
        (fun (layer, known) parent =>
          let (above, known) := findLayer t depth known parent
          (max layer (above + 1), known))
        (0, known)
      (layer, (id, layer) :: known)

/-! ## Places -/

/-- Where a device stands in the graph. -/
structure Place where
  device : ObjectId
  column : Nat
  layer : Nat
deriving DecidableEq, Repr, Inhabited

namespace Place

/-- The left edge of a node. -/
def x (p : Place) : Nat := p.column * grid.columnSpacing

/-- The top edge of a node. -/
def y (p : Place) : Nat := p.layer * grid.layerSpacing

/-- The horizontal middle of a node. -/
def middle (p : Place) : Nat := p.x + grid.nodeWidth / 2

/-- The bottom edge of a node. -/
def bottom (p : Place) : Nat := p.y + grid.nodeHeight

/-- Whether a point lies on a node; the right and bottom edges do not belong to it. -/
def covers (p : Place) (x y : Int) : Bool :=
  (p.x : Int) ≤ x && x < (p.x + grid.nodeWidth : Nat) && (p.y : Int) ≤ y && y < (p.bottom : Nat)

end Place

/-- Place one more device: in its layer, behind the devices of that layer placed before. -/
def placeNext (t : DeviceTree) (placed : List Place × Layers) (id : ObjectId) :
    List Place × Layers :=
  let (layer, known) := findLayer t maxDepth placed.2 id
  let column := placed.1.countP fun p => p.layer == layer
  (placed.1 ++ [{ device := id, column, layer }], known)

/-- Place devices in the order given. -/
def layout (t : DeviceTree) (ids : List ObjectId) : List Place :=
  (ids.foldl (placeNext t) ([], [])).1

/-- The places of the devices shown. -/
def places (s : Session) : List Place := layout s.tree (shownIds s)

/-! ## Colours -/

/-- A colour: red, green, blue and opacity. -/
structure Color where
  red : Nat
  green : Nat
  blue : Nat
  opacity : Nat := 255
deriving DecidableEq, Repr, Inhabited

/-- The components of a colour. -/
def Color.components (c : Color) : List Nat := [c.red, c.green, c.blue, c.opacity]

/-- The colour of a node: one for devices outside the tree, one for proposed devices, one for
pending resizes and one for all others. -/
def colorOf (t : DeviceTree) (device : Device) : Color :=
  if t.contains device.id = false then { red := 150, green := 60, blue := 60 }
  else if device.onMedia = false then { red := 60, green := 130, blue := 80 }
  else if device.targetSize ≠ 0 then { red := 170, green := 130, blue := 50 }
  else { red := 60, green := 90, blue := 130 }

end StoragePlan.Viewer

import StoragePlan.Viewer.Frame

/-!
# The top bar

The switches of the viewer, the width of the workspace, and the size of the session in numbers.
-/

namespace StoragePlan.Viewer

/-- The width of the workspace until another one is set. -/
def defaultWidth : Nat := 440

/-- The least width that the slider takes. -/
def minWidth : Nat := 300

/-- The greatest width that the slider takes. -/
def maxWidth : Nat := 760

/-- The size of a session in numbers. -/
def countsLine (s : Session) : String :=
  "Devices:" ++ s.tree.order.length.repr ++ "  Registered:" ++ s.registry.length.repr
    ++ "  Log:" ++ s.log.length.repr

namespace Frame

/-- A switch; pressing it flips it. -/
def checkbox (g : Gesture) (label : String) (read : PanelState → Bool)
    (write : Bool → PanelState → PanelState) (f : Frame) : Frame :=
  let on := read f.panels ^^ g.presses label
  (f.setPanels (write on)).draw (.checkbox label on)

/-- The slider for the width of the workspace. -/
def widthSlider (g : Gesture) (f : Frame) : Frame :=
  let width := if f.panels.width ≤ 1 then defaultWidth else f.panels.width
  let width := match g.width with
    | some w => if (minWidth : Int) ≤ w ∧ w ≤ maxWidth then w.toNat else width
    | none => width
  (f.setPanels fun panels => { panels with width }).draw
    (.slider "##WorkspaceWidth" ("W " ++ width.repr))

/-- The top bar. -/
def topBar (g : Gesture) (f : Frame) : Frame :=
  let f := f.checkbox g "Show Workspace" PanelState.showWorkspace
    fun on panels => { panels with showWorkspace := on }
  let f := f.checkbox g "Sizes" PanelState.showSizes
    fun on panels => { panels with showSizes := on }
  (f.widthSlider g).drawAll
    [ .text (countsLine f.session), .colored .new "| new", .colored .resize "resize",
      .colored .destroy "destroy" ]

end Frame

end StoragePlan.Viewer

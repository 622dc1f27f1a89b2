import StoragePlan.Id

/-!
# What a panel shows and what a user does

A panel is shown anew in every frame, as a list of items.  What the user does in that frame is a
gesture: which widgets are pressed, whether a list is opened, what is chosen in it, and which values
are typed.
-/

namespace StoragePlan.Viewer

/-- A text as it appears on the screen: up to its first NUL. -/
def shown (s : String) : String := String.ofList (s.toList.takeWhile (· ≠ '\x00'))

/-- The colours of coloured texts. -/
inductive Tint where
  | new
  | resize
  | destroy
  | error
  | warning
deriving DecidableEq, Repr, Inhabited

/-- A colour in hundredths of red, green, blue and opacity. -/
def Tint.hundredths : Tint → List Nat
  | new => [40, 80, 50, 100]
  | resize => [80, 60, 30, 100]
  | destroy => [80, 35, 35, 100]
  | error => [90, 40, 40, 100]
  | warning => [90, 80, 40, 100]

/-- A number of hundredths with its two decimals. -/
def hundredthsText (n : Nat) : String :=
  (n / 100).repr ++ "." ++ (n / 10 % 10).repr ++ (n % 10).repr

/-- A colour as text: its four components. -/
def Tint.text (tint : Tint) : String := " ".intercalate (tint.hundredths.map hundredthsText)

/-- An item of a panel. -/
inductive Item where
  | text (s : String)
  | disabled (s : String)
  | wrapped (s : String)
  | bullet (s : String)
  | colored (tint : Tint) (s : String)
  | button (label : String)
  /-- A list to choose from, with its present choice. -/
  | combo (label current : String)
  /-- An entry of an opened list. -/
  | entry (label : String) (current : Bool)
  | input (label : String) (value : Int32)
  | checkbox (label : String) (on : Bool)
  | slider (label value : String)
deriving DecidableEq, Repr, Inhabited

/-- What the user does in one frame. -/
structure Gesture where
  /-- The labels of the widgets that are pressed. -/
  pressed : List String := []
  /-- Whether the list of disks is opened. -/
  opened : Bool := false
  /-- The entry chosen in an opened list. -/
  chosen : String := ""
  /-- The format type chosen, by its place in the list. -/
  formatIndex : Option Int := none
  /-- The size typed, in MiB. -/
  mib : Option Int32 := none
  /-- The width that the slider is moved to. -/
  width : Option Int := none
deriving DecidableEq, Repr, Inhabited

/-- Whether the widget with this label is pressed. -/
def Gesture.presses (g : Gesture) (label : String) : Bool := g.pressed.contains label

end StoragePlan.Viewer

import StoragePlan.Viewer.Screen
import StoragePlan.Session.Command

/-!
# The state of the viewer

What the viewer remembers between frames beside the session itself.  Every call that a panel makes
is reported here: the last error, a short history, and the loss of the sorted plan, which is shown
only as long as nothing was called since.
-/

namespace StoragePlan.Viewer

/-- What the viewer remembers between frames. -/
structure PanelState where
  /-- The device picked in the graph; `0` when none is. -/
  selected : ObjectId := 0
  /-- The disk chosen for teardown, by its place among the disks. -/
  diskIndex : Nat := 0
  /-- The size in the resize field. -/
  mib : Int32 := 0
  /-- The format type chosen, by its place in the list. -/
  formatIndex : Nat := 0
  sortedPlan : List ObjectId := []
  /-- Whether the sorted plan is shown. -/
  planValid : Bool := false
  /-- How many volume groups were laid out on empty disks.  It is a number without a bound and
  stands for a signed one of 32 bits, with which it agrees up to `2 ^ 31 - 1` groups. -/
  autopartSerial : Nat := 0
  showSizes : Bool := true
  showWorkspace : Bool := true
  /-- The width of the workspace; at most `1` while it was never set. -/
  width : Nat := 0
  lastError : String := ""
  logs : List String := []
deriving DecidableEq, Repr, Inhabited

namespace PanelState

/-- How many lines the history keeps. -/
def historyLength : Nat := 12

/-- Add a line to the history, which drops its oldest line when it is full. -/
def note (panels : PanelState) (line : String) : PanelState :=
  let logs := panels.logs ++ [line]
  { panels with logs := if historyLength < logs.length then logs.drop 1 else logs }

/-- Report a call by what it was about and why it was refused, if it was. -/
def report (panels : PanelState) (what : String) (refusal : Option Refusal) : PanelState :=
  match refusal with
  | none => { panels with planValid := false, lastError := "" }.note ("[ok] " ++ what)
  | some cause =>
    let lastError := what ++ ": " ++ cause.message ++ " (" ++ cause.fault.label ++ ")"
    { panels with planValid := false, lastError }.note ("[error] " ++ what ++ " failed")

end PanelState

end StoragePlan.Viewer

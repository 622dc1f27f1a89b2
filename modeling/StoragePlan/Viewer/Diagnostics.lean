import StoragePlan.Viewer.Frame
import StoragePlan.Session.Validate

/-!
# Diagnostics

The panel with the issues of the session, its log, the last error and the history of calls.
-/

namespace StoragePlan.Viewer

/-- How many of the latest log records are shown. -/
def shownRecords : Nat := 200

/-- The short word for a level. -/
def levelWord : LogLevel → String
  | .info => "info"
  | .warning => "warn"
  | .error => "error"

/-- A log record on one line. -/
def recordLine (r : LogRecord) : String :=
  "#" ++ r.sequence.repr ++ " [" ++ levelWord r.level ++ "] " ++ r.event.label ++ ": "
    ++ shown r.message

/-- An issue as a coloured text. -/
def issueItem (issue : Issue) : Item :=
  let tint : Tint := match issue.severity with
    | .error => .error
    | .warning => .warning
  .colored tint (issue.code ++ ": " ++ shown issue.message)

namespace Frame

/-- The issues of the session. -/
def issuesSection (f : Frame) : Frame :=
  let issues := f.session.validate
  let verdict := if Issue.anyError issues then "errors" else "ok"
  (f.draw (.text ("Validation: " ++ verdict ++ " (" ++ issues.length.repr ++ " issues)"))).drawAll
    (issues.map issueItem)

/-- The latest log records, and the button that clears the log. -/
def logSection (g : Gesture) (f : Frame) : Frame :=
  let f := (f.draw (.disabled "Plan log")).button g "Clear" fun f =>
    { f with session := f.session.clearLog }
  let log := f.session.log
  f.drawAll ((log.drop (log.length - shownRecords)).map fun r => .text (recordLine r))

/-- The last error and the history of calls. -/
def historySection (f : Frame) : Frame :=
  let f := if f.panels.lastError = "" then f else
    f.draw (.wrapped ("Error: " ++ shown f.panels.lastError))
  f.drawAll (f.panels.logs.map fun line => .wrapped (shown line))

/-- Diagnostics. -/
def diagnostics (g : Gesture) (f : Frame) : Frame :=
  (f.issuesSection.logSection g).historySection

end Frame

end StoragePlan.Viewer

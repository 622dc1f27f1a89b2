import StoragePlan.Session.Basic
import StoragePlan.Tree.Graph

/-!
# Checking a session

The issues that a session shows: what is wrong with the tree, device by device, then actions whose
state does not match the registry, then devices that the plan both creates and destroys.
-/

namespace StoragePlan

/-- How bad an issue is. -/
inductive Severity where
  | error
  | warning
deriving DecidableEq, Repr, Inhabited

/-- The word for a severity. -/
def Severity.label : Severity → String
  | error => "error"
  | warning => "warning"

/-- The severity that a word names. -/
def Severity.ofLabel? (word : String) : Option Severity :=
  [error, warning].find? fun severity => severity.label == word

/-- Whether a list of severities holds an error. -/
def Severity.anyError (severities : List Severity) : Bool := severities.contains error

/-- Something wrong with a session. -/
inductive Issue where
  | duplicateName (device : ObjectId) (name : String)
  | parentNotInTree (device : ObjectId) (name : String)
  | parentCycle (device : ObjectId) (name : String)
  | formatMissing (device : ObjectId) (name : String)
  | actionStateMismatch (action : ObjectId) (displayId : String) (state : ActionState)
      (listed : Bool)
  | createDestroyPending (device : ObjectId)
deriving DecidableEq, Repr, Inhabited

namespace Issue

/-- How bad an issue is: only a device that is created and destroyed is merely warned of. -/
def severity : Issue → Severity
  | createDestroyPending _ => .warning
  | _ => .error

/-- The name of an issue. -/
def code : Issue → String
  | duplicateName .. => "DuplicateDeviceName"
  | parentNotInTree .. => "ParentNotInTree"
  | parentCycle .. => "ParentCycle"
  | formatMissing .. => "FormatMissing"
  | actionStateMismatch .. => "ActionStateMismatch"
  | createDestroyPending _ => "CreateDestroyPending"

/-- The text of an issue. -/
def message : Issue → String
  | duplicateName _ name => "device name '" ++ name ++ "' is used twice"
  | parentNotInTree _ name => name ++ " has a parent outside the tree"
  | parentCycle _ name => name ++ " depends on itself"
  | formatMissing _ name => name ++ " has no format"
  | actionStateMismatch _ displayId state listed =>
    displayId ++ " is " ++ state.label
      ++ if listed then " but registered" else " but not registered"
  | createDestroyPending _ => "device is created and destroyed; prune the plan"

/-- The device or action that an issue is about. -/
def object : Issue → ObjectId
  | duplicateName device _ => device
  | parentNotInTree device _ => device
  | parentCycle device _ => device
  | formatMissing device _ => device
  | actionStateMismatch action .. => action
  | createDestroyPending device => device

/-- Whether a list of issues holds an error. -/
def anyError (issues : List Issue) : Bool := Severity.anyError (issues.map severity)

end Issue

namespace DeviceTree

/-- Whether a device is built on itself. -/
def onCycle (t : DeviceTree) (device : Device) : Bool :=
  device.parents.any fun parent => parent == device.id || t.dependsOn parent device.id

/-- The issues of a present device, given the names of the present devices before it. -/
def deviceIssues (t : DeviceTree) (earlier : List String) (device : Device) : List Issue :=
  (if device.name ∈ earlier then [.duplicateName device.id device.name] else [])
    ++ (device.parents.filter fun parent => !t.contains parent).map
      (fun _ => .parentNotInTree device.id device.name)
    ++ (if t.onCycle device then [.parentCycle device.id device.name] else [])
    ++ (if (t.format? device.formatId).isNone then [.formatMissing device.id device.name] else [])

theorem mem_deviceIssues {t : DeviceTree} {earlier : List String} {device : Device}
    {issue : Issue} : issue ∈ t.deviceIssues earlier device ↔
      (device.name ∈ earlier ∧ issue = .duplicateName device.id device.name) ∨
      ((∃ p ∈ device.parents, t.contains p = false) ∧
        issue = .parentNotInTree device.id device.name) ∨
      (t.onCycle device = true ∧ issue = .parentCycle device.id device.name) ∨
      (t.format? device.formatId = none ∧ issue = .formatMissing device.id device.name) := by
  have hOne : ∀ (P : Prop) [Decidable P] (x : Issue),
      issue ∈ (if P then [x] else []) ↔ P ∧ issue = x := by
    intro P _ x
    by_cases hP : P <;> simp [hP]
  have hMap : ∀ (parents : List ObjectId) (x : Issue),
      issue ∈ parents.map (fun _ => x) ↔ (∃ p, p ∈ parents) ∧ issue = x := by
    intro parents x
    rw [List.mem_map]
    exact ⟨fun ⟨p, hp, hx⟩ => ⟨⟨p, hp⟩, hx.symm⟩, fun ⟨⟨p, hp⟩, hx⟩ => ⟨p, hp, hx.symm⟩⟩
  simp only [deviceIssues, List.mem_append, hOne, hMap, List.mem_filter, Bool.not_eq_true',
    Option.isNone_iff_eq_none, or_assoc]

/-- The issues of a list of present devices, given the names of those before them. -/
def issuesFrom (t : DeviceTree) (earlier : List String) : List Device → List Issue
  | [] => []
  | device :: rest =>
    t.deviceIssues earlier device ++ t.issuesFrom (earlier ++ [device.name]) rest

end DeviceTree

namespace Session

/-- The actions whose state does not match their place in the registry. -/
def stateIssues (s : Session) : List Issue :=
  (s.actions.items.filter fun a => s.isRegistered a.id != (a.state == .registered)).map fun a =>
    .actionStateMismatch a.id a.displayId a.state (s.isRegistered a.id)

/-- The registered destructions of devices that the plan creates too. -/
def pendingIssues (s : Session) : List Issue :=
  let created := (s.planWhere none (some .create) (some .device)).map Action.device
  ((s.planWhere none (some .destroy) (some .device)).map Action.device).filter created.contains
    |>.map .createDestroyPending

/-- Everything that is wrong with a session. -/
def validate (s : Session) : List Issue :=
  s.tree.issuesFrom [] s.tree.present ++ s.stateIssues ++ s.pendingIssues

end Session

end StoragePlan

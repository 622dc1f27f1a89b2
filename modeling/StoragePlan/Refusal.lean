import StoragePlan.Action.Basic

/-!
# Refusals

Why a call is refused.  Every cause has a text, `Refusal.message`, and belongs to one of four kinds
of fault, `Refusal.fault`: a construction whose conditions fail, a device whose presence does not
match the tree, an operation that is not possible now, and a plan that cannot be ordered.
-/

namespace StoragePlan

/-- The kinds of fault. -/
inductive Fault where
  /-- The conditions of a construction do not hold. -/
  | invalidAction
  /-- The presence of a device does not match the tree. -/
  | deviceTreeError
  /-- The operation is not possible now. -/
  | invalidOperation
  /-- The plan cannot be ordered. -/
  | dependencyCycle
deriving DecidableEq, Repr, Inhabited

namespace Fault

/-- Every fault, in order. -/
def all : List Fault := [invalidAction, deviceTreeError, invalidOperation, dependencyCycle]

/-- The name of a fault. -/
def label : Fault → String
  | invalidAction => "InvalidAction"
  | deviceTreeError => "DeviceTreeError"
  | invalidOperation => "InvalidOperation"
  | dependencyCycle => "DependencyCycle"

/-- The name of a possible fault: `None` when there is none. -/
def labelOf (fault : Option Fault) : String := (fault.map label).getD "None"

/-- The name of the possible fault with this number; `0` stands for none. -/
def labelOfNumber (n : Nat) : String :=
  ((none :: all.map some)[n]?.map labelOf).getD "Unknown"

end Fault

/-- The causes for which a call is refused. -/
inductive Refusal where
  -- a new device or format
  | emptyName
  | parentMissing
  | parentRepeated
  | parentsNotTaken
  | partitionParent
  | partitionNumber
  | volumeGroupParent
  | backingDevice
  | formatTypeUnknown (name : String)
  -- putting a device into the tree and taking it out
  | deviceMissing
  | nameInTree (name : String)
  | parentOutsideTree (name : String)
  | nameInUse (name : String)
  | notInTree
  | hasDependents (name : String)
  | containerNotInTree
  | alreadyInTree
  -- constructing an action
  | unknownDevice
  | unknownFormat
  | alreadyThere (name : String)
  | notThere (name : String)
  | deviceFixedSize (name : String)
  | sameSize
  | deviceSizeOutOfBounds (size : ByteSize) (name : String)
  | formatNotThere
  | formatFixedSize (typeName : String)
  | formatSizeOutOfBounds (size : ByteSize)
  | memberCycle
  | alreadyMember (container : String)
  | notMember (container : String)
  | idCollision
  -- moving an action through its life
  | unknownAction
  | registerInState (state : ActionState)
  | cancelInState (state : ActionState)
  /-- The withdrawal of the action with this name is blocked. -/
  | cancelBlocked (displayId : String) (cause : Refusal)
  /-- A registration was refused, and so was the withdrawal that follows it. -/
  | alsoCancel (registration cancellation : Refusal)
  -- whole plans
  | noRemovableLeaf
  /-- The actions with these names wait for each other. -/
  | cycleAmong (displayIds : List String)
deriving DecidableEq, Repr, Inhabited

namespace Refusal

/-- The text of a refusal. -/
def message : Refusal → String
  | emptyName => "device name must not be empty"
  | parentMissing => "parent device does not exist"
  | parentRepeated => "parent device listed twice"
  | parentsNotTaken => "disks and files take no parents"
  | partitionParent => "partition needs exactly one parent disk"
  | partitionNumber => "partition name must end with its number"
  | volumeGroupParent => "logical volume needs exactly one volume group parent"
  | backingDevice => "mapper device needs exactly one backing device"
  | formatTypeUnknown name => "unknown format type '" ++ name ++ "'"
  | deviceMissing => "device does not exist"
  | nameInTree name => "device '" ++ name ++ "' is already in the tree"
  | parentOutsideTree name => "parent of '" ++ name ++ "' is not in the tree"
  | nameInUse name => "device name '" ++ name ++ "' is already in use"
  | notInTree => "device is not in the tree"
  | hasDependents name => "cannot remove '" ++ name ++ "': other devices depend on it"
  | containerNotInTree => "container is not in the tree"
  | alreadyInTree => "device is already in the tree"
  | unknownDevice => "unknown device"
  | unknownFormat => "unknown format"
  | alreadyThere name => "device " ++ name ++ " already exists"
  | notThere name => "device " ++ name ++ " does not exist"
  | deviceFixedSize name => "device " ++ name ++ " is not resizable"
  | sameSize => "new size same as old size"
  | deviceSizeOutOfBounds size name =>
    "new size " ++ sizeText size ++ " out of bounds for " ++ name
  | formatNotThere => "format does not exist"
  | formatFixedSize typeName => "format " ++ typeName ++ " is not resizable"
  | formatSizeOutOfBounds size => "new size " ++ sizeText size ++ " out of bounds for format"
  | memberCycle => "member would depend on its own container"
  | alreadyMember container => "device is already a member of " ++ container
  | notMember container => "device is not a member of " ++ container
  | idCollision => "action id collision"
  | unknownAction => "unknown action"
  | registerInState state => "cannot register a " ++ state.label ++ " action"
  | cancelInState state => "cannot cancel a " ++ state.label ++ " action"
  | cancelBlocked displayId cause => "cannot cancel " ++ displayId ++ ": " ++ cause.message
  | alsoCancel registration cancellation => registration.message ++ "; " ++ cancellation.message
  | noRemovableLeaf => "no removable leaf above device"
  | cycleAmong displayIds => "dependency cycle among " ++ ", ".intercalate displayIds

/-- The kind of fault that a cause belongs to. -/
def fault : Refusal → Fault
  | emptyName | parentMissing | parentRepeated | parentsNotTaken | partitionParent
  | partitionNumber | volumeGroupParent | backingDevice | formatTypeUnknown _
  | hasDependents _ | unknownAction | registerInState _ | cancelInState _ | noRemovableLeaf =>
    .invalidOperation
  | deviceMissing | nameInTree _ | parentOutsideTree _ | nameInUse _ | notInTree
  | containerNotInTree | alreadyInTree => .deviceTreeError
  | unknownDevice | unknownFormat | alreadyThere _ | notThere _ | deviceFixedSize _ | sameSize
  | deviceSizeOutOfBounds _ _ | formatNotThere | formatFixedSize _ | formatSizeOutOfBounds _
  | memberCycle | alreadyMember _ | notMember _ | idCollision => .invalidAction
  | cancelBlocked _ cause => cause.fault
  | alsoCancel registration _ => registration.fault
  | cycleAmong _ => .dependencyCycle

end Refusal

end StoragePlan

import StoragePlan.Arena
import StoragePlan.Size

/-!
# Actions

An action is a proposed operation on a device.  For a membership action the device is the member and
the container travels with the operation.  An action remembers what it displaced (the previous
format, the previous target size, the member's position), so that it can be withdrawn.

Actions are classified by what they do (`ActionType`), what they do it to (`ActionObject`) and where
they stand in their life (`ActionState`).
-/

namespace StoragePlan

/-- Which way a resize goes. -/
inductive ResizeDirection where
  | grow
  | shrink
deriving DecidableEq, Repr, Inhabited

/-- The word for a direction. -/
def ResizeDirection.label : ResizeDirection → String
  | grow => "grow"
  | shrink => "shrink"

/-- The eight kinds of action. -/
inductive ActionKind where
  | createDevice
  | destroyDevice
  | createFormat
  | destroyFormat
  | resizeDevice
  | resizeFormat
  | addMember
  | removeMember
deriving DecidableEq, Repr, Inhabited

/-- What an action does. -/
inductive ActionType where
  | create
  | destroy
  | resize
  | add
  | remove
deriving DecidableEq, Repr, Inhabited

/-- What an action does it to. -/
inductive ActionObject where
  | device
  | format
  | container
deriving DecidableEq, Repr, Inhabited

/-- Where an action stands: constructed, then registered in the plan, then withdrawn or pruned. -/
inductive ActionState where
  | constructed
  | registered
  | cancelled
  | pruned
deriving DecidableEq, Repr, Inhabited

namespace ActionKind

/-- Every kind, in order. -/
def all : List ActionKind :=
  [createDevice, destroyDevice, createFormat, destroyFormat, resizeDevice, resizeFormat, addMember,
    removeMember]

/-- The name of a kind. -/
def label : ActionKind → String
  | createDevice => "CreateDevice"
  | destroyDevice => "DestroyDevice"
  | createFormat => "CreateFormat"
  | destroyFormat => "DestroyFormat"
  | resizeDevice => "ResizeDevice"
  | resizeFormat => "ResizeFormat"
  | addMember => "AddMember"
  | removeMember => "RemoveMember"

/-- The name of the kind with this number. -/
def labelOfNumber (n : Nat) : String := (all[n]?.map label).getD "Unknown"

/-- What actions of a kind do. -/
def type : ActionKind → ActionType
  | createDevice | createFormat => .create
  | destroyDevice | destroyFormat => .destroy
  | resizeDevice | resizeFormat => .resize
  | addMember => .add
  | removeMember => .remove

/-- What actions of a kind do it to. -/
def object : ActionKind → ActionObject
  | createDevice | destroyDevice | resizeDevice => .device
  | createFormat | destroyFormat | resizeFormat => .format
  | addMember | removeMember => .container

end ActionKind

namespace ActionType

/-- Every type, in order. -/
def all : List ActionType := [create, destroy, resize, add, remove]

/-- The word for a type. -/
def label : ActionType → String
  | create => "create"
  | destroy => "destroy"
  | resize => "resize"
  | add => "add"
  | remove => "remove"

/-- The type that a word names. -/
def ofLabel? (word : String) : Option ActionType := all.find? fun type => type.label == word

/-- The words tell the types apart. -/
theorem ofLabel?_label (type : ActionType) : ofLabel? type.label = some type := by
  cases type <;> decide

end ActionType

namespace ActionObject

/-- Every object, in order. -/
def all : List ActionObject := [device, format, container]

/-- The word for an object. -/
def label : ActionObject → String
  | device => "device"
  | format => "format"
  | container => "container"

/-- The object that a word names. -/
def ofLabel? (word : String) : Option ActionObject := all.find? fun object => object.label == word

/-- The words tell the objects apart. -/
theorem ofLabel?_label (object : ActionObject) : ofLabel? object.label = some object := by
  cases object <;> decide

end ActionObject

namespace ActionState

/-- Every state, in order. -/
def all : List ActionState := [constructed, registered, cancelled, pruned]

/-- The word for a state. -/
def label : ActionState → String
  | constructed => "constructed"
  | registered => "registered"
  | cancelled => "cancelled"
  | pruned => "pruned"

/-- The word for the state with this number. -/
def labelOfNumber (n : Nat) : String := (all[n]?.map label).getD "unknown"

end ActionState

/-- What is to be done to the device of an action, and what it displaced. -/
inductive Operation where
  | createDevice
  | destroyDevice
  /-- Put a format on the device in place of the `previous` one. -/
  | createFormat (format previous : ObjectId)
  /-- Take the `removed` format off the device, which is left with a `blank` one. -/
  | destroyFormat (removed blank : ObjectId)
  | resizeDevice (newSize previousTarget : ByteSize) (direction : ResizeDirection)
  | resizeFormat (format : ObjectId) (newSize previousTarget : ByteSize)
      (direction : ResizeDirection)
  /-- Make the device the last member of a container. -/
  | addMember (container : ObjectId)
  /-- Take the device out of a container, where it stood at a `position`. -/
  | removeMember (container : ObjectId) (position : Nat)
deriving DecidableEq, Repr, Inhabited

namespace Operation

/-- The kind of an operation. -/
def kind : Operation → ActionKind
  | createDevice => .createDevice
  | destroyDevice => .destroyDevice
  | createFormat .. => .createFormat
  | destroyFormat .. => .destroyFormat
  | resizeDevice .. => .resizeDevice
  | resizeFormat .. => .resizeFormat
  | addMember .. => .addMember
  | removeMember .. => .removeMember

/-- Which way a resize goes. -/
def direction? : Operation → Option ResizeDirection
  | resizeDevice _ _ direction => some direction
  | resizeFormat _ _ _ direction => some direction
  | _ => none

/-- The container of a membership operation. -/
def container? : Operation → Option ObjectId
  | addMember container => some container
  | removeMember container _ => some container
  | _ => none

end Operation

/-- A proposed operation on a device. -/
structure Action where
  id : ObjectId
  /-- The name by which texts refer to the action. -/
  displayId : String
  device : ObjectId
  operation : Operation
  state : ActionState := .constructed
deriving DecidableEq, Repr, Inhabited

namespace Action

instance : Identified Action := ⟨Action.id⟩

/-- The kind of an action. -/
def kind (a : Action) : ActionKind := a.operation.kind

/-- What an action does. -/
def type (a : Action) : ActionType := a.kind.type

/-- What an action does it to. -/
def object (a : Action) : ActionObject := a.kind.object

/-- Whether an action makes its device or its device's format larger. -/
def isGrow (a : Action) : Bool := a.operation.direction? == some .grow

/-- Whether an action makes its device or its device's format smaller. -/
def isShrink (a : Action) : Bool := a.operation.direction? == some .shrink

/-- The container of a membership action. -/
def container? (a : Action) : Option ObjectId := a.operation.container?

/-- Whether an action concerns a device, as its target or as its container. -/
def concerns (a : Action) (device : ObjectId) : Bool :=
  a.device == device || a.container? == some device

/-- The words that hold of an action: what it does, what it does it to, and which way a resize
goes. -/
def flags (a : Action) : List String :=
  [ ("create", a.type == .create), ("destroy", a.type == .destroy), ("resize", a.type == .resize),
    ("format", a.object == .format), ("container", a.object == .container),
    ("grow", a.isGrow), ("shrink", a.isShrink) ].filterMap
    fun (word, holds) => if holds then some word else none

end Action

end StoragePlan

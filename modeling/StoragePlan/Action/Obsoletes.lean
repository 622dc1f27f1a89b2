import StoragePlan.Action.Basic
import StoragePlan.Tree.Basic

/-!
# Which action makes which unnecessary

`t.obsoletes a b` says that with `a` in the plan `b` is not needed.  A later action of the same sort
on the same device replaces an earlier one; destroying a device or its format makes the earlier work
on it unnecessary; and an addition of a member and its removal cancel out.  An action may obsolete
itself: destroying a device that was only proposed, or a format that never reached the media, does
nothing.
-/

namespace StoragePlan

/-- Whether two membership actions concern the same member of the same container. -/
def Action.sameMembership (a b : Action) : Bool :=
  a.device == b.device && a.container? == b.container?

namespace DeviceTree

/-- What the destruction of a device makes unnecessary.  When the device was only proposed, that is
all that concerns it up to the destruction itself; otherwise the earlier creations and resizes on
it. -/
def destroyObsoletes (t : DeviceTree) (a b : Action) : Bool :=
  match t.device? a.device with
  | none => false
  | some device =>
    if device.onMedia then
      b.device == a.device && b.id < a.id && (b.type == .create || b.type == .resize)
    else b.concerns a.device && b.id ≤ a.id

/-- Whether the format that an action destroys never reached the media. -/
def removesUnwritten (t : DeviceTree) (a : Action) : Bool :=
  match a.operation with
  | .destroyFormat removed _ => (t.format? removed).all fun format => !format.onMedia
  | _ => false

/-- Whether `a` makes `b` unnecessary. -/
def obsoletes (t : DeviceTree) (a b : Action) : Bool :=
  match a.kind, b.kind with
  | .destroyDevice, _ => t.destroyObsoletes a b
  | .addMember, .removeMember => a.sameMembership b
  | .removeMember, .addMember => a.sameMembership b
  -- Doing it again is redundant with the first time.
  | .addMember, .addMember => a.sameMembership b && a.id < b.id
  | .removeMember, .removeMember => a.sameMembership b && a.id < b.id
  | .createDevice, .createDevice => b.device == a.device && b.id < a.id
  | .resizeDevice, .resizeDevice => b.device == a.device && b.id < a.id
  | .resizeFormat, .resizeFormat => b.device == a.device && b.id < a.id
  | .createFormat, .createFormat => b.device == a.device && b.id < a.id
  | .createFormat, .resizeFormat => b.device == a.device && b.id < a.id
  | .destroyFormat, _ =>
    b.object == .format && b.device == a.device
      && (b.id < a.id || (b.id == a.id && t.removesUnwritten a))
  | _, _ => false

end DeviceTree

end StoragePlan

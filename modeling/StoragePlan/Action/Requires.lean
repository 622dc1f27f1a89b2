import StoragePlan.Action.Basic
import StoragePlan.Tree.Graph

/-!
# Which action must wait for which

`t.requires a b` says that `a` has to run after `b`.  Destroys come before resizes and resizes
before creates, across the whole plan; membership actions stand outside of that sequence.  Within a
phase the order follows the device graph: what is built on a device is created and grown after it,
destroyed and shrunk before it.  Partitions of one disk are created in table order and destroyed in
the opposite order.
-/

namespace StoragePlan.DeviceTree

/-- Whether both resizes go the same way and the first must follow the second, because of the
graph: growing works from the bottom up and shrinking from the top down. -/
def resizeFollows (t : DeviceTree) (a b : Action) : Bool :=
  (a.isGrow && b.isGrow && t.dependsOn a.device b.device)
    || (a.isShrink && b.isShrink && t.dependsOn b.device a.device)

/-- Whether one partition stands behind another one of the same disk. -/
def partitionAfter (t : DeviceTree) (a b : ObjectId) : Bool :=
  t.shareDisk a b && t.partitionNumberOf b < t.partitionNumberOf a

/-- The order within the phases, by the kinds of the two actions. -/
def requiresByKind (t : DeviceTree) (a b : Action) : Bool :=
  match a.kind, b.kind with
  | .createDevice, .createDevice =>
    t.dependsOn a.device b.device || t.partitionAfter a.device b.device
  | .createDevice, .createFormat => t.dependsOn a.device b.device
  | .createDevice, .addMember => b.container?.any (t.dependsOn a.device)
  | .createFormat, .createDevice => b.device == a.device || t.dependsOn a.device b.device
  | .createFormat, .createFormat => t.dependsOn a.device b.device
  | .destroyDevice, .destroyDevice =>
    t.dependsOn b.device a.device || t.partitionAfter b.device a.device
  | .destroyDevice, .destroyFormat => b.device == a.device || t.dependsOn b.device a.device
  | .destroyFormat, .destroyDevice => t.dependsOn b.device a.device
  | .destroyFormat, .destroyFormat => t.dependsOn b.device a.device
  | .resizeDevice, .resizeDevice => t.resizeFollows a b
  -- A format shrinks before the device under it.
  | .resizeDevice, .resizeFormat =>
    (a.isShrink && b.isShrink && b.device == a.device) || t.resizeFollows a b
  -- A format grows after the device under it; shrinking formats wait for nothing.
  | .resizeFormat, .resizeDevice =>
    a.isGrow && b.isGrow && (b.device == a.device || t.dependsOn a.device b.device)
  | .resizeFormat, .resizeFormat => a.isGrow && b.isGrow && t.dependsOn a.device b.device
  | .addMember, .createDevice => b.device == a.device || a.container? == some b.device
  | .addMember, .createFormat => b.device == a.device
  | .addMember, .resizeDevice => b.device == a.device
  | .addMember, .resizeFormat => b.device == a.device
  -- A container is extended before it is reduced.
  | .removeMember, .addMember => b.container? == a.container?
  | _, _ => false

/-- Whether `a` has to run after `b`. -/
def requires (t : DeviceTree) (a b : Action) : Bool :=
  a.id != b.id &&
    ((a.type == .create && (b.type == .destroy || b.type == .resize)) || t.requiresByKind a b)

end StoragePlan.DeviceTree

import StoragePlan.Action.Basic
import StoragePlan.Tree.Basic

/-!
# Actions in words

The one-line text of an action, against the present state of the tree.
-/

namespace StoragePlan.DeviceTree

/-- A format as one line of text; an unknown format counts as none. -/
def formatSummary (t : DeviceTree) (id : ObjectId) : String :=
  ((t.format? id).map Format.summary).getD "none"

/-- The end of the text of a resize. -/
def resizeText (name : String) (size : ByteSize) (direction : ResizeDirection) : String :=
  name ++ " to " ++ sizeText size ++ " (" ++ direction.label ++ ")"

/-- An action in words. -/
def describe (t : DeviceTree) (a : Action) : String :=
  let name := t.nameOf a.device
  match a.operation with
  | .createDevice =>
    match t.device? a.device with
    | none => "create device " ++ name
    | some device =>
      "create device " ++ name ++ " (" ++ device.kind.label ++ ", "
        ++ sizeText device.currentSize ++ ")"
  | .destroyDevice => "destroy device " ++ name
  | .createFormat format _ => "create format " ++ t.formatSummary format ++ " on " ++ name
  | .destroyFormat removed _ => "destroy format " ++ t.formatSummary removed ++ " on " ++ name
  | .resizeDevice size _ direction => "resize device " ++ resizeText name size direction
  | .resizeFormat _ size _ direction => "resize format on " ++ resizeText name size direction
  | .addMember container => "add member " ++ name ++ " to " ++ t.nameOf container
  | .removeMember container _ => "remove member " ++ name ++ " from " ++ t.nameOf container

end StoragePlan.DeviceTree

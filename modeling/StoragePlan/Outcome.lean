import StoragePlan.Refusal

/-!
# Outcomes

What a call answers: a value, the refusal if there was one, and the ids of the devices and objects
that it created, updated and deleted.  A refused call may still carry a value, such as the part of a
list of actions that was scheduled before the refusal.
-/

namespace StoragePlan

/-- The ids that a call touched. -/
structure Changes where
  created : List ObjectId := []
  updated : List ObjectId := []
  deleted : List ObjectId := []
deriving DecidableEq, Repr, Inhabited

/-- A change set with one more updated id. -/
def Changes.update (changes : Changes) (id : ObjectId) : Changes :=
  { changes with updated := changes.updated ++ [id] }

/-- The answer of a call. -/
structure Outcome (α : Type) where
  value : α
  refusal : Option Refusal := none
  changes : Changes := {}
deriving DecidableEq, Repr, Inhabited

namespace Outcome

variable {α : Type}

/-- Whether the call succeeded. -/
def ok (o : Outcome α) : Bool := o.refusal.isNone

/-- A call refused with nothing to show. -/
def refused [Inhabited α] (cause : Refusal) : Outcome α :=
  { value := default, refusal := some cause }

/-- The text of the refusal, empty on success. -/
def errorText (o : Outcome α) : String := (o.refusal.map Refusal.message).getD ""

/-- The name of the fault, `None` on success. -/
def faultLabel (o : Outcome α) : String := Fault.labelOf (o.refusal.map Refusal.fault)

end Outcome

end StoragePlan

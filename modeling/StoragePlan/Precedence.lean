/-!
# Orders that respect a precedence

Given a list of items and the relation "`a` has to wait for `b`", the items are arranged by taking,
again and again, the first one that waits for none of those still pending.  What is left when no
item is ready is stuck: each of these items waits for another one of them.
-/

namespace StoragePlan.Precedence

variable {α : Type} (waits : α → α → Bool)

/-- Whether an item waits for none of the pending ones. -/
def isReady (pending : List α) (a : α) : Bool := pending.all fun b => !waits a b

/-- The items in an order that respects the precedence, and those that are stuck. -/
def arrange (pending : List α) : List α × List α :=
  match _found : pending.find? (isReady waits pending) with
  | none => ([], pending)
  | some next =>
    let (order, stuck) := arrange (pending.eraseP (isReady waits pending))
    (next :: order, stuck)
termination_by pending.length
decreasing_by
  have pending_next := List.mem_of_find?_eq_some _found
  have := List.length_eraseP_of_mem pending_next (List.find?_some _found)
  have := List.length_pos_of_mem pending_next
  omega

theorem arrange_of_none {pending : List α} (h : pending.find? (isReady waits pending) = none) :
    arrange waits pending = ([], pending) := by
  rw [arrange]; split <;> simp_all

theorem arrange_of_some {pending : List α} {next : α}
    (h : pending.find? (isReady waits pending) = some next) :
    arrange waits pending =
      let rest := arrange waits (pending.eraseP (isReady waits pending))
      (next :: rest.1, rest.2) := by
  rw [arrange]; split <;> simp_all

end StoragePlan.Precedence

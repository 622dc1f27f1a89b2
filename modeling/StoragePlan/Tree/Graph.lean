import StoragePlan.Tree.Basic

/-!
# The graph of devices

A device depends on what it is built on: its parents, their parents and so on.  The ancestors of a
device are found generation by generation, so the nearest come first and each comes once; stored
devices may form cycles and may name parents that are not stored.

The search ends because every generation but the last brings an id that occurs in some parent list
and was not seen before (`unseen_lt_of_fresh`).
-/

namespace StoragePlan.DeviceTree

/-- The ids that were not seen before, each once, in order. -/
def fresh (seen : List ObjectId) : List ObjectId → List ObjectId
  | [] => []
  | id :: rest => if id ∈ seen then fresh seen rest else id :: fresh (id :: seen) rest

theorem mem_fresh {seen ids : List ObjectId} {x : ObjectId} :
    x ∈ fresh seen ids ↔ x ∈ ids ∧ x ∉ seen := by
  induction ids generalizing seen with
  | nil => simp [fresh]
  | cons id rest ih =>
    unfold fresh
    split
    case isTrue h => rw [ih]; grind
    case isFalse h => rw [List.mem_cons, ih]; grind

theorem nodup_fresh (seen ids : List ObjectId) : (fresh seen ids).Nodup := by
  induction ids generalizing seen with
  | nil => simp [fresh]
  | cons id rest ih =>
    unfold fresh
    split
    · exact ih seen
    · rw [List.nodup_cons, mem_fresh]
      exact ⟨by simp, ih _⟩

/-- Every id that stands in the parent list of a stored device. -/
def parentIds (t : DeviceTree) : List ObjectId := t.devices.items.flatMap Device.parents

theorem mem_parentIds_of_mem_parentsOf {t : DeviceTree} {d p : ObjectId} (h : p ∈ t.parentsOf d) :
    p ∈ t.parentIds := by
  unfold parentsOf at h
  cases hd : t.device? d with
  | none => simp [hd] at h
  | some device =>
    simp only [hd, Option.map_some, Option.getD_some] at h
    exact List.mem_flatMap.2 ⟨device, Arena.mem_of_find? hd, h⟩

/-- How many places of parent lists hold an id that was not seen yet. -/
def unseen (t : DeviceTree) (seen : List ObjectId) : Nat :=
  (t.parentIds.filter fun id => id ∉ seen).length

/-- The next generation: the parents of a generation that were not seen before. -/
def nextGeneration (t : DeviceTree) (seen generation : List ObjectId) : List ObjectId :=
  fresh seen (generation.flatMap t.parentsOf)

theorem unseen_lt_of_fresh (t : DeviceTree) {seen generation : List ObjectId}
    (h : t.nextGeneration seen generation ≠ []) :
    t.unseen (seen ++ t.nextGeneration seen generation) < t.unseen seen := by
  obtain ⟨x, hx⟩ := List.exists_mem_of_ne_nil _ h
  obtain ⟨hparents, hseen⟩ := mem_fresh.1 hx
  obtain ⟨d, _, hp⟩ := List.mem_flatMap.1 hparents
  have sub : t.parentIds.filter (fun id => id ∉ seen ++ t.nextGeneration seen generation)
      = (t.parentIds.filter fun id => id ∉ seen).filter
          fun id => id ∉ t.nextGeneration seen generation := by
    rw [List.filter_filter]
    exact List.filter_congr fun id _ => by simp [Bool.and_comm]
  unfold unseen
  rw [sub, List.length_filter_lt_length_iff_exists]
  exact ⟨x, List.mem_filter.2 ⟨mem_parentIds_of_mem_parentsOf hp, by simpa using hseen⟩,
    by simpa using hx⟩

/-- The generations above a generation, nearest first, without the ids already seen. -/
def generationsAbove (t : DeviceTree) (seen generation : List ObjectId) : List ObjectId :=
  let next := t.nextGeneration seen generation
  if next = [] then [] else next ++ t.generationsAbove (seen ++ next) next
termination_by t.unseen seen
decreasing_by exact t.unseen_lt_of_fresh (by assumption)

/-- What a device is built on, directly or through others: nearest first, each id once, the device
itself left out. -/
def ancestors (t : DeviceTree) (id : ObjectId) : List ObjectId := t.generationsAbove [id] [id]

/-- Whether a device is built on another one, directly or through others. -/
def dependsOn (t : DeviceTree) (id other : ObjectId) : Bool :=
  id != other && (t.ancestors id).contains other

/-- The present devices that depend on this one, in tree order. -/
def dependents (t : DeviceTree) (id : ObjectId) : List ObjectId :=
  t.order.filter fun other => other != id && t.dependsOn other id

/-- The disk that a partition lies on. -/
def diskOfPartition? (t : DeviceTree) (id : ObjectId) : Option ObjectId :=
  (t.device? id).bind fun device =>
    if device.kind = .partition then device.parents.head? else none

/-- Whether two devices are partitions of one disk. -/
def shareDisk (t : DeviceTree) (a b : ObjectId) : Bool :=
  match t.diskOfPartition? a, t.diskOfPartition? b with
  | some diskA, some diskB => diskA == diskB
  | _, _ => false

/-- The place of a partition in its table; `0` for anything else. -/
def partitionNumberOf (t : DeviceTree) (id : ObjectId) : Int :=
  ((t.device? id).map Device.partitionNumber).getD 0

end StoragePlan.DeviceTree

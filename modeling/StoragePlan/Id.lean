/-!
# Identities

Devices, formats and actions of one session draw their ids from one counter, so comparing the ids
of two objects compares the order of their construction.  The counter is a machine word and wraps;
`0` names no object.

Actions also carry a serial number of their own, shown as a series and a number padded with zeros.
-/

namespace StoragePlan

/-- The identity of a device, a format or an action; `0` is the identity of nothing. -/
abbrev ObjectId := UInt64

/-- The counter from which a session draws its ids. -/
structure IdSource where
  /-- The id that the next object receives. -/
  next : ObjectId := 1
deriving DecidableEq, Repr, Inhabited

namespace IdSource

/-- Draw one id. -/
def take (s : IdSource) : ObjectId × IdSource := (s.next, ⟨s.next + 1⟩)

/-- Draw `n` ids, oldest first. -/
def takeMany (s : IdSource) : Nat → List ObjectId × IdSource
  | 0 => ([], s)
  | n + 1 =>
    let (ids, after) := s.take.2.takeMany n
    (s.take.1 :: ids, after)

@[simp] theorem take_fst (s : IdSource) : s.take.1 = s.next := rfl

@[simp] theorem take_snd_next (s : IdSource) : s.take.2.next = s.next + 1 := rfl

end IdSource

/-- A set of ids.  It answers what it contains and nothing else, so it does not tell in which order
its members were put in. -/
@[ext]
structure IdSet where
  contains : ObjectId → Bool

namespace IdSet

variable (s : IdSet) (id other : ObjectId)

def empty : IdSet := ⟨fun _ => false⟩

/-- The set with one more member. -/
def insert : IdSet := ⟨fun other => other == id || s.contains other⟩

/-- The set without one member. -/
def erase : IdSet := ⟨fun other => other != id && s.contains other⟩

@[simp] theorem contains_empty : empty.contains other = false := rfl

@[simp] theorem contains_insert :
    (s.insert id).contains other = (other == id || s.contains other) := rfl

@[simp] theorem contains_erase :
    (s.erase id).contains other = (other != id && s.contains other) := rfl

variable {s id}

/-- An id that is put in and taken out again leaves no trace if it was not in the set before. -/
theorem erase_insert (h : s.contains id = false) : (s.insert id).erase id = s := by
  ext other
  by_cases hOther : other = id
  · simp [hOther, h]
  · simp [bne, beq_eq_false_iff_ne.mpr hOther]

theorem insert_erase (h : s.contains id = true) : (s.erase id).insert id = s := by
  ext other
  by_cases hOther : other = id
  · simp [hOther, h]
  · simp [bne, beq_eq_false_iff_ne.mpr hOther]

end IdSet

/-- The width to which serial numbers are padded unless another one is asked for. -/
def defaultSerialWidth : Int := 6

/-- A serial number in a named series, such as `A-000007`.  The number is padded with zeros on the
left; it is never cut, and a width below one pads nothing. -/
def serialText (series : String) (serial : Nat) (width : Int := defaultSerialWidth) : String :=
  series ++ "-" ++ String.ofList (List.leftpad width.toNat '0' (Nat.toDigits 10 serial))

example : serialText "A" 7 = "A-000007" := by decide +kernel
example : serialText "A" 1234567 = "A-1234567" := by decide +kernel
example : serialText "A" 7 (-1) = "A-7" := by decide +kernel

end StoragePlan

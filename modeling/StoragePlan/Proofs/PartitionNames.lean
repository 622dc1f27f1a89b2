import StoragePlan.Proofs.Creation
import StoragePlan.Proofs.Numerals
import Mathlib.Data.List.DropRight

/-!
# Partition names

A partition takes its number from the digits at the end of its name.  `EndsInNumber` says which
digits these are, the longest run at the end, and what they denote.  A name is any text; a string of
bytes is one with a character for each byte.

* `partitionNumber?_eq_some_iff`: the number is found exactly when the digits denote one in range.
* `makes_partition_iff`: **a partition is made exactly when it has one stored parent and a name that
  ends in a number in range, and that is its number**.
-/

namespace StoragePlan

open Numeric

variable {name : String} {m n : Nat}

/-- Some text does not end in a digit. -/
def EndsBare (stem : List Char) : Prop := ∀ c, stem.getLast? = some c → c.isDigit = false

/-- The longest run of digits at the end of a name denotes a number. -/
def EndsInNumber (name : String) (n : Nat) : Prop :=
  ∃ stem run, name.toList = stem ++ run ∧ EndsBare stem ∧ Denotes run n

/-- The digits at the end are the longest run. -/
theorem trailingDigits_of_append {stem run : List Char} (hName : name.toList = stem ++ run)
    (hStem : EndsBare stem) (hRun : ∀ c ∈ run, c.isDigit = true) : trailingDigits name = run := by
  have hTake : (run.reverse ++ stem.reverse).takeWhile Char.isDigit = run.reverse := by
    rw [List.takeWhile_append_of_pos fun c hc => hRun c (List.mem_reverse.mp hc)]
    cases hLast : stem.reverse with
    | nil => simp
    | cons c rest =>
      have hc : c.isDigit = false := hStem c (by rw [← List.head?_reverse, hLast]; rfl)
      simp [hc]
  rw [trailingDigits, hName, List.reverse_append, hTake, List.reverse_reverse]

/-- Every name is something that does not end in a digit, and the digits at its end. -/
theorem exists_stem (name : String) :
    ∃ stem, name.toList = stem ++ trailingDigits name ∧ EndsBare stem ∧
      ∀ c ∈ trailingDigits name, c.isDigit = true := by
  refine ⟨name.toList.rdropWhile Char.isDigit, List.rdropWhile_append_rtakeWhile.symm,
    fun c hc => ?_, fun c hc => List.mem_rtakeWhile_imp hc⟩
  obtain ⟨hNotNil, hLast⟩ := List.mem_getLast?_eq_getLast hc
  rw [hLast]
  exact Bool.eq_false_iff.mpr (List.rdropWhile_last_not _ _ hNotNil)

/-- A name ends in one number at most. -/
theorem EndsInNumber.unique (h : EndsInNumber name m) (h' : EndsInNumber name n) : m = n := by
  obtain ⟨stem, run, hName, hStem, hRun⟩ := h
  obtain ⟨stem', run', hName', hStem', hRun'⟩ := h'
  have hSame : run = run' := by
    rw [← trailingDigits_of_append hName hStem hRun.isDigit,
      ← trailingDigits_of_append hName' hStem' hRun'.isDigit]
  rw [← hRun.value, ← hRun'.value, hSame]

theorem EndsInNumber.value (h : EndsInNumber name n) :
    Nat.ofDigitChars 10 (trailingDigits name) 0 = n := by
  obtain ⟨stem, run, hName, hStem, hRun⟩ := h
  rw [trailingDigits_of_append hName hStem hRun.isDigit]
  exact hRun.value

theorem EndsInNumber.name_ne (h : EndsInNumber name n) : name ≠ "" := by
  rintro rfl
  obtain ⟨stem, run, hName, _, hRun⟩ := h
  exact hRun.ne_nil (List.append_eq_nil_iff.mp hName.symm).2

theorem partitionNumber?_eq_some_iff :
    partitionNumber? name = some n ↔ EndsInNumber name n ∧ 1 ≤ n ∧ n ≤ 2147483647 := by
  simp only [partitionNumber?, Option.ite_none_right_eq_some, Option.some_inj]
  constructor
  · rintro ⟨hRange, rfl⟩
    refine ⟨?_, hRange⟩
    obtain ⟨stem, hName, hStem, hDigits⟩ := exists_stem name
    -- Without digits the number would be zero, which is out of range.
    have hNotNil : trailingDigits name ≠ [] := by
      intro hNil
      rw [hNil] at hRange
      exact absurd hRange.1 (by decide)
    exact ⟨stem, _, hName, hStem, denotes_ofDigitChars hNotNil hDigits⟩
  · rintro ⟨hEnds, hRange⟩
    rw [hEnds.value]
    exact ⟨hRange, rfl⟩

namespace DeviceTree

variable {t t' : DeviceTree} {draft : DeviceDraft} {id : ObjectId}

/-- What the check of a partition's kind asks for. -/
theorem checkKind_partition_iff (hKind : draft.kind = .partition) {number : Int} :
    t.checkKind draft = .ok (name, number) ↔
      draft.parents.length = 1 ∧ name = draft.name ∧
        ∃ n, partitionNumber? draft.name = some n ∧ number = n := by
  simp only [checkKind, hKind]
  split
  · rename_i hLength
    simp [hLength]
  · rename_i hLength
    cases hNumber : partitionNumber? draft.name with
    | none => simp
    | some n => simp [not_not.mp hLength, eq_comm]

/-- A partition is stored under its own name, with the number at the end of it, when that is in
range and the one parent is stored; else it is refused. -/
theorem newDevice_eq_ok_iff (hKind : draft.kind = .partition) :
    t.newDevice draft = .ok (id, t') ↔
      (∃ p, draft.parents = [p] ∧ (t.device? p).isSome) ∧
      ∃ n, (EndsInNumber draft.name n ∧ 1 ≤ n ∧ n ≤ 2147483647) ∧
        (id, t') = t.storeDevice draft draft.name n := by
  simp only [← partitionNumber?_eq_some_iff]
  constructor
  · intro h
    obtain ⟨hStored, _, _⟩ := newDevice_ok h
    obtain ⟨name, number, hCheck, hMade⟩ := storeDevice_of_newDevice h
    obtain ⟨hOne, rfl, n, hNumber, rfl⟩ := (checkKind_partition_iff hKind).mp hCheck
    obtain ⟨p, hParents⟩ := List.length_eq_one_iff.mp hOne
    exact ⟨⟨p, hParents, hStored p (hParents ▸ List.mem_singleton.mpr rfl)⟩, n, hNumber, hMade⟩
  · rintro ⟨⟨p, hParents, hStored⟩, n, hNumber, hMade⟩
    have hName : draft.name ≠ "" := (partitionNumber?_eq_some_iff.mp hNumber).1.name_ne
    have hDistinct : t.checkParents [] draft.parents = .ok () :=
      hParents ▸ checkParents_singleton hStored
    have hCheck : t.checkKind draft = .ok (draft.name, (n : Int)) :=
      (checkKind_partition_iff hKind).mpr ⟨by rw [hParents]; rfl, rfl, n, hNumber, rfl⟩
    rw [hMade]
    simp only [DeviceTree.newDevice, if_neg hName, hDistinct, hCheck]
    rfl

/-- A device that finds its id free keeps the number that it is stored with. -/
theorem partitionNumber_storeDevice (hIds : Ahead t.ids.next t.storedIds 2) (draft : DeviceDraft)
    (name : String) (number : Int) :
    ∃ device, (t.storeDevice draft name number).2.device? (t.storeDevice draft name number).1
      = some device ∧ device.partitionNumber = number := by
  have hRoom : Ahead t.ids.next (t.storedIds ++ []) 2 := by rwa [List.append_nil]
  obtain ⟨⟨device, hDevice, _⟩, hNew, _⟩ := storeDevice_of_ahead hRoom draft name number
  refine ⟨device, hDevice, ?_⟩
  rcases Arena.of_find?_insert hDevice with hOld | ⟨hMade, _⟩
  · exact absurd (hNew.symm.trans hOld) (Option.some_ne_none device).symm
  · rw [hMade]

/-- **A partition is made exactly when it has one stored parent and a name that ends in a number in
range, and that is its number.**  The digits of the number are the longest run at the end of the
name; zeros may lead it.  So a name that is followed by the decimal digits of a number, without a
digit just before them, gives that number. -/
theorem makes_partition_iff (t : DeviceTree) (draft : DeviceDraft) (hKind : draft.kind = .partition)
    (hIds : Ahead t.ids.next t.storedIds 2) :
    ((∃ made, t.newDevice draft = .ok made) ↔
      (∃ p, draft.parents = [p] ∧ (t.device? p).isSome) ∧
      ∃ n, EndsInNumber draft.name n ∧ 1 ≤ n ∧ n ≤ 2147483647) ∧
    (∀ id t', t.newDevice draft = .ok (id, t') →
      ∃ device n, t'.device? id = some device ∧ EndsInNumber draft.name n ∧
        device.partitionNumber = n) ∧
    ∀ (stem : String) (n : Nat) (p : ObjectId), EndsBare stem.toList → draft.name = stem ++ n.repr →
      1 ≤ n → n ≤ 2147483647 → draft.parents = [p] → (t.device? p).isSome →
      ∃ id t' device, t.newDevice draft = .ok (id, t') ∧ t'.device? id = some device ∧
        device.partitionNumber = n := by
  refine ⟨?_, ?_, ?_⟩
  · simp only [Prod.exists, newDevice_eq_ok_iff hKind]
    constructor
    · rintro ⟨_, _, hParent, n, hNumber, _⟩
      exact ⟨hParent, n, hNumber⟩
    · rintro ⟨hParent, n, hNumber⟩
      exact ⟨_, _, hParent, n, hNumber, rfl⟩
  · intro id t' h
    obtain ⟨_, n, ⟨hEnds, _⟩, hMade⟩ := (newDevice_eq_ok_iff hKind).mp h
    obtain ⟨device, hDevice, hNumber⟩ := partitionNumber_storeDevice hIds draft draft.name n
    rw [← hMade] at hDevice
    exact ⟨device, n, hDevice, hEnds, hNumber⟩
  · intro stem n p hStem hName hLow hHigh hParents hStored
    have hEnds : EndsInNumber draft.name n := by
      refine ⟨stem.toList, Nat.toDigits 10 n, ?_, hStem, denotes_toDigits n⟩
      rw [hName, String.toList_append, Nat.toList_repr]
    obtain ⟨device, hDevice, hNumber⟩ := partitionNumber_storeDevice hIds draft draft.name n
    exact ⟨_, _, device,
      (newDevice_eq_ok_iff hKind).mpr ⟨⟨p, hParents, hStored⟩, n, ⟨hEnds, hLow, hHigh⟩, rfl⟩,
      hDevice, hNumber⟩

/-- The name `nvme0n1p0042` gives the partition on its disk the number 42. -/
theorem makes_partition_of_padded_number :
    let t := (({} : Session).perform (.newDevice { name := "nvme0n1", kind := .disk })).2.tree
    let draft : DeviceDraft := { name := "nvme0n1p0042", kind := .partition, parents := [2] }
    draft.kind = .partition ∧ Ahead t.ids.next t.storedIds 2 ∧
    EndsInNumber draft.name 42 ∧ (t.device? 2).isSome ∧
    ∃ id t' device, t.newDevice draft = .ok (id, t') ∧ t'.device? id = some device ∧
      device.partitionNumber = 42 := by
  intro t draft
  have hStoredIds : t.storedIds = [2, 1] := by decide +kernel
  have hNext : t.ids.next = 3 := by decide +kernel
  have hIds : Ahead t.ids.next t.storedIds 2 := by
    rw [hStoredIds, hNext]
    exact fun _ => ⟨by decide, by simp, by decide⟩
  have hEnds : EndsInNumber draft.name 42 :=
    (partitionNumber?_eq_some_iff.mp (by decide +kernel)).1
  have hStored : (t.device? 2).isSome := by decide +kernel
  obtain ⟨hMade, hNumber, _⟩ := makes_partition_iff t draft rfl hIds
  obtain ⟨⟨id, t'⟩, h⟩ := hMade.mpr ⟨⟨2, rfl, hStored⟩, 42, hEnds, by omega, by omega⟩
  obtain ⟨device, n, hDevice, hEnds', hRead⟩ := hNumber id t' h
  rw [hEnds'.unique hEnds] at hRead
  exact ⟨rfl, hIds, hEnds, hStored, id, t', device, h, hDevice, hRead⟩

end DeviceTree

end StoragePlan

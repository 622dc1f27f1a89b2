/-!
# Rounding to nearest, ties to even

The two roundings that number texts need: a quotient to the nearest integer, and an integer to a
given number of significant bits.  A tie goes to the even neighbour in both.
-/

namespace StoragePlan.Numeric

/-- The integer nearest to `num / den`; of two equally near ones the even one. -/
def nearestEven (num den : Nat) : Nat :=
  let quotient := num / den
  let remainder := num % den
  if 2 * remainder < den then quotient
  else if den < 2 * remainder then quotient + 1
  else quotient + quotient % 2

/-- The number nearest to `n` with at most `bits` significant binary digits. -/
def toSignificantBits (bits n : Nat) : Nat :=
  let unit := Nat.pow 2 (n.log2 + 1 - bits)
  nearestEven n unit * unit

/-- The rounded quotient is at most half a unit away. -/
theorem nearestEven_bounds (num : Nat) {den : Nat} (h : 0 < den) :
    2 * num ≤ (2 * nearestEven num den + 1) * den ∧
      2 * (nearestEven num den * den) ≤ 2 * num + den := by
  have split := Nat.div_add_mod' num den
  have small := Nat.mod_lt num h
  have parity : num / den % 2 = 0 ∨ num / den % 2 = 1 := by omega
  unfold nearestEven
  simp only
  split
  · grind
  · split
    · grind
    · rcases parity with even | odd
      · rw [even]; grind
      · rw [odd]; grind

end StoragePlan.Numeric

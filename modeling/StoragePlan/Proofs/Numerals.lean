import StoragePlan.Numeric.Numeral
import Mathlib.Data.List.Induction

/-!
# What numerals denote

The readers of numerals take a text whole or not at all.  Here is the grammar that they follow,
built digit by digit: `Denotes` for a run of digits, `DenotesInt` with an optional minus sign.

* `natural?_eq_some_iff`, `integer?_eq_some_iff`, `int32?_eq_some_iff`: a reader finds a number
  exactly when the text denotes it.
* `denotes_toDigits`, `denotesInt_repr`: what is written in decimal denotes itself.
-/

namespace StoragePlan.Numeric

variable {text : List Char} {n : Nat} {z : Int}

/-! ## Runs of digits -/

/-- The number that a digit stands for. -/
def digitValue (c : Char) : Nat := c.toNat - '0'.toNat

/-- A run of digits, the most significant one first, and the number that it denotes. -/
inductive Denotes : List Char → Nat → Prop
  | digit {c : Char} (hc : c.isDigit = true) : Denotes [c] (digitValue c)
  | append {text : List Char} {n : Nat} {c : Char} (h : Denotes text n) (hc : c.isDigit = true) :
      Denotes (text ++ [c]) (10 * n + digitValue c)

theorem ofDigitChars_append_digit (text : List Char) (c : Char) :
    Nat.ofDigitChars 10 (text ++ [c]) 0 = 10 * Nat.ofDigitChars 10 text 0 + digitValue c := by
  rw [Nat.ofDigitChars_append, Nat.ofDigitChars_cons]
  rfl

theorem Denotes.ne_nil (h : Denotes text n) : text ≠ [] := by
  cases h with
  | digit => exact List.cons_ne_nil _ _
  | append => exact List.concat_ne_nil _ _

theorem Denotes.isDigit (h : Denotes text n) : ∀ c ∈ text, c.isDigit = true := by
  induction h with
  | digit hc => exact fun c hMem => List.mem_singleton.mp hMem ▸ hc
  | append _ hc ih =>
    intro c hMem
    rcases List.mem_append.mp hMem with hMem | hMem
    · exact ih c hMem
    · exact List.mem_singleton.mp hMem ▸ hc

theorem Denotes.value (h : Denotes text n) : Nat.ofDigitChars 10 text 0 = n := by
  induction h with
  | digit hc => exact (ofDigitChars_append_digit [] _).trans (Nat.zero_add _)
  | append _ _ ih => rw [ofDigitChars_append_digit, ih]

/-- Every run of digits denotes a number. -/
theorem denotes_ofDigitChars (hText : text ≠ []) (hDigits : ∀ c ∈ text, c.isDigit = true) :
    Denotes text (Nat.ofDigitChars 10 text 0) := by
  induction text using List.reverseRecOn with
  | nil => exact absurd rfl hText
  | append_singleton text c ih =>
    have hc : c.isDigit = true := hDigits c (List.mem_append_right _ (List.mem_singleton.mpr rfl))
    by_cases hNil : text = []
    · subst hNil
      rw [ofDigitChars_append_digit, Nat.ofDigitChars_nil, Nat.mul_zero, Nat.zero_add]
      exact .digit hc
    · rw [ofDigitChars_append_digit]
      exact .append (ih hNil fun d hd => hDigits d (List.mem_append_left _ hd)) hc

theorem natural?_eq_some_iff : natural? text = some n ↔ Denotes text n := by
  simp only [natural?, Option.ite_none_right_eq_some, Option.some_inj, List.all_eq_true]
  constructor
  · rintro ⟨⟨hText, hDigits⟩, rfl⟩
    exact denotes_ofDigitChars hText hDigits
  · exact fun h => ⟨⟨h.ne_nil, h.isDigit⟩, h.value⟩

theorem denotes_toDigits (n : Nat) : Denotes (Nat.toDigits 10 n) n := by
  have h : Denotes (Nat.toDigits 10 n) (Nat.ofDigitChars 10 (Nat.toDigits 10 n) 0) :=
    denotes_ofDigitChars Nat.toDigits_ne_nil fun _ hMem =>
      Nat.isDigit_of_mem_toDigits (by decide) (by decide) hMem
  rwa [Nat.ofDigitChars_ten_toDigits] at h

/-! ## Integers -/

/-- A text that denotes an integer: a run of digits, perhaps with a minus sign before it. -/
inductive DenotesInt : List Char → Int → Prop
  | plain {text : List Char} {n : Nat} (h : Denotes text n) : DenotesInt text n
  | minus {text : List Char} {n : Nat} (h : Denotes text n) : DenotesInt ('-' :: text) (-n)

theorem takeMinus_of_denotes (h : Denotes text n) : takeMinus text = (false, text) := by
  cases text with
  | nil => rfl
  | cons c rest =>
    have hc := h.isDigit c List.mem_cons_self
    unfold takeMinus
    split
    · rename_i hMinus
      cases hMinus
      cases hc
    · rfl

/-- An integer is read from the digits behind the sign. -/
theorem integer?_eq (text : List Char) : integer? text =
    (natural? (takeMinus text).2).map fun n : Nat =>
      if (takeMinus text).1 then -(n : Int) else n := by
  unfold integer?
  dsimp only
  cases natural? (takeMinus text).2 <;> rfl

theorem integer?_eq_some_iff : integer? text = some z ↔ DenotesInt text z := by
  rw [integer?_eq]
  constructor
  · intro h
    obtain ⟨n, hn, rfl⟩ := Option.map_eq_some_iff.mp h
    rw [natural?_eq_some_iff] at hn
    unfold takeMinus at hn ⊢
    split at hn
    · exact .minus hn
    · exact .plain hn
  · intro h
    cases h with
    | plain h => simp [takeMinus_of_denotes h, natural?_eq_some_iff.mpr h]
    | minus h => simp [takeMinus, natural?_eq_some_iff.mpr h]

/-- A number of 32 bits is read exactly when it is the integer that the text denotes; other integers
are refused. -/
theorem int32?_eq_some_iff {v : Int32} : int32? text = some v ↔ DenotesInt text v.toInt := by
  simp only [int32?, Option.bind_eq_some_iff, Option.ite_none_right_eq_some, Option.some_inj,
    integer?_eq_some_iff]
  constructor
  · rintro ⟨z, h, ⟨hLow, hHigh⟩, rfl⟩
    rwa [Int32.toInt_ofInt_of_le (by exact hLow) (by exact Int.lt_add_one_of_le hHigh)]
  · intro h
    exact ⟨v.toInt, h, ⟨v.le_toInt, Int.le_of_lt_add_one v.toInt_lt⟩, v.ofInt_toInt⟩

theorem denotesInt_repr (z : Int) : DenotesInt z.repr.toList z := by
  cases z with
  | ofNat n =>
    have h : (Int.ofNat n).repr.toList = Nat.toDigits 10 n := by simp [Int.repr, Nat.repr]
    exact h ▸ .plain (denotes_toDigits n)
  | negSucc n =>
    have h : (Int.negSucc n).repr.toList = '-' :: Nat.toDigits 10 (n + 1) := by
      simp [Int.repr, Nat.repr]
    exact h ▸ .minus (denotes_toDigits (n + 1))

end StoragePlan.Numeric

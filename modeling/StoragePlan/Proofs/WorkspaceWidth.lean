import StoragePlan.Proofs.SettingsFile
import Mathlib.Tactic.Ring

/-!
# The loaded width of the workspace

A width that is read is moved into its bounds by comparisons.  These move every number, infinite
ones too, but not the word for what is not a number, which compares with nothing and passes.

* `ofQuotient_usable`: a magnitude is moved into the bounds and stays there when it is rounded.
* `usable_iff_of_ofText?`: of the texts that are read only that word gives no width in the bounds.
* `loads_usable_width_iff`: **the loaded width is in the bounds unless the last width that is read
  is that word**.
-/

namespace StoragePlan

namespace Numeric

/-! ## Rounding between integers -/

/-- Rounding does not pass an integer. -/
theorem le_nearestEven {num den q : Nat} (h : 0 < den) (hLe : q * den ≤ num) :
    q ≤ nearestEven num den := by
  have hBound := (nearestEven_bounds num h).1
  have hScaled : 2 * q * den ≤ (2 * nearestEven num den + 1) * den := by
    rw [Nat.mul_assoc]
    omega
  have := Nat.le_of_mul_le_mul_right hScaled h
  omega

theorem nearestEven_le {num den q : Nat} (h : 0 < den) (hLe : num ≤ q * den) :
    nearestEven num den ≤ q := by
  have hBound := (nearestEven_bounds num h).2
  have hScaled : 2 * nearestEven num den * den ≤ (2 * q + 1) * den := by
    rw [Nat.mul_assoc, Nat.add_mul, Nat.mul_assoc, Nat.one_mul]
    omega
  have := Nat.le_of_mul_le_mul_right hScaled h
  omega

/-! ## The word for what is not a number -/

/-- A text is the word for what is not a number: `nan` in letters of either case, with or without a
minus sign before it and a remark in brackets behind it. -/
def DenotesNotANumber (text : List Char) : Prop :=
  ∃ word, (text = word ∨ text = '-' :: word) ∧
    (word.map Char.toLower = "nan".toList ∨
      ∃ remark, word.map Char.toLower = "nan(".toList ++ remark ++ [')'] ∧
        ∀ c ∈ remark, c.isAlphanum = true ∨ c = '_')

theorem isNotANumberWord_iff {word : List Char} : isNotANumberWord word = true ↔
    word = "nan".toList ∨ ∃ remark, word = "nan(".toList ++ remark ++ [')'] ∧
      ∀ c ∈ remark, c.isAlphanum = true ∨ c = '_' := by
  unfold isNotANumberWord
  rw [Bool.or_eq_true, beq_iff_eq]
  refine or_congr Iff.rfl ?_
  constructor
  · intro h
    split at h
    · rename_i remark
      simp only [Bool.and_eq_true, beq_iff_eq, List.all_eq_true, Bool.or_eq_true] at h
      obtain ⟨hLast, hRemark⟩ := h
      refine ⟨remark.dropLast, ?_, hRemark⟩
      rw [List.append_assoc, List.dropLast_append_getLast? _ hLast]
      rfl
    · cases h
  · rintro ⟨remark, rfl, hRemark⟩
    simpa using hRemark

theorem isNotANumberWord_of_letters {word : List Char} (h : word.head? = some 'i') :
    isNotANumberWord word = false := by
  cases word with
  | nil => rfl
  | cons c rest =>
    cases h
    rfl

/-- The sign and the rest of a text whose first letter is no sign. -/
theorem takeMinus_of_head {word : List Char} (h : word.head? ≠ some '-') :
    takeMinus word = (false, word) := by
  unfold takeMinus
  split
  · exact absurd rfl h
  · rfl

/-- The word is read behind the sign. -/
theorem real?_eq_notANumber_iff_word {text : List Char} :
    (∃ negative, real? text = some (.notANumber negative)) ↔
      isNotANumberWord ((takeMinus text).2.map Char.toLower) = true := by
  unfold real?
  dsimp only
  split
  · rename_i hInfinite
    have hHead : ((takeMinus text).2.map Char.toLower).head? = some 'i' := by
      rcases hInfinite with h | h <;> rw [h] <;> rfl
    simp [isNotANumberWord_of_letters hHead]
  · split
    · rename_i hWord
      simp [hWord]
    · rename_i hWord
      simp [hWord]

theorem real?_eq_notANumber_iff {text : List Char} :
    (∃ negative, real? text = some (.notANumber negative)) ↔ DenotesNotANumber text := by
  simp only [real?_eq_notANumber_iff_word, isNotANumberWord_iff]
  constructor
  · intro hWord
    refine ⟨(takeMinus text).2, ?_, hWord⟩
    unfold takeMinus
    split
    · exact Or.inr rfl
    · exact Or.inl rfl
  · rintro ⟨word, hText | hText, hWord⟩ <;> rw [hText]
    · have hHead : word.head? ≠ some '-' := by
        intro hMinus
        have hLower : (word.map Char.toLower).head? = some '-' := by
          rw [List.head?_map, hMinus]
          rfl
        rcases hWord with hWord | ⟨remark, hWord, _⟩ <;> rw [hWord] at hLower <;> cases hLower
      rw [takeMinus_of_head hHead]
      exact hWord
    · exact hWord

end Numeric

namespace Viewer

namespace PanelWidth

/-- A number of at least 300 and at most 900 pixels. -/
def Usable (width : PanelWidth) : Prop :=
  ∃ n, width = .units n ∧ 300 * unitsPerPixel ≤ n ∧ n ≤ 900 * unitsPerPixel

theorem usable_pixels {n : Nat} (hLow : 300 ≤ n) (hHigh : n ≤ 900) : (pixels n).Usable :=
  ⟨_, rfl, Nat.mul_le_mul_right _ hLow, Nat.mul_le_mul_right _ hHigh⟩

/-- Rounding to whole steps does not lead out of bounds that are whole steps. -/
theorem rounded_usable {num den step : Nat} (low high : Nat) (hStep : 0 < step * den)
    (hLow : low * step = 300) (hHigh : high * step = 900)
    (hNum : 300 * den ≤ num ∧ num ≤ 900 * den) :
    (units (Numeric.nearestEven (num * unitsPerPixel) (step * den) * step)).Usable := by
  have hLowest : low * unitsPerPixel ≤
      Numeric.nearestEven (num * unitsPerPixel) (step * den) := by
    refine Numeric.le_nearestEven hStep ?_
    calc low * unitsPerPixel * (step * den) = low * step * den * unitsPerPixel := by ring
      _ = 300 * den * unitsPerPixel := by rw [hLow]
      _ ≤ num * unitsPerPixel := Nat.mul_le_mul_right _ hNum.1
  have hHighest : Numeric.nearestEven (num * unitsPerPixel) (step * den) ≤
      high * unitsPerPixel := by
    refine Numeric.nearestEven_le hStep ?_
    calc num * unitsPerPixel ≤ 900 * den * unitsPerPixel := Nat.mul_le_mul_right _ hNum.2
      _ = high * step * den * unitsPerPixel := by rw [hHigh]
      _ = high * unitsPerPixel * (step * den) := by ring
  refine ⟨_, rfl, ?_, ?_⟩
  · calc 300 * unitsPerPixel = low * unitsPerPixel * step := by rw [← hLow]; ring
      _ ≤ _ := Nat.mul_le_mul_right _ hLowest
  · calc _ ≤ high * unitsPerPixel * step := Nat.mul_le_mul_right _ hHighest
      _ = 900 * unitsPerPixel := by rw [← hHigh]; ring

/-- A magnitude is moved into the bounds. -/
theorem ofQuotient_usable (num : Nat) {den : Nat} (hDen : 0 < den) :
    (ofQuotient num den).Usable := by
  unfold ofQuotient
  split
  · exact usable_pixels (by decide) (by decide)
  · rename_i hLow
    split
    · exact usable_pixels (by decide) (by decide)
    · rename_i hHigh
      have hNum : 300 * den ≤ num ∧ num ≤ 900 * den := ⟨Nat.not_lt.mp hLow, Nat.not_lt.mp hHigh⟩
      -- From 512 on a step is two units, and both bounds are still whole steps.
      dsimp only
      split
      · exact rounded_usable 300 900 (Nat.mul_pos Nat.one_pos hDen) rfl rfl hNum
      · exact rounded_usable 150 450 (Nat.mul_pos Nat.two_pos hDen) rfl rfl hNum

/-- Of the texts that are read only the word for what is not a number gives no width in the
bounds. -/
theorem usable_iff_of_ofText? {text : List Char} {width : PanelWidth}
    (h : ofText? text = some width) : width.Usable ↔ ¬ Numeric.DenotesNotANumber text := by
  rw [← Numeric.real?_eq_notANumber_iff]
  obtain ⟨numeral, hRead, hWidth⟩ := Option.bind_eq_some_iff.mp h
  rw [hRead]
  cases numeral with
  | notANumber negative =>
    cases hWidth
    simp [Usable]
  | infinite negative =>
    cases hWidth
    have hUsable : (pixels (if negative then least else greatest)).Usable := by
      cases negative <;> exact usable_pixels (by decide) (by decide)
    simp [hUsable]
  | finite d =>
    have hDen : 0 < d.quotient.2 := by
      unfold Numeric.Decimal.quotient
      split
      · exact Nat.one_pos
      · exact Nat.pow_pos (by decide)
    have hUsable : width.Usable := by
      simp only [ofReal?] at hWidth
      split at hWidth
      · cases hWidth
      · split at hWidth <;> cases hWidth
        · exact usable_pixels (by decide) (by decide)
        · exact ofQuotient_usable _ hDen
    simp [hUsable]

end PanelWidth

namespace Settings

/-- A text is read as a width. -/
def ReadAs (text : List Char) (width : PanelWidth) : Prop := PanelWidth.ofText? text = some width

/-- There is one last line that says something. -/
theorem last_unique (Says : List Char → Prop) {before after before' after' : List (List Char)}
    {line line' : List Char} (h : before ++ line :: after = before' ++ line' :: after')
    (hLine : Says line) (hAfter : ∀ l ∈ after, ¬ Says l) (hLine' : Says line')
    (hAfter' : ∀ l ∈ after', ¬ Says l) : line = line' := by
  rcases List.append_eq_append_iff.mp h with ⟨rest, _, hRest⟩ | ⟨rest, _, hRest⟩
  · cases rest with
    | nil => exact (List.cons.inj hRest).1
    | cons _ rest =>
      have hMem : line' ∈ after := by rw [(List.cons.inj hRest).2]; simp
      exact absurd hLine' (hAfter line' hMem)
  · cases rest with
    | nil => exact (List.cons.inj hRest).1.symm
    | cons _ rest =>
      have hMem : line ∈ after' := by rw [(List.cons.inj hRest).2]; simp
      exact absurd hLine (hAfter' line hMem)

/-- **The loaded width is a number in the bounds unless the last width that is read is the word for
what is not a number.** -/
theorem loads_usable_width_iff (text : String) :
    (load text).panelWidth.Usable ↔
      ¬ ∃ before value after,
        fileLines text = before ++ ("ui_workspace_width".toList ++ '=' :: value) :: after ∧
        Numeric.DenotesNotANumber value ∧
        ∀ l ∈ after, ∀ width, ¬ Gives "ui_workspace_width" ReadAs l width := by
  have hSays : ∀ {value : List Char}, Numeric.DenotesNotANumber value →
      ∃ width, Gives "ui_workspace_width" ReadAs
        ("ui_workspace_width".toList ++ '=' :: value) width := by
    intro value hWord
    obtain ⟨negative, hRead⟩ := Numeric.real?_eq_notANumber_iff.mpr hWord
    exact ⟨.notANumber negative, value, rfl, by rw [ReadAs, PanelWidth.ofText?, hRead]; rfl⟩
  have hDecided : Decided (Gives "ui_workspace_width" ReadAs) (.pixels 440) (fileLines text)
      (load text).panelWidth :=
    decided_field panelWidth_readLine (by decide) (fun _ _ => Iff.rfl) rfl text
  rcases hDecided with ⟨before, line, after, hLines, hGives, hAfter⟩ | ⟨hSilent, hDefault⟩
  · obtain ⟨value, rfl, hRead⟩ := hGives
    rw [PanelWidth.usable_iff_of_ofText? hRead]
    refine not_congr ⟨fun hWord => ⟨before, value, after, hLines, hWord, hAfter⟩, ?_⟩
    rintro ⟨before', value', after', hLines', hWord, hAfter'⟩
    have hSame := last_unique (fun l => ∃ width, Gives "ui_workspace_width" ReadAs l width)
      (hLines.symm.trans hLines') ⟨_, value, rfl, hRead⟩ (fun l hl h => h.elim (hAfter l hl))
      (hSays hWord) fun l hl h => h.elim (hAfter' l hl)
    rwa [(List.cons.inj (List.append_cancel_left hSame)).2]
  · rw [hDefault]
    refine iff_of_true (PanelWidth.usable_pixels (by decide) (by decide)) ?_
    rintro ⟨before, value, after, hLines, hWord, _⟩
    obtain ⟨width, hGives⟩ := hSays hWord
    exact hSilent _ (by rw [hLines]; simp) width hGives

/-- A line with the word for what is not a number gives a width that is none. -/
theorem loads_no_width_from_nan :
    (load "ui_workspace_width=nan\n").panelWidth = .notANumber false ∧
    ¬ (load "ui_workspace_width=nan\n").panelWidth.Usable := by
  have hWidth : (load "ui_workspace_width=nan\n").panelWidth = .notANumber false := by
    decide +kernel
  refine ⟨hWidth, ?_⟩
  rw [hWidth]
  rintro ⟨n, hUnits, _⟩
  cases hUnits

end Settings

end Viewer

end StoragePlan

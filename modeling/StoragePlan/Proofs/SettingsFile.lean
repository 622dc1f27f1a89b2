import StoragePlan.Proofs.Numerals
import StoragePlan.Viewer.Settings
import Mathlib.Data.List.Basic

/-!
# The settings file

Reading the settings goes through the lines of a text one by one, and every line sets at most the
one field of its key (`readLine_eq`).  So a field is decided by the last line that gives a value to
its key, and a line that gives none can be put anywhere.  A text is any list of characters; a string
of bytes is one with a character for each byte.

* `Gives`: a line gives a value to a key; `Decided`: the last such line decides, else the default.
* `Idle`: a line without a known key or with a value that does not parse.
* `load_by_last_lines`: **each field is decided by the last line with its key and a value that
  parses, idle lines change nothing, and what was saved is loaded again**.
-/

namespace StoragePlan.Viewer.Settings

open Numeric

variable {α : Type} {key value line : List Char} {lines : List (List Char)}

/-! ## Lines -/

/-- The lines of a text. -/
def fileLines (text : String) : List (List Char) := text.toList.splitOn '\n'

/-- Lines that are each ended are found again, and nothing stands behind the last end. -/
theorem splitOn_flatMap (hLines : ∀ l ∈ lines, '\n' ∉ l) :
    (lines.flatMap fun l => l ++ ['\n']).splitOn '\n' = lines ++ [[]] := by
  induction lines with
  | nil => exact List.splitOn_nil _
  | cons l lines ih =>
    have hFirst : l.splitOn '\n' = [l] :=
      List.splitOn_eq_singleton (hLines l List.mem_cons_self)
    have hRest := ih fun l' hl' => hLines l' (List.mem_cons_of_mem _ hl')
    rw [List.splitOn_eq_splitOnP] at hFirst hRest ⊢
    rw [List.flatMap_cons, List.append_assoc, List.singleton_append,
      List.splitOnP_append_cons _ _ (by decide), hFirst, hRest]
    rfl

/-- A line is split at its first equals sign. -/
theorem split_at_sign (hKey : '=' ∉ key) (value : List Char) :
    (key ++ '=' :: value).takeWhile (· ≠ '=') = key ∧
      (key ++ '=' :: value).dropWhile (· ≠ '=') = '=' :: value := by
  have hPos : ∀ c ∈ key, decide (c ≠ '=') = true := fun c hc =>
    decide_eq_true fun hEq => hKey (hEq ▸ hc)
  rw [List.takeWhile_append_of_pos hPos, List.dropWhile_append_of_pos hPos]
  simp

theorem entry_eq_some_iff :
    entry? line = some (key, value) ↔
      line = key ++ '=' :: value ∧ '=' ∉ key ∧ key ≠ [] ∧ value ≠ [] := by
  constructor
  · intro h
    simp only [ entry?, Option.ite_none_left_eq_some, not_or, Option.some_inj, Prod.mk.injEq] at h
    obtain ⟨⟨hKey, hValue⟩, rfl, rfl⟩ := h
    refine ⟨?_, fun hMem => ?_, hKey, hValue⟩
    · -- The rest of the line is not empty, since a value stands in it, so it begins with the sign.
      have hRest : line.dropWhile (· ≠ '=') ≠ [] := by
        intro hNil
        rw [hNil] at hValue
        exact hValue rfl
      have hSign : (line.dropWhile (· ≠ '=')).head hRest = '=' := by
        simpa using List.head_dropWhile_not (· ≠ '=') hRest
      have hTail : '=' :: (line.dropWhile (· ≠ '=')).drop 1 = line.dropWhile (· ≠ '=') := by
        conv_rhs => rw [← List.cons_head_tail hRest, hSign]
        rw [List.drop_one]
      rw [hTail, List.takeWhile_append_dropWhile]
    · simpa using List.all_eq_true.mp List.all_takeWhile _ hMem
  · rintro ⟨rfl, hSign, hKey, hValue⟩
    obtain ⟨hTake, hDrop⟩ := split_at_sign hSign value
    simp only [ entry?, hTake, hDrop, List.drop_one, List.tail_cons, hKey, hValue, or_self,
      if_false]

/-! ## What a line sets -/

/-- The value that a line gives to a key. -/
def assigned? (key : String) (parse : List Char → Option α) (line : List Char) : Option α :=
  entry? line >>= fun (k, value) => if k = key.toList then parse value else none

/-- A number of at least a given size. -/
def boundedBelow? (least : Int32) (text : List Char) : Option Int32 :=
  (int32? text).map (max least)

/-- A line sets the field of its key, and no other one. -/
theorem readLine_eq (s : Settings) (line : List Char) : s.readLine line =
    { windowWidth :=
        (assigned? "window_width" (boundedBelow? leastWindowWidth) line).getD s.windowWidth
      windowHeight :=
        (assigned? "window_height" (boundedBelow? leastWindowHeight) line).getD s.windowHeight
      showWorkspace := (assigned? "ui_show_workspace" truth? line).getD s.showWorkspace
      panelWidth := (assigned? "ui_workspace_width" PanelWidth.ofText? line).getD s.panelWidth
      showSizes := (assigned? "show_device_sizes" truth? line).getD s.showSizes } := by
  unfold readLine assigned?
  cases entry? line with
  | none => rfl
  | some entry =>
    obtain ⟨key, value⟩ := entry
    simp only [Option.bind_eq_bind, Option.bind_some, read]
    -- The five keys differ, so in each case one field is set and the others see another key.
    split_ifs <;> first | rfl | simp_all

section

variable (s : Settings) (line : List Char)

theorem windowWidth_readLine : (s.readLine line).windowWidth =
    (assigned? "window_width" (boundedBelow? leastWindowWidth) line).getD s.windowWidth := by
  rw [readLine_eq]

theorem windowHeight_readLine : (s.readLine line).windowHeight =
    (assigned? "window_height" (boundedBelow? leastWindowHeight) line).getD s.windowHeight := by
  rw [readLine_eq]

theorem showWorkspace_readLine : (s.readLine line).showWorkspace =
    (assigned? "ui_show_workspace" truth? line).getD s.showWorkspace := by
  rw [readLine_eq]

theorem panelWidth_readLine : (s.readLine line).panelWidth =
    (assigned? "ui_workspace_width" PanelWidth.ofText? line).getD s.panelWidth := by
  rw [readLine_eq]

theorem showSizes_readLine : (s.readLine line).showSizes =
    (assigned? "show_device_sizes" truth? line).getD s.showSizes := by
  rw [readLine_eq]

end

/-! ## The last line decides -/

/-- A line gives a value to a key: it is the key, an equals sign and a text that denotes the
value. -/
def Gives (key : String) (Means : List Char → α → Prop) (line : List Char) (v : α) : Prop :=
  ∃ text, line = key.toList ++ '=' :: text ∧ Means text v

/-- The last line that says a value decides; when there is none, the default does. -/
def Decided (Says : List Char → α → Prop) (default : α) (lines : List (List Char)) (v : α) : Prop :=
  (∃ before line after, lines = before ++ line :: after ∧ Says line v ∧
    ∀ l ∈ after, ∀ w, ¬ Says l w) ∨
  ((∀ l ∈ lines, ∀ w, ¬ Says l w) ∧ v = default)

theorem assigned?_eq_some_iff {key : String} {parse : List Char → Option α}
    {Means : List Char → α → Prop} (hKey : '=' ∉ key.toList ∧ key.toList ≠ [])
    (hParse : ∀ text v, parse text = some v ↔ Means text v) (hNil : parse [] = none) (v : α) :
    assigned? key parse line = some v ↔ Gives key Means line v := by
  simp only [assigned?, Option.bind_eq_bind, Option.bind_eq_some_iff,
    Option.ite_none_right_eq_some, Prod.exists, entry_eq_some_iff, hParse]
  constructor
  · rintro ⟨_, text, ⟨rfl, _⟩, rfl, hMeans⟩
    exact ⟨text, rfl, hMeans⟩
  · rintro ⟨text, rfl, hMeans⟩
    refine ⟨_, text, ⟨rfl, hKey.1, hKey.2, ?_⟩, rfl, hMeans⟩
    rintro rfl
    rw [← hParse, hNil] at hMeans
    cases hMeans

/-- A field that each line sets or leaves is decided by the last line that sets it. -/
theorem field_foldl {field : Settings → α} {value? : List Char → Option α}
    (hField : ∀ (s : Settings) line, field (s.readLine line) = (value? line).getD (field s))
    (s : Settings) (lines : List (List Char)) :
    field (lines.foldl readLine s) = (lines.filterMap value?).getLast?.getD (field s) := by
  induction lines using List.reverseRecOn with
  | nil => rfl
  | append_singleton lines line ih =>
    rw [List.foldl_append, List.foldl_cons, List.foldl_nil, hField, ih, List.filterMap_append,
      List.getLast?_append]
    cases hLine : value? line <;> simp [hLine]

theorem decided_getLast? {Says : List Char → α → Prop} {value? : List Char → Option α}
    (hSays : ∀ line v, value? line = some v ↔ Says line v) (default : α)
    (lines : List (List Char)) :
    Decided Says default lines ((lines.filterMap value?).getLast?.getD default) := by
  have hSilent : ∀ {ls : List (List Char)}, (∀ l ∈ ls, value? l = none) →
      ∀ l ∈ ls, ∀ w, ¬ Says l w := by
    intro ls hNone l hl w hw
    rw [← hSays, hNone l hl] at hw
    cases hw
  rw [List.getLast?_filterMap]
  cases hLast : lines.reverse.findSome? value? with
  | none =>
    refine Or.inr ⟨hSilent fun l hl => ?_, rfl⟩
    exact List.findSome?_eq_none_iff.mp hLast l (List.mem_reverse.mpr hl)
  | some v =>
    obtain ⟨after, line, before, hSplit, hLine, hAfter⟩ := List.findSome?_eq_some_iff.mp hLast
    refine Or.inl ⟨before.reverse, line, after.reverse, ?_, (hSays line v).mp hLine,
      hSilent fun l hl => hAfter l (List.mem_reverse.mp hl)⟩
    rw [← List.reverse_reverse lines, hSplit]
    simp

/-- Lines that do not set a field can be put anywhere. -/
theorem field_insert {field : Settings → α} {value? : List Char → Option α}
    (hField : ∀ (s : Settings) line, field (s.readLine line) = (value? line).getD (field s))
    {before extra after : List (List Char)} (hExtra : ∀ line ∈ extra, value? line = none)
    (s : Settings) : field ((before ++ extra ++ after).foldl readLine s)
      = field ((before ++ after).foldl readLine s) := by
  simp only [field_foldl hField, List.filterMap_append, List.filterMap_eq_nil_iff.mpr hExtra,
    List.append_nil]

/-! ## Values -/

/-- A number of 32 bits in decimal, raised to the least one that is allowed. -/
def AtLeast (least : Int32) (text : List Char) (v : Int32) : Prop :=
  ∃ n : Int32, DenotesInt text n.toInt ∧ max least n = v

/-- The words for a truth value. -/
def DenotesTruth (text : List Char) (b : Bool) : Prop :=
  text ∈ (if b then ["1", "true", "True"] else ["0", "false", "False"]).map String.toList

theorem boundedBelow?_eq_some_iff {least v : Int32} {text : List Char} :
    boundedBelow? least text = some v ↔ AtLeast least text v := by
  simp only [boundedBelow?, Option.map_eq_some_iff, int32?_eq_some_iff, AtLeast]

theorem truth?_eq_some_iff {text : List Char} {b : Bool} :
    truth? text = some b ↔ DenotesTruth text b := by
  unfold truth? DenotesTruth
  split
  · rename_i h
    cases b
    · rcases h with rfl | rfl | rfl <;> decide
    · simpa using h
  · rename_i hTrue
    split
    · rename_i h
      cases b
      · simpa using h
      · simpa using hTrue
    · rename_i hFalse
      cases b
      · simpa using hFalse
      · simpa using hTrue

/-- Settings with the same window and the same switches. -/
def Agree (s s' : Settings) : Prop :=
  s.windowWidth = s'.windowWidth ∧ s.windowHeight = s'.windowHeight ∧
    s.showWorkspace = s'.showWorkspace ∧ s.showSizes = s'.showSizes

/-! ## Idle lines -/

/-- The keys of the fields that are numbers in decimal. -/
def numberKeys : List String := ["window_width", "window_height"]

/-- The keys of the fields that are switches. -/
def truthKeys : List String := ["ui_show_workspace", "show_device_sizes"]

/-- A line that is malformed or has an unknown key: it has no equals sign, or what stands before the
first one is no key of these four fields, or what stands behind it is no value of that key. -/
def Idle (line : List Char) : Prop :=
  ∀ (key : String) (value : List Char), line = key.toList ++ '=' :: value → '=' ∉ key.toList →
    (key ∈ numberKeys → ∀ n : Int32, ¬ DenotesInt value n.toInt) ∧
    (key ∈ truthKeys → ∀ b, ¬ DenotesTruth value b)

/-- An idle line gives no value to any of the four keys. -/
theorem idle_iff : Idle line ↔
    (∀ key ∈ numberKeys, assigned? key int32? line = none) ∧
    ∀ key ∈ truthKeys, assigned? key truth? line = none := by
  have hNumber : ∀ key ∈ numberKeys, ∀ n, assigned? key int32? line = some n ↔
      Gives key (fun text (n : Int32) => DenotesInt text n.toInt) line n := by
    intro key hKey
    refine assigned?_eq_some_iff ?_ (fun _ _ => int32?_eq_some_iff) rfl
    revert key
    decide
  have hTruth : ∀ key ∈ truthKeys, ∀ b, assigned? key truth? line = some b ↔
      Gives key DenotesTruth line b := by
    intro key hKey
    refine assigned?_eq_some_iff ?_ (fun _ _ => truth?_eq_some_iff) rfl
    revert key
    decide
  have hSign : ∀ key ∈ numberKeys ++ truthKeys, '=' ∉ key.toList := by decide
  constructor
  · intro h
    refine ⟨fun key hKey => ?_, fun key hKey => ?_⟩
    · refine Option.eq_none_iff_forall_ne_some.mpr fun n hn => ?_
      obtain ⟨text, hLine, hMeans⟩ := (hNumber key hKey n).mp hn
      exact (h key text hLine (hSign key (List.mem_append_left _ hKey))).1 hKey n hMeans
    · refine Option.eq_none_iff_forall_ne_some.mpr fun b hb => ?_
      obtain ⟨text, hLine, hMeans⟩ := (hTruth key hKey b).mp hb
      exact (h key text hLine (hSign key (List.mem_append_right _ hKey))).2 hKey b hMeans
  · rintro ⟨hNone, hNone'⟩ key value hLine _
    refine ⟨fun hKey n hMeans => ?_, fun hKey b hMeans => ?_⟩
    · have hSome := (hNumber key hKey n).mpr ⟨value, hLine, hMeans⟩
      rw [hNone key hKey] at hSome
      cases hSome
    · have hSome := (hTruth key hKey b).mpr ⟨value, hLine, hMeans⟩
      rw [hNone' key hKey] at hSome
      cases hSome

instance : DecidablePred Idle := fun _ => decidable_of_iff' _ idle_iff

theorem assigned?_map {β : Type} {key : String} {parse : List Char → Option α} (f : α → β) :
    assigned? key (fun text => (parse text).map f) line = (assigned? key parse line).map f := by
  unfold assigned?
  cases entry? line with
  | none => rfl
  | some entry =>
    exact (apply_ite (Option.map f) (entry.1 = key.toList) (parse entry.2) none).symm

/-- Idle lines can be put anywhere. -/
theorem agree_insert {before extra after : List (List Char)} (hIdle : ∀ line ∈ extra, Idle line)
    (s : Settings) :
    ((before ++ extra ++ after).foldl readLine s).Agree ((before ++ after).foldl readLine s) := by
  have hNumber : ∀ key ∈ numberKeys, ∀ least, ∀ line ∈ extra,
      assigned? key (boundedBelow? least) line = none := by
    intro key hKey least line hLine
    have hMap : assigned? key (boundedBelow? least) line
        = (assigned? key int32? line).map (max least) := assigned?_map (max least)
    rw [hMap, (idle_iff.mp (hIdle line hLine)).1 key hKey]
    rfl
  have hTruth : ∀ key ∈ truthKeys, ∀ line ∈ extra, assigned? key truth? line = none :=
    fun key hKey line hLine => (idle_iff.mp (hIdle line hLine)).2 key hKey
  exact ⟨field_insert windowWidth_readLine (hNumber _ (by decide) _) s,
    field_insert windowHeight_readLine (hNumber _ (by decide) _) s,
    field_insert showWorkspace_readLine (hTruth _ (by decide)) s,
    field_insert showSizes_readLine (hTruth _ (by decide)) s⟩

/-! ## Saving and loading -/

/-- A key and the text of its value as a line. -/
def entryLine (entry : String × List Char) : List Char := entry.1.toList ++ '=' :: entry.2

/-- What is written for some settings, with the width of the workspace written in some way. -/
def entries (s : Settings) (panel : String) : List (String × List Char) :=
  [ ("window_width", s.windowWidth.toInt.repr.toList),
    ("window_height", s.windowHeight.toInt.repr.toList),
    ("ui_show_workspace", (truthText s.showWorkspace).toList),
    ("ui_workspace_width", panel.toList),
    ("show_device_sizes", (truthText s.showSizes).toList) ]

/-- The text for some settings with the width of the workspace written in some way. -/
def saveAs (s : Settings) (panel : String) : String :=
  String.ofList ((s.entries panel).flatMap fun entry => entryLine entry ++ ['\n'])

theorem save_eq (s : Settings) : s.save = s.saveAs s.panelWidth.text := by
  rw [← String.toList_inj]
  simp [save, lines, saveAs, entries, entryLine]

theorem newline_not_mem_of_denotesInt {text : List Char} {z : Int} (h : DenotesInt text z) :
    '\n' ∉ text := by
  have hRun : ∀ {run : List Char} {n : Nat}, Denotes run n → '\n' ∉ run := fun hRun hMem =>
    absurd (hRun.isDigit _ hMem) (by decide)
  cases h with
  | plain h => exact hRun h
  | minus h => exact List.not_mem_cons_of_ne_of_not_mem (by decide) (hRun h)

theorem fileLines_saveAs (s : Settings) {panel : String} (hPanel : '\n' ∉ panel.toList) :
    fileLines (s.saveAs panel) = (s.entries panel).map entryLine ++ [[]] := by
  have hLines : ∀ l ∈ (s.entries panel).map entryLine, '\n' ∉ l := by
    have hWidth := newline_not_mem_of_denotesInt (denotesInt_repr s.windowWidth.toInt)
    have hHeight := newline_not_mem_of_denotesInt (denotesInt_repr s.windowHeight.toInt)
    have hTruth : ∀ b, '\n' ∉ (truthText b).toList := by decide
    simp [entries, entryLine, hWidth, hHeight, hTruth, hPanel]
  rw [← splitOn_flatMap hLines, List.flatMap_map, fileLines, saveAs, String.toList_ofList]

/-- Of written entries a key gets the values of its own. -/
theorem filterMap_entryLine {entries : List (String × List Char)} {key : String}
    {parse : List Char → Option α}
    (hKeys : ∀ entry ∈ entries, '=' ∉ entry.1.toList ∧ entry.1.toList ≠ [])
    (hNil : parse [] = none) :
    (entries.map entryLine).filterMap (assigned? key parse)
      = entries.filterMap fun entry => if entry.1 = key then parse entry.2 else none := by
  rw [List.filterMap_map]
  refine List.filterMap_congr fun entry hEntry => ?_
  obtain ⟨hSign, hKey⟩ := hKeys entry hEntry
  obtain ⟨hTake, hDrop⟩ := split_at_sign hSign entry.2
  simp only [Function.comp, assigned?, entryLine, entry?, hTake, hDrop]
  by_cases hValue : entry.2 = []
  · simp [hValue, hNil]
  · simp [hKey, hValue, String.toList_inj]

/-- A field whose text denotes it is loaded again. -/
theorem load_saveAs_field {field : Settings → α} {key : String} {parse : List Char → Option α}
    (hField : ∀ (s : Settings) line, field (s.readLine line) =
      (assigned? key parse line).getD (field s)) (hNil : parse [] = none) {s : Settings}
    {panel : String} (hPanel : '\n' ∉ panel.toList)
    (hOwn : ((s.entries panel).filterMap fun entry =>
      if entry.1 = key then parse entry.2 else none) = [field s]) :
    field (load (s.saveAs panel)) = field s := by
  have hKeys : ∀ entry ∈ s.entries panel, '=' ∉ entry.1.toList ∧ entry.1.toList ≠ [] := by
    simp [entries]
  have hEmpty : assigned? key parse [] = none := rfl
  show field ((fileLines (s.saveAs panel)).foldl readLine {}) = _
  rw [field_foldl hField, fileLines_saveAs s hPanel, List.filterMap_append,
    filterMap_entryLine hKeys hNil, hOwn]
  simp [hEmpty]

theorem boundedBelow?_repr {least v : Int32} (h : least ≤ v) :
    boundedBelow? least v.toInt.repr.toList = some v :=
  boundedBelow?_eq_some_iff.mpr ⟨v, denotesInt_repr _, if_pos h⟩

theorem truth?_truthText (b : Bool) : truth? (truthText b).toList = some b := by
  cases b <;> decide

/-- What was saved is loaded again, however the width of the workspace was written. -/
theorem load_saveAs (s : Settings) {panel : String} (hPanel : '\n' ∉ panel.toList)
    (hWidth : leastWindowWidth ≤ s.windowWidth) (hHeight : leastWindowHeight ≤ s.windowHeight) :
    (load (s.saveAs panel)).Agree s := by
  refine ⟨?_, ?_, ?_, ?_⟩
  · refine load_saveAs_field windowWidth_readLine rfl hPanel ?_
    simp [entries, boundedBelow?_repr hWidth]
  · refine load_saveAs_field windowHeight_readLine rfl hPanel ?_
    simp [entries, boundedBelow?_repr hHeight]
  · refine load_saveAs_field showWorkspace_readLine rfl hPanel ?_
    simp [entries, truth?_truthText]
  · refine load_saveAs_field showSizes_readLine rfl hPanel ?_
    simp [entries, truth?_truthText]

theorem newline_not_mem_text (width : PanelWidth) : '\n' ∉ width.text.toList := by
  cases width with
  | notANumber negative => cases negative <;> decide
  | units n =>
    have hDigits : ∀ m, '\n' ∉ Nat.toDigits 10 m := fun m hMem =>
      absurd (Nat.isDigit_of_mem_toDigits (by decide) (by decide) hMem) (by decide)
    have hStrip : ∀ digits : List Char, '\n' ∉ digits → '\n' ∉ PanelWidth.stripZeros digits :=
      fun digits hNot hMem => hNot <| List.mem_reverse.mp <|
        (List.dropWhile_suffix _).subset (List.mem_reverse.mp hMem)
    have hPad : ∀ m, '\n' ∉ List.leftpad 3 '0' (Nat.toDigits 10 m) := by
      intro m hMem
      rcases List.mem_append.mp hMem with hMem | hMem
      · exact absurd (List.eq_of_mem_replicate hMem) (by decide)
      · exact hDigits m hMem
    simp only [PanelWidth.text, String.toList_append, Nat.toList_repr, List.mem_append, not_or]
    refine ⟨hDigits _, ?_⟩
    split
    · decide
    · rw [String.toList_append, List.mem_append, not_or]
      refine ⟨by decide, ?_⟩
      rw [String.toList_ofList]
      exact hStrip _ (hPad _)

theorem decided_field {field : Settings → α} {key : String} {parse : List Char → Option α}
    {Means : List Char → α → Prop}
    (hField : ∀ (s : Settings) line, field (s.readLine line) =
      (assigned? key parse line).getD (field s))
    (hKey : '=' ∉ key.toList ∧ key.toList ≠ [])
    (hParse : ∀ text v, parse text = some v ↔ Means text v) (hNil : parse [] = none)
    (text : String) :
    Decided (Gives key Means) (field {}) (fileLines text) (field (load text)) := by
  show Decided _ _ _ (field ((fileLines text).foldl readLine {}))
  rw [field_foldl hField]
  exact decided_getLast? (fun line v => assigned?_eq_some_iff hKey hParse hNil v) _ _

/-- **Each field is decided by the last line with its key and a value that parses, idle lines change
nothing, and what was saved is loaded again.**  A width is raised to at least 640 and a height to at
least 480.  The last part holds however the width of the workspace is written. -/
theorem load_by_last_lines :
    (∀ text : String,
      Decided (Gives "window_width" (AtLeast 640)) 1280 (fileLines text) (load text).windowWidth ∧
      Decided (Gives "window_height" (AtLeast 480)) 720 (fileLines text)
        (load text).windowHeight ∧
      Decided (Gives "ui_show_workspace" DenotesTruth) true (fileLines text)
        (load text).showWorkspace ∧
      Decided (Gives "show_device_sizes" DenotesTruth) true (fileLines text)
        (load text).showSizes) ∧
    (∀ (text text' : String) (before extra after : List (List Char)),
      fileLines text = before ++ after → fileLines text' = before ++ extra ++ after →
      (∀ line ∈ extra, Idle line) → (load text').Agree (load text)) ∧
    ∀ s : Settings, 640 ≤ s.windowWidth → 480 ≤ s.windowHeight →
      (load s.save).Agree s ∧
      ∀ panel : String, '\n' ∉ panel.toList → (load (s.saveAs panel)).Agree s := by
  refine ⟨fun text => ⟨?_, ?_, ?_, ?_⟩, ?_, ?_⟩
  · exact decided_field windowWidth_readLine (by decide)
      (fun _ _ => boundedBelow?_eq_some_iff) rfl text
  · exact decided_field windowHeight_readLine (by decide)
      (fun _ _ => boundedBelow?_eq_some_iff) rfl text
  · exact decided_field showWorkspace_readLine (by decide) (fun _ _ => truth?_eq_some_iff) rfl text
  · exact decided_field showSizes_readLine (by decide) (fun _ _ => truth?_eq_some_iff) rfl text
  · intro text text' before extra after hLines hLines' hIdle
    show ((fileLines text').foldl readLine {}).Agree ((fileLines text).foldl readLine {})
    rw [hLines, hLines']
    exact agree_insert hIdle {}
  · intro s hWidth hHeight
    refine ⟨?_, fun panel hPanel => load_saveAs s hPanel hWidth hHeight⟩
    rw [save_eq]
    exact load_saveAs s (newline_not_mem_text s.panelWidth) hWidth hHeight

/-- A text with two widths, into which idle lines are put, and settings with a tall window. -/
theorem load_by_last_lines_of_edited_file :
    let text := "window_width=800\nui_show_workspace=False\nwindow_width=100"
    let text' := "window_width=800\nwindow_width=8oo\n=5\ncolour=blue\nshow_device_sizes=2\n" ++
      "ui_show_workspace=False\nwindow_width=100"
    let s : Settings :=
      { windowWidth := 1920, windowHeight := 2160, showWorkspace := false, showSizes := false,
        panelWidth := .notANumber true }
    (fileLines text = ["window_width=800".toList] ++
        ["ui_show_workspace=False".toList, "window_width=100".toList] ∧
      fileLines text' = ["window_width=800".toList] ++
        ["window_width=8oo", "=5", "colour=blue", "show_device_sizes=2"].map String.toList ++
        ["ui_show_workspace=False".toList, "window_width=100".toList] ∧
      (∀ line ∈ ["window_width=8oo", "=5", "colour=blue", "show_device_sizes=2"].map String.toList,
        Idle line) ∧
      640 ≤ s.windowWidth ∧ 480 ≤ s.windowHeight ∧ '\n' ∉ "1e+06".toList) ∧
    (load text').Agree (load text) ∧ (load text).windowWidth = 640 ∧
    (load s.save).Agree s ∧ (load (s.saveAs "1e+06")).Agree s := by
  intro text text' s
  have hLines : fileLines text = ["window_width=800".toList] ++
      ["ui_show_workspace=False".toList, "window_width=100".toList] := by decide +kernel
  have hLines' : fileLines text' = ["window_width=800".toList] ++
      ["window_width=8oo", "=5", "colour=blue", "show_device_sizes=2"].map String.toList ++
      ["ui_show_workspace=False".toList, "window_width=100".toList] := by decide +kernel
  have hIdle : ∀ line ∈
      ["window_width=8oo", "=5", "colour=blue", "show_device_sizes=2"].map String.toList,
      Idle line := by decide +kernel
  obtain ⟨_, hInsert, hSaved⟩ := load_by_last_lines
  obtain ⟨hOwn, hAny⟩ := hSaved s (by decide) (by decide)
  exact ⟨⟨hLines, hLines', hIdle, by decide, by decide, by decide⟩,
    hInsert text text' _ _ _ hLines hLines' hIdle, by decide +kernel, hOwn,
    hAny "1e+06" (by decide)⟩

end StoragePlan.Viewer.Settings

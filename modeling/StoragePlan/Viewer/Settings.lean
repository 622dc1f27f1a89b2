import StoragePlan.Numeric.Numeral
import StoragePlan.Numeric.Rounding

/-!
# Settings of the viewer

What the viewer keeps between runs, and the text in which it is kept: one `key=value` per line.
Reading is lenient: a line without a key, without a value, with an unknown key or with a value that
does not parse changes nothing, and of several lines for one key the last good one counts.
-/

namespace StoragePlan.Viewer

/-! ## The width of the workspace -/

/-- A width in units of `1 / 32768` of a pixel, the spacing of single-precision numbers between 256
and 512.  The word for what is not a number passes as a width, with its sign. -/
inductive PanelWidth where
  | units (n : Nat)
  | notANumber (negative : Bool)
deriving DecidableEq, Repr, Inhabited

namespace PanelWidth

/-- How many units make a pixel. -/
def unitsPerPixel : Nat := 32768

/-- A whole number of pixels. -/
def pixels (n : Nat) : PanelWidth := .units (n * unitsPerPixel)

/-- The least width in pixels. -/
def least : Nat := 300

/-- The greatest width in pixels. -/
def greatest : Nat := 900

/-- The magnitude `num / den` as a width: moved into the bounds, and rounded to single precision,
which from 512 on has only every other unit. -/
def ofQuotient (num den : Nat) : PanelWidth :=
  if num < least * den then pixels least
  else if greatest * den < num then pixels greatest
  else
    let step := if num < 512 * den then 1 else 2
    .units (Numeric.nearestEven (num * unitsPerPixel) (step * den) * step)

/-- The width that a real numeral stands for; none when it is out of the range of single
precision. -/
def ofReal? : Numeric.RealNumeral → Option PanelWidth
  | .notANumber negative => some (.notANumber negative)
  | .infinite negative => some (pixels (if negative then least else greatest))
  | .finite d =>
    if d.isSingle = false then none
    else if d.negative ∨ d.significand = 0 then some (pixels least)
    else some (ofQuotient d.quotient.1 d.quotient.2)

/-- The width that a text stands for. -/
def ofText? (text : List Char) : Option PanelWidth := (Numeric.real? text).bind ofReal?

/-- Digits without the zeros at their end. -/
def stripZeros (digits : List Char) : List Char := (digits.reverse.dropWhile (· == '0')).reverse

/-- A width as text: at most six digits, three of them after the point, without zeros at the end. -/
def text : PanelWidth → String
  | notANumber negative => if negative then "-nan" else "nan"
  | units n =>
    let thousandths := Numeric.nearestEven (n * 1000) unitsPerPixel
    let fraction := stripZeros (List.leftpad 3 '0' (Nat.toDigits 10 (thousandths % 1000)))
    (thousandths / 1000).repr ++ if fraction = [] then "" else "." ++ String.ofList fraction

example : (pixels 440).text = "440" := by decide +kernel
example : (ofText? "4505e-1".toList).map text = some "450.5" := by decide +kernel
example : (ofText? "300.1236".toList).map text = some "300.124" := by decide +kernel
example : (ofText? "1e39".toList).map text = none := by decide +kernel

end PanelWidth

/-! ## Settings -/

/-- What the viewer keeps between runs. -/
structure Settings where
  windowWidth : Int32 := 1280
  windowHeight : Int32 := 720
  showWorkspace : Bool := true
  panelWidth : PanelWidth := .pixels 440
  showSizes : Bool := true
deriving DecidableEq, Repr, Inhabited

namespace Settings

/-- The least width of the window. -/
def leastWindowWidth : Int32 := 640

/-- The least height of the window. -/
def leastWindowHeight : Int32 := 480

/-- The truth value that a text stands for. -/
def truth? (text : List Char) : Option Bool :=
  if text = "1".toList ∨ text = "true".toList ∨ text = "True".toList then some true
  else if text = "0".toList ∨ text = "false".toList ∨ text = "False".toList then some false
  else none

/-- The key and the value of a line, split at its first equals sign; neither may be empty. -/
def entry? (line : List Char) : Option (List Char × List Char) :=
  let key := line.takeWhile (· ≠ '=')
  let value := (line.dropWhile (· ≠ '=')).drop 1
  if key = [] ∨ value = [] then none else some (key, value)

/-- The settings after an entry. -/
def read (settings : Settings) (key value : List Char) : Settings :=
  if key = "window_width".toList then
    { settings with
      windowWidth := ((Numeric.int32? value).map (max leastWindowWidth)).getD settings.windowWidth }
  else if key = "window_height".toList then
    { settings with
      windowHeight :=
        ((Numeric.int32? value).map (max leastWindowHeight)).getD settings.windowHeight }
  else if key = "ui_show_workspace".toList then
    { settings with showWorkspace := (truth? value).getD settings.showWorkspace }
  else if key = "ui_workspace_width".toList then
    { settings with panelWidth := (PanelWidth.ofText? value).getD settings.panelWidth }
  else if key = "show_device_sizes".toList then
    { settings with showSizes := (truth? value).getD settings.showSizes }
  else settings

/-- The settings after a line. -/
def readLine (settings : Settings) (line : List Char) : Settings :=
  match entry? line with
  | none => settings
  | some (key, value) => settings.read key value

/-- The settings that a text stands for. -/
def load (text : String) : Settings := (text.toList.splitOn '\n').foldl readLine {}

/-- A truth value as settings write it. -/
def truthText (b : Bool) : String := if b then "1" else "0"

/-- The lines of the text for some settings. -/
def lines (settings : Settings) : List String :=
  [ "window_width=" ++ settings.windowWidth.toInt.repr,
    "window_height=" ++ settings.windowHeight.toInt.repr,
    "ui_show_workspace=" ++ truthText settings.showWorkspace,
    "ui_workspace_width=" ++ settings.panelWidth.text,
    "show_device_sizes=" ++ truthText settings.showSizes ]

/-- The text for some settings. -/
def save (settings : Settings) : String := String.join (settings.lines.map (· ++ "\n"))

end Settings

end StoragePlan.Viewer

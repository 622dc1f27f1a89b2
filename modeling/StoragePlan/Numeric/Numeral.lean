/-!
# Numerals

Reading decimal numerals.  A numeral must be the whole text: no blank and no plus sign before it,
nothing after it.  Integers are a run of digits with an optional minus sign.  Real numerals may have
a point and an exponent, and there are words for infinity and for what is not a number, in letters
of either case.
-/

namespace StoragePlan.Numeric

/-- The value of a text that holds digits only, at least one. -/
def natural? (text : List Char) : Option Nat :=
  if text ≠ [] ∧ text.all Char.isDigit then some (Nat.ofDigitChars 10 text 0) else none

/-- A text without a leading minus sign, and whether it had one. -/
def takeMinus : List Char → Bool × List Char
  | '-' :: rest => (true, rest)
  | text => (false, text)

/-- The integer that a text denotes. -/
def integer? (text : List Char) : Option Int :=
  let (negative, digits) := takeMinus text
  (natural? digits).map fun n => if negative then -(n : Int) else n

/-- The signed number of 32 bits that a text denotes. -/
def int32? (text : List Char) : Option Int32 :=
  (integer? text).bind fun n =>
    if -2147483648 ≤ n ∧ n ≤ 2147483647 then some (Int32.ofInt n) else none

/-- A finite decimal number, `significand * 10 ^ exponent` with a sign. -/
structure Decimal where
  negative : Bool
  significand : Nat
  exponent : Int
deriving DecidableEq, Repr, Inhabited

/-- What a real numeral denotes. -/
inductive RealNumeral where
  | finite (value : Decimal)
  | infinite (negative : Bool)
  | notANumber (negative : Bool)
deriving DecidableEq, Repr, Inhabited

/-- The exponent that the end of a numeral denotes: zero for an empty end, else the letter `e`, a
sign and digits. -/
def exponent? : List Char → Option Int
  | [] => some 0
  | c :: rest =>
    if c = 'e' ∨ c = 'E' then
      match rest with
      | '+' :: digits => (natural? digits).map Int.ofNat
      | _ => integer? rest
    else none

/-- The point and the digits after it, if a text begins with a point, and the rest of the text. -/
def takeFraction : List Char → List Char × List Char
  | '.' :: rest => (rest.takeWhile Char.isDigit, rest.dropWhile Char.isDigit)
  | text => ([], text)

/-- The finite number that a text without a sign denotes: digits, a point and digits, an exponent.
There is at least one digit before or behind the point. -/
def unsignedDecimal? (negative : Bool) (text : List Char) : Option Decimal :=
  let whole := text.takeWhile Char.isDigit
  let (fraction, rest) := takeFraction (text.dropWhile Char.isDigit)
  match natural? (whole ++ fraction), exponent? rest with
  | some significand, some exponent =>
    some { negative, significand, exponent := exponent - fraction.length }
  | _, _ => none

/-- Whether a text is a word for what is not a number; a remark in brackets may follow, made of
letters, digits and underscores. -/
def isNotANumberWord (word : List Char) : Bool :=
  word == ['n', 'a', 'n'] ||
    match word with
    | 'n' :: 'a' :: 'n' :: '(' :: remark =>
      remark.getLast? == some ')' && remark.dropLast.all fun c => c.isAlphanum || c == '_'
    | _ => false

/-- What a text denotes as a real numeral. -/
def real? (text : List Char) : Option RealNumeral :=
  let (negative, unsigned) := takeMinus text
  let word := unsigned.map Char.toLower
  if word = "inf".toList ∨ word = "infinity".toList then some (.infinite negative)
  else if isNotANumberWord word then some (.notANumber negative)
  else (unsignedDecimal? negative unsigned).map .finite

/-! ## The range of single precision -/

/-- The magnitude of a decimal number as a quotient. -/
def Decimal.quotient (d : Decimal) : Nat × Nat :=
  match d.exponent with
  | .ofNat n => (d.significand * Nat.pow 10 n, 1)
  | .negSucc n => (d.significand, Nat.pow 10 (n + 1))

/-- How many digits stand before the point when the number is written without an exponent; zero or
negative for a number below one. -/
def Decimal.order (d : Decimal) : Int := (Nat.toDigits 10 d.significand).length + d.exponent

/-- Whether a decimal number can be taken as a number of single precision: it rounds to a finite one
of 24 significant bits below `2 ^ 128`, and to zero only if it is zero.  A number of order above 40
is too large and one of order below -45 is too small, so no great power is ever computed. -/
def Decimal.isSingle (d : Decimal) : Bool :=
  if d.significand = 0 then true
  else if 40 < d.order ∨ d.order < -45 then false
  else
    let (num, den) := d.quotient
    decide (2 * num < (Nat.pow 2 25 - 1) * Nat.pow 2 104 * den)
      && decide (den < num * Nat.pow 2 150)

end StoragePlan.Numeric

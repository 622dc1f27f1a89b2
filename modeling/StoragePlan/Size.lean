import StoragePlan.Numeric.Rounding

/-!
# Sizes

A size is a number of bytes in a machine word; its arithmetic wraps.  Logs and screens show it in
the largest binary unit that it reaches.
-/

namespace StoragePlan

/-- A number of bytes. -/
abbrev ByteSize := UInt64

/-- `n` mebibytes. -/
def mebibytes (n : UInt64) : ByteSize := n * 1048576

/-- `n` gibibytes. -/
def gibibytes (n : UInt64) : ByteSize := n * 1073741824

/-- `n` tebibytes. -/
def tebibytes (n : UInt64) : ByteSize := n * 1099511627776

/-- A count of tenths, written with its one decimal. -/
def tenthsText (tenths : Nat) : String :=
  (tenths / 10).repr ++ "." ++ (tenths % 10).repr

/-- A size in a unit: the bare count when it is a whole one, else one decimal.  The size is first
taken to 53 significant bits; then the quotient goes to the nearest tenth, a tie to the even one. -/
def scaledText (size unit : ByteSize) (unitName : String) : String :=
  if size % unit = 0 then (size / unit).toNat.repr ++ " " ++ unitName
  else
    let tenths := Numeric.nearestEven (10 * Numeric.toSignificantBits 53 size.toNat) unit.toNat
    tenthsText tenths ++ " " ++ unitName

/-- A size as logs and screens show it: `500 MiB`, `99.5 GiB`, `12 B`. -/
def sizeText (size : ByteSize) : String :=
  if tebibytes 1 ≤ size then scaledText size (tebibytes 1) "TiB"
  else if gibibytes 1 ≤ size then scaledText size (gibibytes 1) "GiB"
  else if mebibytes 1 ≤ size then scaledText size (mebibytes 1) "MiB"
  else size.toNat.repr ++ " B"

example : sizeText (mebibytes 500) = "500 MiB" := by decide +kernel
example : sizeText (gibibytes 100 - mebibytes 1) = "100.0 GiB" := by decide +kernel
-- A tie goes to the even tenth.
example : sizeText (mebibytes 2 + 262144) = "2.2 MiB" := by decide +kernel
example : sizeText (mebibytes 2 + 786432) = "2.8 MiB" := by decide +kernel

end StoragePlan

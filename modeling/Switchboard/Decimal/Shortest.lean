import Switchboard.Decimal.Binary64

/-!
# The shortest decimal text of a binary64 number

`text` writes a binary64 number with the fewest digits that read back as the same number, always
positional and without a fraction when there is none. A finite number is m · 2^q; the reals that
round to it form an interval that contains its ends exactly when m is even. Powers of ten are tried
from the coarsest down, and the first one of which a multiple lies in the interval gives the digits:
of the two multiples around the number the nearer one is taken, and the upper one if both are
equally near.
-/

namespace Switchboard.Decimal

/-- A positive number m · 2^q. -/
structure Binary where
  mantissa : Nat
  exponent : Int

/-- The gap below the number is half as wide as the gap above it, as it is at a power of two. -/
def Binary.narrowBelow (x : Binary) : Bool :=
  x.mantissa = Binary64.minNormal && Binary64.minExponent < x.exponent

/-- The number of quarter units of the last binary place, times the power of two that makes every
bound whole: the lower end, the number and the upper end of the interval, over one denominator. -/
def Binary.bounds (x : Binary) : Nat × Nat × Nat × Nat :=
  let up := Nat.pow 2 x.exponent.toNat
  let down := Nat.pow 2 (-x.exponent).toNat
  let low := if x.narrowBelow then 4 * x.mantissa - 1 else 4 * x.mantissa - 2
  (low * up, 4 * x.mantissa * up, (4 * x.mantissa + 2) * up, 4 * down)

/-- The multiple of a power of ten that lies in the interval of the number and is nearest to it, as
the factor; `none` if no multiple lies in the interval. -/
def Binary.onGrid (x : Binary) (power : Int) : Option Nat :=
  let (low, value, high, denominator) := x.bounds
  let unit := Nat.pow 10 power.toNat * denominator
  let scale := Nat.pow 10 (-power).toNat
  let inside (point : Nat) : Bool :=
    if x.mantissa % 2 = 0 then low * scale ≤ point && point ≤ high * scale
    else low * scale < point && point < high * scale
  let below := value * scale / unit
  let above := below + 1
  let fitsBelow := below != 0 && inside (below * unit)
  let fitsAbove := inside (above * unit)
  if fitsBelow && fitsAbove then
    if value * scale - below * unit < above * unit - value * scale then some below else some above
  else if fitsBelow then some below
  else if fitsAbove then some above
  else none

/-- Try the given number of powers of ten downwards from a start. -/
def Binary.search (x : Binary) : Nat → Int → Option (Nat × Int)
  | 0, _ => none
  | tries + 1, power =>
    match x.onGrid power with
    | some factor => some (factor, power)
    | none => x.search tries (power - 1)

/-- The fewest digits that read back as the number, as a factor and a power of ten. Every binary64
number has such a power between 10^309 and 10^-324. -/
def Binary.shortest (x : Binary) : Nat × Int :=
  (x.search 640 309).getD (0, 0)

/-- A whole number times a power of ten in positional form, without trailing zeros after the point
beyond those of the number itself. -/
def positional (factor : Nat) (power : Int) : String :=
  let digits := Nat.toDigits 10 factor
  if 0 ≤ power then String.ofList (digits ++ List.replicate power.toNat '0')
  else
    let places := (-power).toNat
    let padded := List.replicate (places + 1 - digits.length) '0' ++ digits
    let whole := padded.length - places
    String.ofList (padded.take whole ++ '.' :: padded.drop whole)

/-- The shortest text of a binary64 number that reads back as it: positional, with a minus sign in
front of negative numbers and negative zero, `inf` for infinity and `NaN` for no number. -/
def text (value : Binary64) : String :=
  let sign (negative : Bool) := if negative then "-" else ""
  match value with
  | .notANumber => "NaN"
  | .infinite negative => sign negative ++ "inf"
  | .finite negative 0 _ => sign negative ++ "0"
  | .finite negative mantissa exponent =>
    let (factor, power) := (Binary.mk mantissa exponent).shortest
    sign negative ++ positional factor power

end Switchboard.Decimal

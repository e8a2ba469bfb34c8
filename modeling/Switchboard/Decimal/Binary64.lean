/-!
# Binary64 numbers

A binary64 number is kept as what it stands for: a sign and m · 2^q with whole m and q, an infinity,
or no number. `Binary64.nearest` gives the number that is nearest to a fraction; of two equally near
ones it gives the one with even m, and beyond the largest number an infinity. Sums are rounded in
the same way. Everything is computed with whole numbers.

The m of a finite number is below 2^53, and at least 2^52 unless q is -1074, the least of all, and q
is 971 at most; so every number has one form only. The type does not say so, but rounding and adding
give numbers in this form.
-/

namespace Switchboard

/-- A number in the binary64 format. Zero has a sign. -/
inductive Binary64 where
  | finite (negative : Bool) (mantissa : Nat) (exponent : Int)
  | infinite (negative : Bool)
  | notANumber
  deriving DecidableEq

namespace Binary64

/-- The least exponent of a finite number. -/
def minExponent : Int := -1074

/-- The largest exponent of a finite number. -/
def maxExponent : Int := 971

/-- The least mantissa of a number whose exponent is not the least. All mantissas are below twice of
it. -/
def minNormal : Nat := Nat.pow 2 52

/-- Zero with a sign. -/
def zero (negative : Bool) : Binary64 :=
  .finite negative 0 minExponent

/-- A whole number times a power of two, as a whole number if the power is not negative, and
otherwise as the numerator over `scaleDown`. -/
def scaleUp (value : Nat) (power : Int) : Nat :=
  value * Nat.pow 2 power.toNat

/-- The power of two that a negative power divides by. -/
def scaleDown (power : Int) : Nat :=
  Nat.pow 2 (-power).toNat

/-- The whole number that is nearest to a fraction; of two equally near ones the even one. -/
def roundEven (numerator denominator : Nat) : Nat :=
  let below := numerator / denominator
  let twice := 2 * (numerator % denominator)
  if denominator < twice || (twice = denominator && below % 2 = 1) then below + 1 else below

/-- The largest power of two that is at most a positive fraction. -/
def log2 (numerator denominator : Nat) : Int :=
  let estimate : Int := (numerator.log2 : Int) - denominator.log2
  if scaleUp denominator estimate ≤ numerator * scaleDown estimate then estimate else estimate - 1

/-- The number that is nearest to a fraction, with a sign. -/
def nearest (negative : Bool) (numerator denominator : Nat) : Binary64 :=
  if numerator = 0 then zero negative
  else
    let exponent := max (log2 numerator denominator - 52) minExponent
    let rounded := roundEven (scaleUp numerator (-exponent)) (scaleUp denominator exponent)
    let (mantissa, exponent) :=
      if rounded = 2 * minNormal then (minNormal, exponent + 1) else (rounded, exponent)
    if maxExponent < exponent then .infinite negative else .finite negative mantissa exponent

/-- The number is neither infinite nor no number. -/
def isFinite : Binary64 → Bool
  | .finite _ _ _ => true
  | _ => false

/-- A magnitude with a sign as a whole number. -/
def signed (negative : Bool) (magnitude : Nat) : Int :=
  if negative then -(magnitude : Int) else magnitude

/-- The sum of two numbers. A sum of zero is negative only if both are. -/
def add : Binary64 → Binary64 → Binary64
  | .finite negative₁ mantissa₁ exponent₁, .finite negative₂ mantissa₂ exponent₂ =>
    let exponent := min exponent₁ exponent₂
    let sum := signed negative₁ (scaleUp mantissa₁ (exponent₁ - exponent)) +
      signed negative₂ (scaleUp mantissa₂ (exponent₂ - exponent))
    if sum = 0 then zero (negative₁ && negative₂)
    else nearest (sum < 0) (scaleUp sum.natAbs exponent) (scaleDown exponent)
  | .infinite negative₁, .infinite negative₂ =>
    if negative₁ = negative₂ then .infinite negative₁ else .notANumber
  | .infinite negative, .finite _ _ _ => .infinite negative
  | .finite _ _ _, .infinite negative => .infinite negative
  | _, _ => .notANumber

instance : Add Binary64 := ⟨add⟩

/-- The bits of a number, as a whole number below 2^64. -/
def bits : Binary64 → Nat
  | .finite negative mantissa exponent =>
    let magnitude :=
      if mantissa < minNormal then mantissa
      else (exponent + 1075).toNat * minNormal + (mantissa - minNormal)
    if negative then 0x8000000000000000 + magnitude else magnitude
  | .infinite negative => if negative then 0xFFF0000000000000 else 0x7FF0000000000000
  | .notANumber => 0x7FF8000000000000

end Binary64

end Switchboard

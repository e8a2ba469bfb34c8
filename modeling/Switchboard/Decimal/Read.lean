import Switchboard.Decimal.Binary64

/-!
# Reading numbers

Numbers as commands and settings write them. `natural?` reads a whole number below 2^64: an optional
plus sign and at least one ASCII digit, leading zeros allowed. `float?` reads a binary64 number: an
optional sign, then either one of the words `inf`, `infinity` and `nan` in any case, or ASCII digits
with at most one point and at least one digit, followed by an optional exponent; the value is the
nearest binary64 number.
-/

namespace Switchboard.Decimal

/-- The character is one of the ten ASCII digits. -/
def isDigit (c : Char) : Bool :=
  '0' ≤ c && c ≤ '9'

/-- The value of an ASCII digit. -/
def digitValue (c : Char) : Nat :=
  c.toNat - 48

/-- The value of a run of digits, most significant first. -/
def valueOf (digits : List Char) : Nat :=
  digits.foldl (fun value c ↦ 10 * value + digitValue c) 0

/-- The number of different values of a 64-bit word. -/
def wordLimit : Nat := Nat.pow 2 64

/-- The text after an optional plus sign. -/
def dropPlus : List Char → List Char
  | '+' :: rest => rest
  | text => text

/-- A whole number below 2^64, read from an optional plus sign and at least one digit. -/
def natural? (text : String) : Option Nat :=
  let digits := dropPlus text.toList
  if digits.isEmpty || !digits.all isDigit then none
  else if valueOf digits < wordLimit then some (valueOf digits) else none

/-- A decimal number before rounding: its sign, its digits as one whole number, how many digits
that number has, and the power of ten that scales it. -/
structure Literal where
  negative : Bool
  coefficient : Nat
  length : Nat
  exponent : Int

/-- The sign in front of a text and the rest of the text. -/
def takeSign : List Char → Bool × List Char
  | '-' :: rest => (true, rest)
  | '+' :: rest => (false, rest)
  | text => (false, text)

/-- The exponent that ends a number: nothing, or the letter `e` in either case, an optional sign
and at least one digit. -/
def exponent? : List Char → Option Int
  | [] => some 0
  | mark :: rest =>
    let (negative, digits) := takeSign rest
    if (mark = 'e' || mark = 'E') && !digits.isEmpty && digits.all isDigit then
      some (if negative then -(valueOf digits : Int) else valueOf digits)
    else none

/-- The digits after an optional point, and the text after them. -/
def takeFraction : List Char → List Char × List Char
  | '.' :: rest => (rest.takeWhile isDigit, rest.dropWhile isDigit)
  | text => ([], text)

/-- A decimal number with an optional point and an optional exponent. -/
def literal? (text : List Char) : Option Literal :=
  let (negative, body) := takeSign text
  let whole := body.takeWhile isDigit
  let (fraction, tail) := takeFraction (body.dropWhile isDigit)
  let digits := whole ++ fraction
  if digits.isEmpty then none
  else (exponent? tail).map fun exponent ↦
    { negative, coefficient := valueOf digits, length := digits.length,
      exponent := exponent - fraction.length }

/-- The nearest binary64 number to a decimal number. Numbers that are far above the largest or far
below the smallest one are settled without computing the power. -/
def Literal.nearest (number : Literal) : Binary64 :=
  if number.coefficient = 0 || number.length + number.exponent < -400 then .zero number.negative
  else if 400 < number.exponent then .infinite number.negative
  else
    .nearest number.negative (number.coefficient * Nat.pow 10 number.exponent.toNat)
      (Nat.pow 10 (-number.exponent).toNat)

/-- A word that names a binary64 number, with a sign. -/
def word? (negative : Bool) (text : List Char) : Option Binary64 :=
  let word := text.map Char.toLower
  if word = "inf".toList || word = "infinity".toList then some (.infinite negative)
  else if word = "nan".toList then some .notANumber
  else none

/-- A binary64 number, read from a word or a decimal number with an optional sign. -/
def float? (text : String) : Option Binary64 :=
  let (negative, body) := takeSign text.toList
  word? negative body <|> (literal? text.toList).map Literal.nearest

end Switchboard.Decimal

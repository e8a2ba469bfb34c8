import Mathlib.Data.List.Induction
import Mathlib.Data.List.TakeWhile
import Mathlib.Data.Nat.Digits.Defs
import Switchboard.Decimal.Read

/-!
# What numbers are read

A run of digits is read as a whole number by the place value of its digits (`value_of_eq`), and
fails exactly if it is empty or too large (`natural_digits`). Digits with a point among them and a
digit behind it are always read as a decimal number, with a sign or without one
(`literal_number`), and rounding it gives a binary64 number, which may be infinite
(`float_number`).
-/

namespace Switchboard

namespace Decimal

/-! ### Whole numbers -/

/-- The number that a text of digits stands for: each digit counts ten times as much as the one
behind it. -/
def placeValue (text : String) : Nat :=
  Nat.ofDigits 10 (text.toList.reverse.map digitValue)

/-- A run of digits has the value of its digits at their places. -/
theorem value_of_eq (digits : List Char) :
    valueOf digits = Nat.ofDigits 10 (digits.reverse.map digitValue) := by
  rw [List.map_reverse]
  induction digits using List.reverseRecOn with
  | nil => rfl
  | append_singleton digits c ih =>
      rw [List.map_append, List.reverse_append, List.map_singleton, List.reverse_singleton,
        List.singleton_append, Nat.ofDigits_cons, ← ih, valueOf, List.foldl_append]
      exact Nat.add_comm _ _

/-- A text of digits has no sign. -/
theorem drop_plus_digits {text : List Char} (hdigits : ∀ c ∈ text, isDigit c = true) :
    dropPlus text = text := by
  unfold dropPlus
  split
  · exact absurd (hdigits '+' List.mem_cons_self) (by decide)
  · rfl

/-- A text of digits is read as a whole number unless it is empty or the number too large. -/
theorem natural_digits {text : String} (hdigits : ∀ c ∈ text.toList, isDigit c = true) :
    natural? text =
      if text ≠ "" ∧ placeValue text < 2 ^ 64 then some (placeValue text) else none := by
  have hvalue : valueOf text.toList = placeValue text := value_of_eq text.toList
  have hlimit : wordLimit = 2 ^ 64 := rfl
  have hall : text.toList.all isDigit = true := List.all_eq_true.mpr hdigits
  by_cases hempty : text = ""
  · simp [natural?, hempty, dropPlus]
  · have hsome : text.toList.isEmpty = false := by simpa using hempty
    simp [natural?, drop_plus_digits hdigits, hall, hsome, hvalue, hlimit, hempty]

/-! ### Numbers with a point -/

/-- A sign comes off what does not begin with another one. -/
theorem take_sign_append {sign body : List Char} (hsign : sign = [] ∨ sign = ['-'] ∨ sign = ['+'])
    (hbody : ∀ c ∈ body.head?, c ≠ '-' ∧ c ≠ '+') :
    takeSign (sign ++ body) = (decide (sign = ['-']), body) := by
  rcases hsign with rfl | rfl | rfl
  · rw [List.nil_append]
    unfold takeSign
    split
    · exact absurd rfl (hbody '-' rfl).1
    · exact absurd rfl (hbody '+' rfl).2
    · rfl
  · rfl
  · rfl

/-- A number with a point begins with a digit or with the point, so its sign comes off. -/
theorem take_sign_number {sign whole fraction : List Char}
    (hsign : sign = [] ∨ sign = ['-'] ∨ sign = ['+']) (hwhole : ∀ c ∈ whole, isDigit c = true) :
    takeSign (sign ++ (whole ++ '.' :: fraction)) =
      (decide (sign = ['-']), whole ++ '.' :: fraction) := by
  refine take_sign_append hsign fun c hc ↦ ?_
  cases whole with
  | nil =>
      obtain rfl : '.' = c := Option.some.inj hc
      decide
  | cons digit rest =>
      obtain rfl : digit = c := Option.some.inj hc
      have hdigit := hwhole digit List.mem_cons_self
      constructor
      · rintro rfl
        exact absurd hdigit (by decide)
      · rintro rfl
        exact absurd hdigit (by decide)

/-- Digits before and behind a point, at least one of them behind it, are a decimal number. -/
theorem literal_number {sign whole fraction : List Char}
    (hsign : sign = [] ∨ sign = ['-'] ∨ sign = ['+']) (hwhole : ∀ c ∈ whole, isDigit c = true)
    (hsome : fraction ≠ []) (hfraction : ∀ c ∈ fraction, isDigit c = true) :
    literal? (sign ++ (whole ++ '.' :: fraction)) =
      some
        { negative := decide (sign = ['-']), coefficient := valueOf (whole ++ fraction)
          length := (whole ++ fraction).length, exponent := 0 - fraction.length } := by
  have hpoint : isDigit '.' = false := rfl
  have hbefore : (whole ++ '.' :: fraction).takeWhile isDigit = whole := by
    simp [List.takeWhile_append_of_pos hwhole, hpoint]
  have hbehind : (whole ++ '.' :: fraction).dropWhile isDigit = '.' :: fraction := by
    simp [List.dropWhile_append_of_pos hwhole, hpoint]
  have htake : takeFraction ('.' :: fraction) = (fraction, []) := by
    rw [takeFraction, List.takeWhile_eq_self_iff.mpr hfraction,
      List.dropWhile_eq_nil_iff.mpr hfraction]
  have hempty : (whole ++ fraction).isEmpty = false := by
    cases fraction with
    | nil => exact absurd rfl hsome
    | cons digit rest => cases whole <;> rfl
  simp only [literal?, take_sign_number hsign hwhole, hbefore, hbehind, htake, hempty]
  rfl

/-- A text with a point is no word for a number. -/
theorem word_of_point {negative : Bool} {text : List Char} (hpoint : '.' ∈ text) :
    word? negative text = none := by
  have hlower : '.' ∈ text.map Char.toLower :=
    List.mem_map.mpr ⟨'.', hpoint, by decide⟩
  have hother (word : List Char) (hword : '.' ∉ word) : text.map Char.toLower ≠ word := by
    rintro rfl
    exact hword hlower
  have hinf := hother "inf".toList (by decide)
  have hinfinity := hother "infinity".toList (by decide)
  have hnan := hother "nan".toList (by decide)
  simp only [word?, hinf, hinfinity, hnan, decide_false, Bool.or_self, Bool.false_eq_true,
    if_false]

/-- Rounding gives a number. -/
theorem nearest_number (negative : Bool) (numerator denominator : Nat) :
    Binary64.nearest negative numerator denominator ≠ .notANumber := by
  have hround (mantissa : Nat) (exponent : Int) :
      (if Binary64.maxExponent < exponent then Binary64.infinite negative
        else .finite negative mantissa exponent) ≠ .notANumber := by
    split <;> simp
  unfold Binary64.nearest
  split
  · simp [Binary64.zero]
  · exact hround _ _

/-- Rounding a decimal number gives a number. -/
theorem literal_nearest_number (number : Literal) : number.nearest ≠ .notANumber := by
  unfold Literal.nearest
  split
  · simp [Binary64.zero]
  · split
    · simp
    · exact nearest_number _ _ _

/-- Digits before and behind a point, at least one of them behind it, are read as a number. -/
theorem float_number {text : String} {sign whole fraction : List Char}
    (htext : text.toList = sign ++ (whole ++ '.' :: fraction))
    (hsign : sign = [] ∨ sign = ['-'] ∨ sign = ['+']) (hwhole : ∀ c ∈ whole, isDigit c = true)
    (hsome : fraction ≠ []) (hfraction : ∀ c ∈ fraction, isDigit c = true) :
    ∃ number, float? text = some number ∧ number ≠ .notANumber := by
  have hpoint : '.' ∈ whole ++ '.' :: fraction := List.mem_append_right whole List.mem_cons_self
  have hread : ∃ literal, float? text = some (Literal.nearest literal) := by
    rw [float?, htext, take_sign_number hsign hwhole]
    simp only [word_of_point hpoint, literal_number hsign hwhole hsome hfraction]
    exact ⟨_, rfl⟩
  obtain ⟨literal, hliteral⟩ := hread
  exact ⟨_, hliteral, literal_nearest_number literal⟩

end Decimal

end Switchboard

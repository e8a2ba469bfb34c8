import Mathlib.Algebra.Order.Field.Power
import Mathlib.Data.Rat.Cast.Order
import Mathlib.Tactic.Linarith
import Mathlib.Tactic.Positivity
import Mathlib.Tactic.Ring
import Switchboard.Decimal.Read

/-!
# The form of binary64 numbers

Every number m · 2^q that the format has can be written with a mantissa below 2^53 that is at least
2^52 unless the exponent is the least one, and in one way only (`Form.unique`). The type of numbers
does not ask for this form. Rounding a fraction gives it, because the exponent is chosen by the
largest power of two in the fraction (`log2_spec`, `mantissa_bounds`), and everything else that
makes numbers rounds: sums (`normal_add`) and what is read from a text (`normal_read`).
-/

namespace Switchboard

namespace Binary64

/-- The form of a finite number: the mantissa is below its limit, the exponent within its range, and
the mantissa is full unless the exponent is the least one. -/
structure Form (mantissa : Nat) (exponent : Int) : Prop where
  below : mantissa < 2 * minNormal
  least : minExponent ≤ exponent
  most : exponent ≤ maxExponent
  full : minNormal ≤ mantissa ∨ exponent = minExponent

/-- A number is in normal form if it is not finite, or its mantissa and its exponent are. -/
def Normal : Binary64 → Prop
  | .finite _ mantissa exponent => Form mantissa exponent
  | .infinite _ => True
  | .notANumber => True

/-- Two forms with the same value are the same. -/
theorem Form.unique {left right : Nat} {first second : Int} (hleft : Form left first)
    (hright : Form right second) (hvalue : (left : ℚ) * 2 ^ first = right * 2 ^ second) :
    left = right ∧ first = second := by
  -- A full mantissa at a larger exponent is above every mantissa at a smaller one.
  have happart {m n : Nat} {p q : Int} (hm : Form m p) (hn : Form n q) (hlt : p < q) :
      (m : ℚ) * 2 ^ p < n * 2 ^ q := by
    have hfull : minNormal ≤ n := by
      rcases hn.full with hfull | hleast
      · exact hfull
      · have := hm.least
        omega
    have hmantissa : (m : ℚ) < n * 2 := by
      have hbelow := hm.below
      exact_mod_cast (by omega : m < n * 2)
    have hpower : (2 : ℚ) * 2 ^ p ≤ 2 ^ q := by
      rw [← zpow_one_add₀ two_ne_zero]
      exact zpow_le_zpow_right₀ one_le_two (by omega)
    calc (m : ℚ) * 2 ^ p < n * 2 * 2 ^ p := by gcongr
      _ = n * (2 * 2 ^ p) := mul_assoc ..
      _ ≤ n * 2 ^ q := by gcongr
  rcases lt_trichotomy first second with hlt | rfl | hlt
  · exact absurd hvalue (happart hleft hright hlt).ne
  · have hpower : (2 : ℚ) ^ first ≠ 0 := by positivity
    exact ⟨by exact_mod_cast mul_right_cancel₀ hpower hvalue, rfl⟩
  · exact absurd hvalue.symm (happart hright hleft hlt).ne

/-! ### Scaling -/

/-- What a negative power divides by is positive. -/
theorem scale_down_pos (power : Int) : 0 < scaleDown power :=
  Nat.pow_pos (by decide)

/-- A number that is scaled up is the multiple by the power, over what the power divides by. -/
theorem scale_up_eq (value : Nat) (power : Int) :
    (scaleUp value power : ℚ) = value * 2 ^ power * scaleDown power := by
  have hpower : (2 : ℚ) ^ power * 2 ^ (-power).toNat = 2 ^ power.toNat := by
    rw [← zpow_natCast, ← zpow_natCast, ← zpow_add₀ two_ne_zero]
    congr 1
    omega
  rw [scaleUp, scaleDown, Nat.pow_eq, Nat.pow_eq, Nat.cast_mul, Nat.cast_pow, Nat.cast_pow,
    Nat.cast_ofNat, mul_assoc, hpower]

/-- A number that is scaled up stays positive. -/
theorem scale_up_pos {value : Nat} (hvalue : 0 < value) (power : Int) : 0 < scaleUp value power :=
  Nat.mul_pos hvalue (Nat.pow_pos (by decide))

/-- A fraction is at least a power of two if its numerator is at least the denominator scaled up,
over what the power divides by. -/
theorem scale_up_le_iff (numerator denominator : Nat) (power : Int) :
    scaleUp denominator power ≤ numerator * scaleDown power ↔
      (denominator : ℚ) * 2 ^ power ≤ numerator := by
  have hdown : (0 : ℚ) < scaleDown power := by exact_mod_cast scale_down_pos power
  rw [← mul_le_mul_iff_left₀ hdown, ← scale_up_eq]
  exact_mod_cast Iff.rfl

/-- `log2` gives the largest power of two that is at most the fraction. -/
theorem log2_spec {numerator denominator : Nat} (hnumerator : numerator ≠ 0)
    (hdenominator : denominator ≠ 0) :
    (denominator : ℚ) * 2 ^ log2 numerator denominator ≤ numerator ∧
      (numerator : ℚ) < denominator * 2 ^ (log2 numerator denominator + 1) := by
  have hbounds {n : Nat} (hn : n ≠ 0) :
      (2 : ℚ) ^ (n.log2 : Int) ≤ n ∧ (n : ℚ) < 2 ^ ((n.log2 : Int) + 1) := by
    refine ⟨?_, ?_⟩
    · rw [zpow_natCast]
      exact_mod_cast Nat.log2_self_le hn
    · rw [← Nat.cast_succ, zpow_natCast]
      exact_mod_cast Nat.lt_log2_self
  obtain ⟨hlow, hhigh⟩ := hbounds hnumerator
  obtain ⟨hbelow, habove⟩ := hbounds hdenominator
  have hadd (p q : Int) : (2 : ℚ) ^ (p + q) = 2 ^ p * 2 ^ q := zpow_add₀ two_ne_zero p q
  unfold log2
  generalize hestimate : (numerator.log2 : Int) - denominator.log2 = estimate
  simp only [scale_up_le_iff]
  split
  · rename_i hle
    refine ⟨hle, hhigh.trans_le ?_⟩
    have hpower : (2 : ℚ) ^ ((numerator.log2 : Int) + 1) =
        2 ^ (denominator.log2 : Int) * 2 ^ (estimate + 1) := by
      rw [← hadd]
      congr 1
      omega
    rw [hpower]
    gcongr
  · rename_i hlt
    rw [Int.sub_add_cancel]
    refine ⟨le_trans ?_ hlow, lt_of_not_ge hlt⟩
    have hpower : (2 : ℚ) ^ (numerator.log2 : Int) =
        2 ^ ((denominator.log2 : Int) + 1) * 2 ^ (estimate - 1) := by
      rw [← hadd]
      congr 1
      omega
    rw [hpower]
    gcongr

/-! ### Rounding -/

/-- Rounding does not go above a whole number that the fraction is below. -/
theorem round_even_le {numerator denominator bound : Nat}
    (h : numerator < bound * denominator) : roundEven numerator denominator ≤ bound := by
  have hbelow : numerator / denominator < bound :=
    Nat.div_lt_of_lt_mul (by rwa [Nat.mul_comm] at h)
  simp only [roundEven]
  split <;> omega

/-- Rounding does not go below a whole number that the fraction reaches. -/
theorem le_round_even {numerator denominator bound : Nat} (hdenominator : 0 < denominator)
    (h : bound * denominator ≤ numerator) : bound ≤ roundEven numerator denominator := by
  have hreached : bound ≤ numerator / denominator := (Nat.le_div_iff_mul_le hdenominator).mpr h
  simp only [roundEven]
  split <;> omega

/-- A fraction that is scaled to an exponent is compared with a whole number as the fraction itself
is with the multiple of the power. -/
theorem scaled_lt_iff (numerator denominator bound : Nat) (exponent : Int) :
    scaleUp numerator (-exponent) < bound * scaleUp denominator exponent ↔
      (numerator : ℚ) < bound * (denominator * 2 ^ exponent) := by
  have hdown : (0 : ℚ) < scaleDown exponent := by exact_mod_cast scale_down_pos exponent
  have hcast : ((scaleUp numerator (-exponent) : Nat) : ℚ) = numerator * scaleDown exponent := by
    rw [scaleUp, scaleDown, Nat.cast_mul]
  rw [← Nat.cast_lt (α := ℚ), Nat.cast_mul, hcast, scale_up_eq, ← mul_assoc (bound : ℚ),
    mul_lt_mul_iff_left₀ hdown]

/-- A fraction between two powers of two is rounded to a mantissa of at most 2^53, and of at least
2^52 unless its exponent is the least one. -/
theorem mantissa_bounds {numerator denominator : Nat} {power : Int} (hdenominator : denominator ≠ 0)
    (hlow : (denominator : ℚ) * 2 ^ power ≤ numerator)
    (hhigh : (numerator : ℚ) < denominator * 2 ^ (power + 1)) :
    let exponent := max (power - 52) minExponent
    let rounded := roundEven (scaleUp numerator (-exponent)) (scaleUp denominator exponent)
    rounded ≤ 2 * minNormal ∧ (minNormal ≤ rounded ∨ exponent = minExponent) := by
  intro exponent rounded
  have hlarge : power - 52 ≤ exponent := le_max_left ..
  constructor
  · refine round_even_le ((scaled_lt_iff ..).mpr (hhigh.trans_le ?_))
    have hpower : (2 : ℚ) ^ (power + 1) ≤ 2 ^ (53 : Int) * 2 ^ exponent := by
      rw [← zpow_add₀ two_ne_zero]
      exact zpow_le_zpow_right₀ one_le_two (by omega)
    have hlimit : ((2 * minNormal : Nat) : ℚ) = 2 ^ (53 : Int) := by norm_num [minNormal]
    rw [hlimit, mul_left_comm]
    gcongr
  · rcases max_choice (power - 52) minExponent with hpower | hleast
    · left
      refine le_round_even (scale_up_pos (Nat.pos_of_ne_zero hdenominator) _) ?_
      rw [← Nat.not_lt, scaled_lt_iff, not_lt]
      refine le_trans (le_of_eq ?_) hlow
      have hlimit : ((minNormal : Nat) : ℚ) = 2 ^ (52 : Int) := by norm_num [minNormal]
      have hexponent : exponent = power - 52 := hpower
      rw [hlimit, hexponent, mul_left_comm, ← zpow_add₀ two_ne_zero]
      congr 2
      omega
    · exact .inr hleast

/-- Zero is in normal form. -/
theorem normal_zero (negative : Bool) : (zero negative).Normal :=
  ⟨by decide, le_refl _, by decide, .inr rfl⟩

/-- The number that is nearest to a fraction is in normal form. -/
theorem normal_nearest (negative : Bool) (numerator : Nat) {denominator : Nat}
    (hdenominator : denominator ≠ 0) : (nearest negative numerator denominator).Normal := by
  unfold nearest
  split
  · exact normal_zero negative
  · rename_i hnumerator
    obtain ⟨hlow, hhigh⟩ := log2_spec hnumerator hdenominator
    obtain ⟨hbelow, hfull⟩ := mantissa_bounds hdenominator hlow hhigh
    have hleast := le_max_right (log2 numerator denominator - 52) minExponent
    simp only
    generalize max (log2 numerator denominator - 52) minExponent = exponent
      at hbelow hfull hleast
    generalize roundEven (scaleUp numerator (-exponent)) (scaleUp denominator exponent) = rounded
      at hbelow hfull
    -- A mantissa that is rounded up to 2^53 is halved.
    by_cases hcarry : rounded = 2 * minNormal
    · simp only [hcarry, if_true]
      split
      · trivial
      · rename_i hmost
        exact ⟨by decide, by omega, Int.not_lt.mp hmost, .inl (le_refl _)⟩
    · simp only [hcarry, if_false]
      split
      · trivial
      · rename_i hmost
        exact ⟨by omega, hleast, Int.not_lt.mp hmost, hfull⟩

/-- The sum of two numbers is in normal form, whether or not they are. -/
theorem normal_add (left right : Binary64) : (left + right).Normal := by
  show (add left right).Normal
  unfold add
  split
  · simp only
    split
    · exact normal_zero _
    · exact normal_nearest _ _ (scale_down_pos _).ne'
  · split <;> trivial
  · trivial
  · trivial
  · trivial

end Binary64

namespace Decimal

/-- A word names an infinity or no number, and both are in normal form. -/
theorem normal_word {negative : Bool} {text : List Char} {value : Binary64}
    (h : word? negative text = some value) : value.Normal := by
  simp only [word?] at h
  split at h
  · cases h
    trivial
  · split at h
    · cases h
      trivial
    · cases h

/-- The number that is nearest to a decimal number is in normal form. -/
theorem Literal.normal_nearest (number : Literal) : number.nearest.Normal := by
  unfold Literal.nearest
  split
  · exact Binary64.normal_zero _
  · split
    · trivial
    · exact Binary64.normal_nearest _ _ (Nat.pow_pos (by decide)).ne'

/-- A number that is read from a text is in normal form. -/
theorem normal_read {text : String} {value : Binary64} (h : float? text = some value) :
    value.Normal := by
  rcases (Option.orElse_eq_some ..).mp h with hword | ⟨-, hliteral⟩
  · exact normal_word hword
  · obtain ⟨number, -, rfl⟩ := Option.map_eq_some_iff.mp hliteral
    exact number.normal_nearest

end Decimal

end Switchboard

-- How near a double is to what it was rounded from. Its mantissa is the
-- nearest whole number at the scale at which it has 53 bits, so nothing
-- well inside of the range of doubles is changed by more than one part of
-- 2^53 when it is rounded.
import Mathlib.Algebra.Order.Field.Basic
import Mathlib.Data.Rat.Cast.Order
import Mathlib.Tactic.Linarith
import Mathlib.Tactic.Positivity
import Mathlib.Tactic.Ring
import QueryGate.Decimal.Shortest

namespace QueryGate.Double

variable {num den m s : Nat}

/-! ## The nearest whole number -/

/-- It is at most one half away, and less than that if it is odd. -/
theorem nearestEven_spec (num : Nat) (positive : 0 < den) :
    2 * num ≤ 2 * (nearestEven num den * den) + den ∧
    2 * (nearestEven num den * den) ≤ 2 * num + den ∧
    (nearestEven num den % 2 ≠ 0 →
      2 * num < 2 * (nearestEven num den * den) + den ∧
      2 * (nearestEven num den * den) < 2 * num + den) := by
  have parts := Nat.div_add_mod num den
  have rest := Nat.mod_lt num positive
  have next : (num / den + 1) * den = den * (num / den) + den := by
    rw [Nat.succ_mul, Nat.mul_comm]
  have same : num / den * den = den * (num / den) := Nat.mul_comm _ _
  unfold nearestEven
  dsimp only
  split
  · omega
  · split
    · omega
    · split <;> omega

theorem nearestEven_mul (n : Nat) (positive : 0 < den) : nearestEven (n * den) den = n := by
  unfold nearestEven
  dsimp only
  rw [Nat.mul_div_cancel n positive, Nat.mul_mod_left, if_pos (by omega)]

/-! ## The scale -/

/-- The scale that a mantissa of 53 bits has, first guessed from the lengths of a fraction's parts. -/
theorem scale_bounds (p : Nat) (something : 0 < num) (positive : 0 < den) :
    let guess := p + num.log2 - (den.log2 + 53)
    let scale := if 2 ^ 53 * (den * 2 ^ guess) ≤ num * 2 ^ p then guess + 1 else guess
    num * 2 ^ p < 2 ^ 53 * (den * 2 ^ scale) ∧
      (scale = 0 ∨ 2 ^ 52 * (den * 2 ^ scale) ≤ num * 2 ^ p) := by
  intro guess scale
  have double (n : Nat) : den * 2 ^ (n + 1) = 2 * (den * 2 ^ n) := by
    rw [Nat.pow_succ, ← Nat.mul_assoc, Nat.mul_comm]
  have numBelow : num * 2 ^ p < 2 ^ (num.log2 + 1 + p) := by
    rw [Nat.pow_add]
    exact Nat.mul_lt_mul_of_pos_right Nat.lt_log2_self (Nat.two_pow_pos p)
  have numAbove : 2 ^ (num.log2 + p) ≤ num * 2 ^ p := by
    rw [Nat.pow_add]
    exact Nat.mul_le_mul_right _ (Nat.log2_self_le (Nat.ne_of_gt something))
  have denAbove : 2 ^ (den.log2 + guess) ≤ den * 2 ^ guess := by
    rw [Nat.pow_add]
    exact Nat.mul_le_mul_right _ (Nat.log2_self_le (Nat.ne_of_gt positive))
  have denBelow : den * 2 ^ guess < 2 ^ (den.log2 + 1 + guess) := by
    rw [Nat.pow_add]
    exact Nat.mul_lt_mul_of_pos_right Nat.lt_log2_self (Nat.two_pow_pos guess)
  by_cases room : den.log2 + 53 ≤ p + num.log2
  · -- The lengths leave a scale, which is the guessed one or the next one.
    have wide : num * 2 ^ p < 2 ^ 54 * (den * 2 ^ guess) := by
      have lengths : num.log2 + 1 + p = 54 + (den.log2 + guess) := by omega
      rw [lengths, Nat.pow_add] at numBelow
      exact Nat.lt_of_lt_of_le numBelow (Nat.mul_le_mul_left _ denAbove)
    have narrow : 2 ^ 52 * (den * 2 ^ guess) ≤ num * 2 ^ p := by
      have lengths : num.log2 + p = 52 + (den.log2 + 1 + guess) := by omega
      rw [lengths, Nat.pow_add] at numAbove
      exact Nat.le_trans (Nat.mul_le_mul_left _ (Nat.le_of_lt denBelow)) numAbove
    by_cases beyond : 2 ^ 53 * (den * 2 ^ guess) ≤ num * 2 ^ p
    · rw [show scale = guess + 1 from if_pos beyond, double]
      exact ⟨by omega, .inr (by omega)⟩
    · rw [show scale = guess from if_neg beyond]
      exact ⟨Nat.lt_of_not_le beyond, .inr narrow⟩
  · -- The fraction is so small that its mantissa is shorter.
    have least : guess = 0 := by omega
    have under : num * 2 ^ p < 2 ^ 53 * (den * 2 ^ guess) := by
      have lengths : 2 ^ (num.log2 + 1 + p) ≤ 2 ^ (53 + (den.log2 + guess)) :=
        Nat.pow_le_pow_right (by decide) (by omega)
      rw [Nat.pow_add 2 53] at lengths
      exact Nat.lt_of_lt_of_le numBelow (Nat.le_trans lengths (Nat.mul_le_mul_left _ denAbove))
    rw [show scale = guess from if_neg (Nat.not_le.mpr under)]
    exact ⟨under, .inl least⟩

/-- The denominator is a power of two; its exponent is kept apart from the power, which is too large to
be looked at. -/
theorem denominator_eq : ∃ p, p = 1074 ∧ denominator = 2 ^ p := by
  obtain ⟨p, isExponent⟩ : ∃ p, p = 1074 := ⟨_, rfl⟩
  unfold denominator
  rw [← isExponent]
  exact ⟨p, rfl, Nat.pow_eq⟩

theorem denominator_pos : 0 < denominator := by
  obtain ⟨p, -, power⟩ := denominator_eq
  exact power ▸ Nat.two_pow_pos p

theorem cast_denominator_pos : (0 : ℚ) < denominator := Nat.cast_pos.mpr denominator_pos

/-- The double nearest to a fraction has the mantissa `m` at the scale `s`. -/
structure RoundsTo (num den m s : Nat) : Prop where
  below : num * denominator < 2 ^ 53 * (den * 2 ^ s)
  above : s = 0 ∨ 2 ^ 52 * (den * 2 ^ s) ≤ num * denominator
  mantissa_eq : m = nearestEven (num * denominator) (den * 2 ^ s)

theorem exists_roundsTo (something : 0 < num) (positive : 0 < den) :
    ∃ m s, RoundsTo num den m s ∧
      nearestBits num den = min (s * leadingBit + m) infinityBits := by
  obtain ⟨p, power, bits⟩ : ∃ p, denominator = 2 ^ p ∧ nearestBits num den =
      let guess := p + num.log2 - (den.log2 + 53)
      let scale := if 2 ^ 53 * (den * 2 ^ guess) ≤ num * 2 ^ p then guess + 1 else guess
      min (scale * leadingBit + nearestEven (num * 2 ^ p) (den * 2 ^ scale)) infinityBits := by
    unfold nearestBits denominator
    rw [if_neg (Nat.ne_of_gt something)]
    generalize 1074 = p
    exact ⟨p, rfl, rfl⟩
  obtain ⟨below, above⟩ := scale_bounds p something positive
  rw [← power] at below above bits
  exact ⟨_, _, ⟨below, above, rfl⟩, bits⟩

/-! ## Reading back the bits -/

theorem magnitude_ofSignAndBits {b : Nat} (small : b < signBit) :
    (ofSignAndBits false b).magnitude = b := by
  have whole : b % 2 ^ 64 = b := Nat.mod_eq_of_lt (Nat.lt_trans small (by decide))
  rw [ofSignAndBits, magnitude, if_neg Bool.false_ne_true, UInt64.toNat_ofNat', whole,
    Nat.mod_eq_of_lt small]

theorem isNegative_ofSignAndBits {b : Nat} (small : b < signBit) :
    (ofSignAndBits false b).isNegative = false := by
  have whole : b % 2 ^ 64 = b := Nat.mod_eq_of_lt (Nat.lt_trans small (by decide))
  rw [ofSignAndBits, isNegative, if_neg Bool.false_ne_true, UInt64.toNat_ofNat', whole]
  exact decide_eq_false (Nat.not_le.mpr small)

/-- A mantissa of 53 bits stands as it is; one that was rounded up to the next power of two is half of
that, at the next scale. -/
theorem parts_of_magnitude {d : Double} {m s : Nat} (bits : d.magnitude = s * leadingBit + m)
    (atMost : m ≤ 2 ^ 53) (atLeast : s = 0 ∨ 2 ^ 52 ≤ m) :
    (m < 2 ^ 53 ∧ d.mantissa = m ∧ d.scale = s) ∨
      (m = 2 ^ 53 ∧ d.mantissa = 2 ^ 52 ∧ d.scale = s + 1) := by
  unfold mantissa scale
  simp only [bits, leadingBit]
  split <;> omega

/-! ## Ordinary numbers -/

/-- The absolute value of a finite double. -/
def value (d : Double) : ℚ := d.numerator / denominator

theorem value_mul_denominator (d : Double) : d.value * denominator = d.numerator :=
  div_mul_cancel₀ _ cast_denominator_pos.ne'

theorem value_nonneg (d : Double) : 0 ≤ d.value := div_nonneg (Nat.cast_nonneg _) (Nat.cast_nonneg _)

/-- Zero, or a number well inside of the range in which doubles have all their digits. -/
def Ordinary (x : ℚ) : Prop := x = 0 ∨ 1 / 2 ^ 100 ≤ x ∧ x ≤ 2 ^ 100

/-- A number is another one up to one part of 2^53. -/
structure Near (y x : ℚ) : Prop where
  above : 2 ^ 53 * x ≤ 2 ^ 53 * y + x
  below : 2 ^ 53 * y ≤ 2 ^ 53 * x + x

theorem bounds_of_ordinary (something : 0 < num) (positive : 0 < den)
    (ordinary : Ordinary (num / den : ℚ)) : den ≤ num * 2 ^ 100 ∧ num ≤ 2 ^ 100 * den := by
  have denPos : (0 : ℚ) < den := Nat.cast_pos.mpr positive
  have numNonzero : (num : ℚ) ≠ 0 := Nat.cast_ne_zero.mpr (Nat.ne_of_gt something)
  obtain ⟨low, high⟩ := ordinary.resolve_left (div_ne_zero numNonzero denPos.ne')
  rw [div_le_div_iff₀ (by positivity) denPos, one_mul] at low
  rw [div_le_iff₀ denPos] at high
  exact ⟨by exact_mod_cast low, by exact_mod_cast high⟩

/-- A quotient of whole numbers of 53 bits. -/
theorem ordinary_div (num_lt : num < 2 ^ 53) (positive : 0 < den) (den_lt : den < 2 ^ 53) :
    Ordinary (num / den : ℚ) := by
  have denPos : (0 : ℚ) < den := Nat.cast_pos.mpr positive
  rcases Nat.eq_zero_or_pos num with rfl | something
  · rw [Nat.cast_zero, zero_div]
    exact .inl rfl
  have num_ge : (1 : ℚ) ≤ num := by exact_mod_cast something
  have den_ge : (1 : ℚ) ≤ den := by exact_mod_cast positive
  have num_le : (num : ℚ) ≤ 2 ^ 53 := by exact_mod_cast num_lt.le
  have den_le : (den : ℚ) ≤ 2 ^ 53 := by exact_mod_cast den_lt.le
  refine .inr ⟨?_, ?_⟩
  · rw [div_le_div_iff₀ (by positivity) denPos]
    linarith
  · rw [div_le_iff₀ denPos]
    linarith

namespace RoundsTo

theorem unit_pos (positive : 0 < den) : 0 < den * 2 ^ s := Nat.mul_pos positive (Nat.two_pow_pos s)

theorem error (h : RoundsTo num den m s) (positive : 0 < den) :
    2 * (num * denominator) ≤ 2 * (m * (den * 2 ^ s)) + den * 2 ^ s ∧
    2 * (m * (den * 2 ^ s)) ≤ 2 * (num * denominator) + den * 2 ^ s ∧
    (m % 2 ≠ 0 → 2 * (num * denominator) < 2 * (m * (den * 2 ^ s)) + den * 2 ^ s ∧
      2 * (m * (den * 2 ^ s)) < 2 * (num * denominator) + den * 2 ^ s) := by
  rw [h.mantissa_eq]
  exact nearestEven_spec _ (unit_pos positive)

theorem mantissa_le (h : RoundsTo num den m s) (positive : 0 < den) : m ≤ 2 ^ 53 := by
  have unit : 0 < den * 2 ^ s := unit_pos positive
  obtain ⟨-, near, -⟩ := h.error positive
  have below := h.below
  by_contra more
  have least : (2 ^ 53 + 1) * (den * 2 ^ s) ≤ m * (den * 2 ^ s) :=
    Nat.mul_le_mul_right _ (Nat.lt_of_not_le more)
  omega

theorem le_mantissa (h : RoundsTo num den m s) (positive : 0 < den)
    (full : 2 ^ 52 * (den * 2 ^ s) ≤ num * denominator) : 2 ^ 52 ≤ m := by
  have unit : 0 < den * 2 ^ s := unit_pos positive
  obtain ⟨near, -, -⟩ := h.error positive
  by_contra less
  have most : m * (den * 2 ^ s) ≤ (2 ^ 52 - 1) * (den * 2 ^ s) :=
    Nat.mul_le_mul_right _ (Nat.le_pred_of_lt (Nat.lt_of_not_le less))
  omega

theorem full (h : RoundsTo num den m s) (low : den ≤ num * 2 ^ 100) :
    2 ^ 52 * (den * 2 ^ s) ≤ num * denominator := by
  obtain ⟨p, isExponent, power⟩ := denominator_eq
  refine h.above.elim (fun zero => ?_) id
  rw [zero, power]
  calc 2 ^ 52 * (den * 2 ^ 0) ≤ 2 ^ 52 * (num * 2 ^ 100) := by omega
    _ = num * 2 ^ 152 := by ring
    _ ≤ num * 2 ^ p := Nat.mul_le_mul_left _ (Nat.pow_le_pow_right (by decide) (by omega))

theorem scale_le (positive : 0 < den) (full : 2 ^ 52 * (den * 2 ^ s) ≤ num * denominator)
    (high : num ≤ 2 ^ 100 * den) : s ≤ 1122 := by
  obtain ⟨p, isExponent, power⟩ := denominator_eq
  have lengths : den * 2 ^ (52 + s) ≤ den * 2 ^ (100 + p) := by
    calc den * 2 ^ (52 + s) = 2 ^ 52 * (den * 2 ^ s) := by ring
      _ ≤ num * 2 ^ p := power ▸ full
      _ ≤ 2 ^ 100 * den * 2 ^ p := Nat.mul_le_mul_right _ high
      _ = den * 2 ^ (100 + p) := by ring
  have powers := Nat.le_of_mul_le_mul_left lengths positive
  have exponents := (Nat.pow_le_pow_iff_right (by decide)).mp powers
  omega

end RoundsTo

/-! ## The nearest double -/

/-- What the double nearest to an ordinary fraction other than zero is made of. -/
structure Rounded (num den : Nat) (d : Double) (m s : Nat) : Prop extends RoundsTo num den m s where
  positive : 0 < den
  full : 2 ^ 52 * (den * 2 ^ s) ≤ num * denominator
  atLeast : 2 ^ 52 ≤ m
  parts : (m < 2 ^ 53 ∧ d.mantissa = m ∧ d.scale = s) ∨
    (m = 2 ^ 53 ∧ d.mantissa = 2 ^ 52 ∧ d.scale = s + 1)
  nonnegative : d.isNegative = false

theorem exists_rounded (something : 0 < num) (positive : 0 < den)
    (ordinary : Ordinary (num / den : ℚ)) :
    ∃ m s, Rounded num den (nearest false num den) m s := by
  obtain ⟨low, high⟩ := bounds_of_ordinary something positive ordinary
  obtain ⟨m, s, h, bits⟩ := exists_roundsTo something positive
  have full := h.full low
  have scale := RoundsTo.scale_le positive full high
  have atMost := h.mantissa_le positive
  have atLeast := h.le_mantissa positive full
  have finite : s * leadingBit + m < infinityBits := by
    simp only [leadingBit, infinityBits]
    omega
  have small : s * leadingBit + m < signBit := Nat.lt_trans finite (by decide)
  have nearest_eq : nearest false num den = ofSignAndBits false (s * leadingBit + m) := by
    rw [nearest, bits, Nat.min_eq_left (Nat.le_of_lt finite)]
  refine ⟨m, s, h, positive, full, atLeast, ?_, ?_⟩
  · refine parts_of_magnitude ?_ atMost (.inr atLeast)
    rw [nearest_eq, magnitude_ofSignAndBits small]
  · rw [nearest_eq, isNegative_ofSignAndBits small]

namespace Rounded

variable {d : Double}

theorem numerator_eq (h : Rounded num den d m s) : d.numerator = m * 2 ^ s := by
  rw [numerator, Nat.pow_eq]
  rcases h.parts with ⟨-, mantissa, scale⟩ | ⟨full, mantissa, scale⟩
  · rw [mantissa, scale]
  · rw [mantissa, scale, full]
    ring

theorem le_mantissa (h : Rounded num den d m s) : 2 ^ 52 ≤ d.mantissa := by
  rcases h.parts with ⟨-, mantissa, -⟩ | ⟨-, mantissa, -⟩
  · rw [mantissa]
    exact h.atLeast
  · exact mantissa.ge

theorem near (h : Rounded num den d m s) : Near d.value (num / den) := by
  have denPos : (0 : ℚ) < den := Nat.cast_pos.mpr h.positive
  have unitPos := cast_denominator_pos
  obtain ⟨error, error', -⟩ := h.error h.positive
  have full := h.full
  have swap : m * (den * 2 ^ s) = d.numerator * den := by
    rw [h.numerator_eq]
    ring
  rw [swap] at error error'
  have above : 2 ^ 53 * (num * denominator) ≤ 2 ^ 53 * (d.numerator * den) + num * denominator := by
    omega
  have below : 2 ^ 53 * (d.numerator * den) ≤ 2 ^ 53 * (num * denominator) + num * denominator := by
    omega
  have above : (2 ^ 53 * (num * denominator) : ℚ) ≤
      2 ^ 53 * (d.numerator * den) + num * denominator := by exact_mod_cast above
  have below : (2 ^ 53 * (d.numerator * den) : ℚ) ≤
      2 ^ 53 * (num * denominator) + num * denominator := by exact_mod_cast below
  have num_eq : (num : ℚ) = num / den * den := (div_mul_cancel₀ _ denPos.ne').symm
  have both : (0 : ℚ) < denominator * den := mul_pos unitPos denPos
  rw [← value_mul_denominator, num_eq] at above below
  constructor
  · refine le_of_mul_le_mul_right ?_ both
    linarith
  · refine le_of_mul_le_mul_right ?_ both
    linarith

end Rounded

theorem value_nearest_zero (den : Nat) : (nearest false 0 den).value = 0 := by
  have none : (nearest false 0 den).numerator = 0 := by
    rw [nearest, nearestBits, if_pos rfl]
    decide
  rw [value, none, Nat.cast_zero, zero_div]

/-- The nearest double to an ordinary fraction is near it. -/
theorem near_nearest (positive : 0 < den) (ordinary : Ordinary (num / den : ℚ)) :
    Near (nearest false num den).value (num / den) := by
  rcases Nat.eq_zero_or_pos num with rfl | something
  · rw [value_nearest_zero]
    constructor <;> simp
  · obtain ⟨m, s, h⟩ := exists_rounded something positive ordinary
    exact h.near

/-- A whole number of 53 bits is a double. -/
theorem value_ofNat {n : Nat} (small : n < 2 ^ 53) : (ofNat n).value = n := by
  rcases Nat.eq_zero_or_pos n with rfl | something
  · rw [ofNat, value_nearest_zero, Nat.cast_zero]
  obtain ⟨m, s, h⟩ :=
    exists_rounded something Nat.one_pos (ordinary_div small Nat.one_pos (by decide))
  obtain ⟨p, -, power⟩ := denominator_eq
  have room : s ≤ p := by
    have full := h.full
    rw [Nat.one_mul, power] at full
    have lengths : 2 ^ (52 + s) < 2 ^ (53 + p) := by
      calc 2 ^ (52 + s) = 2 ^ 52 * 2 ^ s := Nat.pow_add 2 52 s
        _ ≤ n * 2 ^ p := full
        _ < 2 ^ 53 * 2 ^ p := Nat.mul_lt_mul_of_pos_right small (Nat.two_pow_pos p)
        _ = 2 ^ (53 + p) := (Nat.pow_add 2 53 p).symm
    have exponents := (Nat.pow_lt_pow_iff_right (by decide)).mp lengths
    omega
  have whole : n * denominator = n * 2 ^ (p - s) * (1 * 2 ^ s) := by
    rw [power, Nat.one_mul, Nat.mul_assoc, ← Nat.pow_add, Nat.sub_add_cancel room]
  have mantissa := h.mantissa_eq
  rw [whole, nearestEven_mul _ (Nat.mul_pos Nat.one_pos (Nat.two_pow_pos s))] at mantissa
  have numerator_eq : (ofNat n).numerator = n * denominator := by
    rw [whole, Nat.one_mul, ← mantissa]
    exact h.numerator_eq
  rw [value, numerator_eq, Nat.cast_mul]
  exact mul_div_cancel_right₀ _ cast_denominator_pos.ne'

/-! ## Arithmetic -/

theorem near_timesNat {a : Double} {n : Nat} (ordinary : Ordinary (a.value * n)) :
    Near (a.timesNat n).value (a.value * n) := by
  have fraction : ((a.numerator * n : Nat) : ℚ) / denominator = a.value * n := by
    rw [value, Nat.cast_mul]
    ring
  rw [← fraction] at ordinary ⊢
  exact near_nearest denominator_pos ordinary

/-- The fraction that is rounded in a division. -/
theorem overNat_fraction (a : Double) (n : Nat) :
    (a.numerator : ℚ) / (denominator * n : Nat) = a.value / n := by
  rw [value, Nat.cast_mul, div_div]

theorem near_overNat {a : Double} {n : Nat} (positive : 0 < n) (ordinary : Ordinary (a.value / n)) :
    Near (a.overNat n).value (a.value / n) := by
  rw [← overNat_fraction] at ordinary ⊢
  exact near_nearest (Nat.mul_pos denominator_pos positive) ordinary

theorem exists_rounded_overNat {a : Double} {n : Nat} (something : 0 < a.value) (positive : 0 < n)
    (ordinary : Ordinary (a.value / n)) :
    ∃ m s, Rounded a.numerator (denominator * n) (a.overNat n) m s := by
  have numeratorPos : 0 < a.numerator := by
    refine Nat.pos_of_ne_zero fun zero => something.ne' ?_
    rw [value, zero, Nat.cast_zero, zero_div]
  rw [← overNat_fraction] at ordinary
  exact exists_rounded numeratorPos (Nat.mul_pos denominator_pos positive) ordinary

theorem near_addition {a b : Double} (ordinary : Ordinary (a.value + b.value)) :
    Near (a.addition b).value (a.value + b.value) := by
  have fraction : ((a.numerator + b.numerator : Nat) : ℚ) / denominator = a.value + b.value := by
    rw [value, value, Nat.cast_add]
    ring
  rw [← fraction] at ordinary ⊢
  exact near_nearest denominator_pos ordinary

/-- The nearest whole number is at most one half away. -/
theorem roundHalfUp_error (a : Double) : |(a.roundHalfUp : ℚ) - a.value| ≤ 1 / 2 := by
  have unit : 0 < 2 * denominator := Nat.mul_pos (by decide) denominator_pos
  have unitPos := cast_denominator_pos
  have low : a.roundHalfUp * (2 * denominator) ≤ 2 * a.numerator + denominator :=
    Nat.div_mul_le_self _ _
  have high : 2 * a.numerator + denominator < (a.roundHalfUp + 1) * (2 * denominator) :=
    Nat.lt_mul_of_div_lt (Nat.lt_succ_self _) unit
  have low : (a.roundHalfUp * (2 * denominator) : ℚ) ≤ 2 * a.numerator + denominator := by
    exact_mod_cast low
  have high : (2 * a.numerator + denominator : ℚ) < (a.roundHalfUp + 1) * (2 * denominator) := by
    exact_mod_cast high
  rw [← value_mul_denominator] at low high
  rw [abs_le]
  constructor
  · refine le_of_mul_le_mul_right ?_ unitPos
    linarith
  · refine le_of_mul_le_mul_right ?_ unitPos
    linarith

end QueryGate.Double

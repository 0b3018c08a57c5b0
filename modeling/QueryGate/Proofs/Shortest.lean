-- The shortest decimal of a double. The numbers that round to a double lie
-- so close around it that no two of them are on one coarse decimal grid:
-- where a number of such a grid was rounded, it is that number which is
-- found again.
import Mathlib.Algebra.Order.Field.Power
import Mathlib.Tactic.FieldSimp
import QueryGate.Proofs.Rounding

namespace QueryGate

/-! ## The interval of a double -/

namespace RoundingInterval

/-- The number lies in the interval, whose ends belong to it if it is closed. -/
def Contains (i : RoundingInterval) (y : ℚ) : Prop :=
  if i.closed then i.low ≤ y * i.den ∧ y * i.den ≤ i.high
  else i.low < y * i.den ∧ y * i.den < i.high

theorem Contains.between {i : RoundingInterval} {y : ℚ} (h : i.Contains y) :
    i.low ≤ y * i.den ∧ y * i.den ≤ i.high := by
  unfold Contains at h
  split at h
  · exact h
  · exact ⟨h.1.le, h.2.le⟩

theorem contains_div_iff {i : RoundingInterval} {num den : Nat} (positive : 0 < den) :
    i.Contains (num / den) ↔
      if i.closed then i.low * den ≤ num * i.den ∧ num * i.den ≤ i.high * den
      else i.low * den < num * i.den ∧ num * i.den < i.high * den := by
  have denPos : (0 : ℚ) < den := Nat.cast_pos.mpr positive
  unfold Contains
  rw [div_mul_eq_mul_div, le_div_iff₀ denPos, div_le_iff₀ denPos, lt_div_iff₀ denPos,
    div_lt_iff₀ denPos]
  exact_mod_cast Iff.rfl

end RoundingInterval

namespace Double

variable {num den m s : Nat} {d : Double}

/-- The ends of the interval are at most half of the last place away. -/
theorem ends_of_contains {y : ℚ} (atLeast : 2 ^ 52 ≤ d.mantissa)
    (inside : (RoundingInterval.ofDouble d).Contains y) :
    (4 * d.mantissa - 2 : ℚ) * 2 ^ d.scale ≤ 4 * (y * denominator) ∧
      4 * (y * denominator) ≤ (4 * d.mantissa + 2 : ℚ) * 2 ^ d.scale := by
  obtain ⟨low, high⟩ := inside.between
  have most : (4 * d.mantissa - 2) * 2 ^ d.scale ≤ (RoundingInterval.ofDouble d).low := by
    refine Nat.mul_le_mul_right _ (Nat.sub_le_sub_left ?_ _)
    split <;> decide
  have most : ((4 * d.mantissa - 2 : ℚ) * 2 ^ d.scale) ≤ (RoundingInterval.ofDouble d).low := by
    have cast : ((4 * d.mantissa - 2 : Nat) : ℚ) = 4 * d.mantissa - 2 := by
      rw [Nat.cast_sub (by omega)]
      push_cast
      rfl
    rw [← cast]
    exact_mod_cast most
  have isHigh : ((RoundingInterval.ofDouble d).high : ℚ) = (4 * d.mantissa + 2) * 2 ^ d.scale := by
    simp only [RoundingInterval.ofDouble, Nat.pow_eq]
    push_cast
    rfl
  have isDen : ((RoundingInterval.ofDouble d).den : ℚ) = 4 * denominator := by
    simp only [RoundingInterval.ofDouble]
    push_cast
    rfl
  rw [isDen] at low high
  rw [isHigh] at high
  constructor <;> linarith

/-- A fraction lies in the interval of the double that it rounds to. -/
theorem Rounded.contains (h : Rounded num den d m s) :
    (RoundingInterval.ofDouble d).Contains (num / den) := by
  have unit : 0 < den * 2 ^ s := RoundsTo.unit_pos h.positive
  obtain ⟨above, below, strict⟩ := h.error h.positive
  have full := h.full
  have scaled (a : Nat) : a * 2 ^ s * den = a * (den * 2 ^ s) := by ring
  have four : num * (4 * denominator) = 4 * (num * denominator) := by ring
  rw [RoundingInterval.contains_div_iff h.positive]
  simp only [RoundingInterval.ofDouble, Nat.pow_eq, four]
  rcases h.parts with ⟨short, mantissa, scale⟩ | ⟨carried, mantissa, scale⟩
  · rw [mantissa, scale, scaled, scaled, Nat.sub_mul, Nat.add_mul, Nat.mul_assoc]
    have size : 2 ^ 52 * (den * 2 ^ s) ≤ m * (den * 2 ^ s) := Nat.mul_le_mul_right _ h.atLeast
    by_cases even : m % 2 = 0
    · rw [if_pos (decide_eq_true even)]
      split
      · rename_i least
        rw [least.1, leadingBit] at above below ⊢
        omega
      · omega
    · have odd : ¬ (m = leadingBit ∧ 0 < s) := by
        rintro ⟨rfl, -⟩
        exact even rfl
      have strict := strict even
      rw [if_neg (by simpa using even), if_neg odd]
      omega
  · -- The mantissa was rounded up to a power of two, below which the doubles lie closer.
    have scaled (a : Nat) : a * 2 ^ (s + 1) * den = a * (2 * (den * 2 ^ s)) := by ring
    rw [mantissa, scale, scaled, scaled, if_pos (by decide), if_pos ⟨rfl, Nat.succ_pos s⟩]
    rw [carried] at above below
    omega

/-- Where the mantissa has all its bits, all of the interval is near the double. -/
theorem near_of_contains {y : ℚ} (atLeast : 2 ^ 52 ≤ d.mantissa)
    (inside : (RoundingInterval.ofDouble d).Contains y) : Near y d.value := by
  obtain ⟨low, high⟩ := ends_of_contains atLeast inside
  have unitPos := cast_denominator_pos
  have numerator_eq : d.value * denominator = d.mantissa * 2 ^ d.scale := by
    rw [value_mul_denominator, numerator, Nat.pow_eq]
    push_cast
    rfl
  have size : (2 ^ 52 * 2 ^ d.scale : ℚ) ≤ d.mantissa * 2 ^ d.scale :=
    mul_le_mul_of_nonneg_right (by exact_mod_cast atLeast) (by positivity)
  constructor
  · refine le_of_mul_le_mul_right ?_ unitPos
    linarith
  · refine le_of_mul_le_mul_right ?_ unitPos
    linarith

end Double

/-! ## Grids -/

namespace RoundingInterval

variable {i : RoundingInterval}

theorem holds_iff {n : Nat} : i.holds n = true ↔ i.Contains n := by
  unfold holds Contains
  cases i.closed
  · simp only [Bool.false_eq_true, if_false, Bool.and_eq_true, decide_eq_true_eq]
    exact_mod_cast Iff.rfl
  · simp only [if_true, Bool.and_eq_true, decide_eq_true_eq]
    exact_mod_cast Iff.rfl

/-- On a grid the whole numbers count its steps. -/
theorem contains_onGrid {exponent : Int} {y : ℚ} :
    (i.onGrid exponent).Contains y ↔ i.Contains (y * 10 ^ exponent) := by
  unfold onGrid
  split
  · rename_i upwards
    obtain ⟨n, rfl⟩ := Int.eq_ofNat_of_zero_le upwards
    have same : y * (i.den * 10 ^ n : Nat) = y * 10 ^ (n : Int) * i.den := by
      push_cast
      rw [zpow_natCast]
      ring
    simp only [Contains, Int.toNat_natCast, Nat.pow_eq, same]
  · rename_i downwards
    obtain ⟨n, rfl⟩ : ∃ n : Nat, exponent = -n := ⟨(-exponent).toNat, by omega⟩
    have step : (0 : ℚ) < 10 ^ n := by positivity
    have same (a : Nat) : ((a * 10 ^ n : Nat) : ℚ) = a * 10 ^ n := by push_cast; rfl
    have moved : y * i.den = y * 10 ^ (-(n : Int)) * i.den * 10 ^ n := by
      rw [zpow_neg, zpow_natCast]
      field_simp
    simp only [Contains, neg_neg, Int.toNat_natCast, Nat.pow_eq, same, moved]
    simp only [mul_le_mul_iff_left₀ step, mul_lt_mul_iff_left₀ step]

/-- The nearest whole number is tried, and the next one on the other side of the centre. -/
theorem isSome_nearestWhole? {n : Nat} (inside : i.holds n = true) (positive : 0 < i.den)
    (notBelow : i.centre < (n + 1) * i.den) (notAbove : n * i.den < i.centre + i.den) :
    i.nearestWhole?.isSome := by
  have floor : i.centre / i.den * i.den ≤ i.centre := Nat.div_mul_le_self _ _
  have next : i.centre < (i.centre / i.den + 1) * i.den :=
    Nat.lt_mul_of_div_lt (Nat.lt_succ_self _) positive
  have low : i.centre / i.den < n + 1 :=
    Nat.lt_of_mul_lt_mul_right (Nat.lt_of_le_of_lt floor notBelow)
  have high : n < i.centre / i.den + 2 := by
    refine Nat.lt_of_mul_lt_mul_right (a := i.den) ?_
    rw [Nat.add_mul] at next ⊢
    omega
  unfold nearestWhole?
  dsimp only
  rw [List.find?_isSome]
  refine ⟨n, ?_, inside⟩
  have either : n = i.centre / i.den ∨ n = i.centre / i.den + 1 := by omega
  split <;> simp [either, or_comm]

theorem onGrid_centre (exponent : Int) :
    ((i.onGrid exponent).centre : ℚ) * 10 ^ exponent * i.den = i.centre * (i.onGrid exponent).den := by
  unfold onGrid
  split
  · rename_i upwards
    obtain ⟨n, rfl⟩ := Int.eq_ofNat_of_zero_le upwards
    simp only [Int.toNat_natCast, Nat.pow_eq, zpow_natCast]
    push_cast
    ring
  · rename_i downwards
    obtain ⟨n, rfl⟩ : ∃ n : Nat, exponent = -n := ⟨(-exponent).toNat, by omega⟩
    have step : (0 : ℚ) < 10 ^ n := by positivity
    simp only [neg_neg, Int.toNat_natCast, Nat.pow_eq, zpow_neg, zpow_natCast]
    push_cast
    field_simp

theorem onGrid_den_pos (positive : 0 < i.den) (exponent : Int) : 0 < (i.onGrid exponent).den := by
  unfold onGrid
  split
  · exact Nat.mul_pos positive (Nat.pow_pos (by decide))
  · exact positive

/-- A number of a grid that is less than one step from the centre is found, or the other one. -/
theorem isSome_nearestWhole?_onGrid {n : Nat} {exponent : Int} {x : ℚ} (positive : 0 < i.den)
    (centred : (i.centre : ℚ) = x * i.den) (inside : i.Contains (n * 10 ^ exponent))
    (notBelow : x < (n + 1) * 10 ^ exponent) (notAbove : n * 10 ^ exponent < x + 10 ^ exponent) :
    (i.onGrid exponent).nearestWhole?.isSome := by
  have stepPos : (0 : ℚ) < 10 ^ exponent := by positivity
  have denCast : (0 : ℚ) < i.den := Nat.cast_pos.mpr positive
  have gridPos := onGrid_den_pos positive exponent
  have gridCast : (0 : ℚ) < (i.onGrid exponent).den := Nat.cast_pos.mpr gridPos
  have centre := i.onGrid_centre exponent
  rw [centred, mul_right_comm x] at centre
  have centre := mul_right_cancel₀ denCast.ne' centre
  have notBelow : ((i.onGrid exponent).centre : ℚ) < (n + 1) * (i.onGrid exponent).den := by
    refine lt_of_mul_lt_mul_right ?_ stepPos.le
    rw [centre, mul_right_comm]
    exact mul_lt_mul_of_pos_right notBelow gridCast
  have notAbove : (n * (i.onGrid exponent).den : ℚ) <
      (i.onGrid exponent).centre + (i.onGrid exponent).den := by
    refine lt_of_mul_lt_mul_right ?_ stepPos.le
    rw [add_mul, centre, mul_right_comm, mul_comm ((i.onGrid exponent).den : ℚ), ← add_mul]
    exact mul_lt_mul_of_pos_right notAbove gridCast
  exact isSome_nearestWhole? (holds_iff.mpr (contains_onGrid.mpr inside)) gridPos
    (by exact_mod_cast notBelow) (by exact_mod_cast notAbove)

/-- What is found on a grid lies in the interval. -/
theorem contains_of_nearestWhole? {n : Nat} {exponent : Int}
    (found : (i.onGrid exponent).nearestWhole? = some n) : i.Contains (n * 10 ^ exponent) := by
  unfold nearestWhole? at found
  exact contains_onGrid.mp (holds_iff.mp (List.find?_some found))

end RoundingInterval

/-! ## The first digit -/

namespace Decimal

theorem exists_length_toDigits {n : Nat} (nonzero : 0 < n) :
    ∃ k, (Nat.toDigits 10 n).length = k + 1 ∧ 10 ^ k ≤ n ∧ n < 10 ^ (k + 1) := by
  obtain ⟨k, length⟩ := Nat.exists_eq_succ_of_ne_zero
    (Nat.ne_of_gt (List.length_pos_iff.mpr (Nat.toDigits_ne_nil (b := 10) (n := n))))
  refine ⟨k, length, ?_, (Nat.length_toDigits_le_iff (by decide) k.succ_pos).mp length.le⟩
  rcases Nat.eq_zero_or_pos k with rfl | more
  · exact nonzero
  · by_contra less
    have shorter := (Nat.length_toDigits_le_iff (by decide) more).mpr (Nat.lt_of_not_le less)
    omega

/-- The power of ten of the first digit is the greatest one that is not above the fraction. -/
theorem leadingExponent_spec {num den : Nat} (something : 0 < num) (positive : 0 < den) :
    (10 : ℚ) ^ leadingExponent num den ≤ num / den ∧
      (num / den : ℚ) < 10 ^ (leadingExponent num den + 1) := by
  have numPos : (0 : ℚ) < num := Nat.cast_pos.mpr something
  have denPos : (0 : ℚ) < den := Nat.cast_pos.mpr positive
  rw [le_div_iff₀ denPos, div_lt_iff₀ denPos]
  unfold leadingExponent
  split
  · rename_i atLeastOne
    obtain ⟨k, length, low, high⟩ := exists_length_toDigits (Nat.div_pos atLeastOne positive)
    have below : 10 ^ k * den ≤ num :=
      Nat.le_trans (Nat.mul_le_mul_right _ low) (Nat.div_mul_le_self num den)
    have above : num < 10 ^ (k + 1) * den := Nat.lt_mul_of_div_lt high positive
    have lead : ((Nat.toDigits 10 (num / den)).length : Int) - 1 = k := by omega
    rw [lead]
    exact ⟨by exact_mod_cast below, by exact_mod_cast above⟩
  · rename_i less
    have some : 0 < (den + num - 1) / num - 1 := by
      have two : 2 ≤ (den + num - 1) / num := (Nat.le_div_iff_mul_le something).mpr (by omega)
      omega
    have parts := Nat.div_add_mod (den + num - 1) num
    have rest := Nat.mod_lt (den + num - 1) something
    generalize (den + num - 1) / num = c at some parts ⊢
    obtain ⟨c, rfl⟩ : ∃ c', c = c' + 1 := ⟨c - 1, by omega⟩
    rw [Nat.mul_succ] at parts
    rw [Nat.add_sub_cancel] at some ⊢
    obtain ⟨k, length, low, high⟩ := exists_length_toDigits some
    have above : den ≤ 10 ^ (k + 1) * num := by
      have := Nat.mul_le_mul_right num high
      rw [Nat.succ_mul, Nat.mul_comm c] at this
      omega
    have below : 10 ^ k * num < den := by
      have := Nat.mul_le_mul_right num low
      rw [Nat.mul_comm c] at this
      omega
    have above : (den : ℚ) ≤ 10 ^ (k + 1) * num := by exact_mod_cast above
    have below : (10 ^ k * num : ℚ) < den := by exact_mod_cast below
    rw [length, show -((k + 1 : Nat) : Int) + 1 = -(k : Int) by omega, zpow_neg, zpow_neg,
      zpow_natCast, zpow_natCast]
    constructor
    · rwa [inv_mul_le_iff₀ (by positivity)]
    · rwa [lt_inv_mul_iff₀ (by positivity)]

/-! ## Trailing zeros -/

/-- Stripping moves zeros into the exponent until none is left. -/
theorem stripZeros_spec {fuel c : Nat} (e : Int) (nonzero : 0 < c) (enough : c < 10 ^ fuel) :
    ∃ n : Nat, (stripZeros fuel ⟨c, e⟩).exponent = e + n ∧
      (stripZeros fuel ⟨c, e⟩).digits * 10 ^ n = c ∧ (stripZeros fuel ⟨c, e⟩).digits % 10 ≠ 0 := by
  induction fuel generalizing c e with
  | zero => omega
  | succ fuel ih =>
    rw [stripZeros]
    split
    · rename_i trailing
      dsimp only at trailing ⊢
      have whole := Nat.div_add_mod c 10
      obtain ⟨n, exponent, digits, last⟩ := @ih (c / 10) (e + 1) (by omega) (by omega)
      refine ⟨n + 1, ?_, ?_, last⟩
      · rw [exponent]
        omega
      · rw [Nat.pow_succ, ← Nat.mul_assoc, digits]
        omega
    · rename_i last
      exact ⟨0, by simp, by simp, fun zero => last ⟨Nat.ne_of_gt nonzero, zero⟩⟩

end Decimal

/-! ## The shortest decimal -/

/-- The first of the numbers up to `n` that `g` finds something for. -/
theorem exists_findSome?_range {α : Type} {g : Nat → Option α} {n size : Nat} (inside : n < size)
    (hit : (g n).isSome) :
    ∃ k ≤ n, ∃ a, g k = some a ∧ (List.range size).findSome? g = some a := by
  obtain ⟨more, rfl⟩ := Nat.exists_eq_add_of_lt inside
  have found : ((List.range (n + 1)).findSome? g).isSome :=
    List.findSome?_isSome_iff.mpr ⟨n, List.mem_range.mpr (Nat.lt_succ_self n), hit⟩
  obtain ⟨a, first⟩ := Option.isSome_iff_exists.mp found
  obtain ⟨k, here, hit⟩ := List.exists_of_findSome?_eq_some first
  refine ⟨k, Nat.le_of_lt_succ (List.mem_range.mp here), a, hit, ?_⟩
  rw [Nat.add_right_comm, List.range_add, List.findSome?_append, first, Option.some_or]

namespace Double

open RoundingInterval

variable {d : Double}

/-- Of a grid that is coarse for a double, at most one number is in its interval. -/
theorem eq_of_contains {a b : Nat} {step : ℚ} (atLeast : 2 ^ 52 ≤ d.mantissa)
    (coarse : 2 * d.value < 2 ^ 53 * step)
    (ha : (RoundingInterval.ofDouble d).Contains (a * step))
    (hb : (RoundingInterval.ofDouble d).Contains (b * step)) : a = b := by
  have apart {a b : Nat} (ha : (RoundingInterval.ofDouble d).Contains (a * step))
      (hb : (RoundingInterval.ofDouble d).Contains (b * step)) : ¬ a < b := by
    intro less
    have nearA := near_of_contains atLeast ha
    have nearB := near_of_contains atLeast hb
    have valueNonneg := d.value_nonneg
    have stepPos : 0 < step := by linarith
    have next : ((a : ℚ) + 1) * step ≤ b * step :=
      mul_le_mul_of_nonneg_right (by exact_mod_cast less) stepPos.le
    have above := nearB.below
    have below := nearA.above
    linarith
  exact Nat.le_antisymm (Nat.le_of_not_lt (apart hb ha)) (Nat.le_of_not_lt (apart ha hb))

theorem centre_ofDouble (d : Double) :
    ((RoundingInterval.ofDouble d).centre : ℚ) = d.value * (RoundingInterval.ofDouble d).den := by
  simp only [RoundingInterval.ofDouble, Nat.cast_mul]
  rw [mul_left_comm, value_mul_denominator, numerator, Nat.cast_mul, mul_assoc]

theorem ofDouble_den_pos (d : Double) : 0 < (RoundingInterval.ofDouble d).den :=
  Nat.mul_pos (by decide) denominator_pos

/-- A grid that is neither coarser than a double nor too fine for it is one of those that are tried. -/
theorem leadingExponent_ofDouble {grid : Int} (fine : 10 ^ grid ≤ d.value)
    (coarse : 2 * d.value < 2 ^ 53 * 10 ^ grid) :
    ∃ tries < 17, Decimal.leadingExponent (RoundingInterval.ofDouble d).centre
      (RoundingInterval.ofDouble d).den = grid + (tries : Nat) := by
  have stepPos : (0 : ℚ) < 10 ^ grid := by positivity
  have denPos : (0 : ℚ) < (RoundingInterval.ofDouble d).den := Nat.cast_pos.mpr d.ofDouble_den_pos
  have centrePos := mul_pos (stepPos.trans_le fine) denPos
  rw [← centre_ofDouble, Nat.cast_pos] at centrePos
  obtain ⟨low, high⟩ := Decimal.leadingExponent_spec centrePos d.ofDouble_den_pos
  rw [centre_ofDouble, mul_div_cancel_right₀ _ denPos.ne'] at low high
  generalize Decimal.leadingExponent _ _ = lead at low high ⊢
  have atLeast : grid < lead + 1 :=
    (zpow_lt_zpow_iff_right₀ (by norm_num : (1 : ℚ) < 10)).mp (fine.trans_lt high)
  have atMost : lead < grid + 17 := by
    refine (zpow_lt_zpow_iff_right₀ (by norm_num : (1 : ℚ) < 10)).mp (low.trans_lt ?_)
    rw [zpow_add₀ (by norm_num)]
    norm_num
    linarith
  exact ⟨(lead - grid).toNat, by omega, by omega⟩

/-- The digits that are found where a number of a coarse grid lies in the interval: on this grid, or on
a coarser one which has that number too. -/
theorem exists_shortest_eq {j : Nat} {grid : Int} (atLeast : 2 ^ 52 ≤ d.mantissa)
    (inside : (RoundingInterval.ofDouble d).Contains (j * 10 ^ grid))
    (coarse : 2 * d.value < 2 ^ 53 * 10 ^ grid) (fine : 10 ^ grid ≤ d.value) :
    ∃ c zeros : Nat, c * 10 ^ zeros = j ∧ d.shortest = Decimal.stripZeros 18 ⟨c, grid + zeros⟩ := by
  obtain ⟨tries, few, lead⟩ := leadingExponent_ofDouble fine coarse
  let attempt (n : Nat) : Option Decimal :=
    (((RoundingInterval.ofDouble d).onGrid (grid + tries - n)).nearestWhole?).map fun c =>
      ⟨c, grid + tries - n⟩
  have hit : (attempt tries).isSome := by
    have stepPos : (0 : ℚ) < 10 ^ grid := by positivity
    have near := near_of_contains atLeast inside
    have above := near.above
    have below := near.below
    rw [Option.isSome_map, add_sub_cancel_right]
    exact isSome_nearestWhole?_onGrid d.ofDouble_den_pos d.centre_ofDouble inside (by linarith)
      (by linarith)
  obtain ⟨k, k_le, a, found, first⟩ := exists_findSome?_range few hit
  obtain ⟨c, nearest, rfl⟩ := Option.map_eq_some_iff.mp found
  have place : (grid + tries - k : Int) = grid + (tries - k : Nat) := by omega
  refine ⟨c, tries - k, ?_, ?_⟩
  · have here := contains_of_nearestWhole? nearest
    rw [place, add_comm, zpow_add₀ (by norm_num), zpow_natCast, ← mul_assoc] at here
    exact eq_of_contains atLeast coarse (by exact_mod_cast here) inside
  · have started : d.mantissa ≠ 0 := by omega
    rw [shortest, if_neg started]
    dsimp only
    rw [lead, first, Option.getD_some, place]

/-- The shortest decimal of a double in whose interval a number of a coarse grid lies is that number,
without its trailing zeros. -/
theorem shortest_of_contains {j : Nat} {grid : Int} (atLeast : 2 ^ 52 ≤ d.mantissa)
    (inside : (RoundingInterval.ofDouble d).Contains (j * 10 ^ grid))
    (something : 0 < j) (enough : j < 10 ^ 18)
    (coarse : 2 * d.value < 2 ^ 53 * 10 ^ grid) (fine : 10 ^ grid ≤ d.value) :
    ∃ n : Nat, d.shortest.exponent = grid + n ∧ d.shortest.digits * 10 ^ n = j ∧
      d.shortest.digits % 10 ≠ 0 := by
  obtain ⟨c, zeros, same, shortest_eq⟩ := exists_shortest_eq atLeast inside coarse fine
  have nonzero : 0 < c := by
    refine Nat.pos_of_ne_zero ?_
    rintro rfl
    omega
  have atMost : c ≤ j := same ▸ Nat.le_mul_of_pos_right c (Nat.pow_pos (by decide))
  obtain ⟨n, exponent, digits, last⟩ :=
    Decimal.stripZeros_spec (grid + zeros) nonzero (Nat.lt_of_le_of_lt atMost enough)
  rw [← shortest_eq] at exponent digits last
  refine ⟨n + zeros, ?_, ?_, last⟩
  · rw [exponent]
    omega
  · rw [Nat.pow_add, ← Nat.mul_assoc, digits, same]

end Double

end QueryGate

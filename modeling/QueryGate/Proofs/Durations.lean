-- How durations are written. They are computed in doubles, with an error
-- that is too small to be seen for all but the longest ones: what is
-- written is the nearest hundredth of a millisecond, in decimal digits and
-- without zeros at the end.
import QueryGate.Proofs.Shortest
import QueryGate.Serving.Stages

namespace QueryGate

/-! ## Hundredths as text -/

/-- A number of hundredths in decimal digits, without zeros at its end. -/
def hundredthsChars (n : Nat) : List Char :=
  Nat.toDigits 10 (n / 100) ++
    if n % 100 = 0 then []
    else if n % 10 = 0 then ['.', Nat.digitChar (n / 10 % 10)]
    else ['.', Nat.digitChar (n / 10 % 10), Nat.digitChar (n % 10)]

theorem toDigits_mul_ten_pow {n : Nat} (something : 0 < n) (zeros : Nat) :
    Nat.toDigits 10 (n * 10 ^ zeros) = Nat.toDigits 10 n ++ List.replicate zeros '0' := by
  induction zeros with
  | zero => simp
  | succ zeros ih =>
    have more : 0 < n * 10 ^ zeros := Nat.mul_pos something (Nat.pow_pos (by decide))
    have next : n * 10 ^ (zeros + 1) = 10 * (n * 10 ^ zeros) + 0 := by
      rw [Nat.pow_succ]
      ring
    rw [next, ← Nat.toDigits_append_toDigits (by decide) more (by decide), ih, List.append_assoc,
      Nat.toDigits_zero, List.replicate_succ']

namespace DecimalLayout

variable (layout : DecimalLayout)

/-- With digits on both sides of it the point stands between them. -/
theorem plainText_point (front back : List Char) (hfront : front ≠ []) (hback : back ≠ []) :
    layout.plainText (front ++ back) (front.length - 1) = front ++ '.' :: back := by
  have someFront := List.length_pos_iff.mpr hfront
  have someBack := List.length_pos_iff.mpr hback
  have whole : ((front.length : Int) - 1).toNat + 1 = front.length := by omega
  unfold plainText
  rw [if_neg (by omega)]
  dsimp only
  rw [whole, if_neg (by rw [List.length_append]; omega)]
  simp

/-- Digits in front of the point are a number that the digits behind it are tenths or hundredths of. -/
theorem toDigits_hundredths {n : Nat} (atLeast : 100 ≤ n) :
    Nat.toDigits 10 n =
      Nat.toDigits 10 (n / 100) ++ [Nat.digitChar (n / 10 % 10), Nat.digitChar (n % 10)] := by
  rw [Nat.toDigits_of_base_le (by decide) (by omega), Nat.toDigits_of_base_le (by decide) (by omega),
    Nat.div_div_eq_div_mul, List.append_assoc]
  rfl

/-- Digits `g`, the last one not zero, whose last one is at the given place. -/
theorem plainText_hundredths {g n : Nat} (something : 0 < g) (last : g % 10 ≠ 0) :
    Serving.durationLayout.plainText (Nat.toDigits 10 g)
        (-2 + n + (Nat.toDigits 10 g).length - 1) = hundredthsChars (g * 10 ^ n) := by
  unfold hundredthsChars
  match n with
  | 0 =>
    rw [Nat.pow_zero, Nat.mul_one, if_neg (by omega), if_neg last]
    by_cases large : 100 ≤ g
    · rw [toDigits_hundredths large]
      have point := plainText_point Serving.durationLayout (Nat.toDigits 10 (g / 100))
        [Nat.digitChar (g / 10 % 10), Nat.digitChar (g % 10)] Nat.toDigits_ne_nil
        (List.cons_ne_nil _ _)
      rw [← point]
      congr 1
      rw [List.length_append]
      simp
    · rw [Nat.div_eq_of_lt (Nat.lt_of_not_le large)]
      by_cases two : 10 ≤ g
      · rw [Nat.toDigits_of_base_le (by decide) two, Nat.toDigits_of_lt_base (by omega)]
        have small : g / 10 % 10 = g / 10 := by omega
        simp [plainText, small]
      · rw [Nat.toDigits_of_lt_base (by omega)]
        have none : g / 10 % 10 = 0 := by omega
        have small : g % 10 = g := by omega
        simp [plainText, small, none]
  | 1 =>
    have tenths : g * 10 / 10 % 10 = g % 10 := by omega
    have whole : g * 10 / 100 = g / 10 := by omega
    rw [Nat.pow_one, if_neg (by omega), if_pos (by omega), tenths, whole]
    by_cases large : 10 ≤ g
    · rw [Nat.toDigits_of_base_le (by decide) large]
      have point := plainText_point Serving.durationLayout (Nat.toDigits 10 (g / 10))
        [Nat.digitChar (g % 10)] Nat.toDigits_ne_nil (List.cons_ne_nil _ _)
      rw [← point]
      congr 1
      rw [List.length_append]
      simp
    · rw [Nat.toDigits_of_lt_base (by omega), Nat.div_eq_of_lt (by omega)]
      have small : g % 10 = g := by omega
      simp [plainText, small]
  | n + 2 =>
    have whole : g * 10 ^ (n + 2) = 100 * (g * 10 ^ n) := by ring
    rw [if_pos (by omega), whole, Nat.mul_div_cancel_left _ (by decide), List.append_nil,
      toDigits_mul_ten_pow something]
    have digits := List.length_pos_iff.mpr (Nat.toDigits_ne_nil (b := 10) (n := g))
    unfold plainText
    rw [if_neg (by omega)]
    dsimp only
    have places : (-2 + ((n + 2 : Nat) : Int) + (Nat.toDigits 10 g).length - 1).toNat + 1 -
        (Nat.toDigits 10 g).length = n := by omega
    rw [if_pos (by omega), places]
    exact List.append_nil _

theorem ofDouble_hundredths {d : Double} {k n : Nat} (nonnegative : d.isNegative = false)
    (exponent : d.shortest.exponent = -3 + n) (digits : d.shortest.digits * 10 ^ n = 10 * k)
    (last : d.shortest.digits % 10 ≠ 0) :
    Serving.durationLayout.ofDouble d = hundredthsChars k := by
  have something : 0 < d.shortest.digits := by omega
  obtain ⟨n, rfl⟩ : ∃ n', n = n' + 1 := by
    refine Nat.exists_eq_succ_of_ne_zero ?_
    rintro rfl
    omega
  have number : d.shortest.digits * 10 ^ n = k := by
    rw [Nat.pow_succ, ← Nat.mul_assoc] at digits
    omega
  have lead : d.shortest.exponent = -2 + n := by omega
  rw [ofDouble, nonnegative, text, lead, ← number]
  exact plainText_hundredths something last

end DecimalLayout

/-! ## The nearest hundredth -/

namespace Double

/-- A number of hundredths that is not too large is printed as what it is. -/
theorem ofDouble_overNat_hundred {k : Nat} (small : k < 2 ^ 40) :
    Serving.durationLayout.ofDouble ((ofNat k).overNat 100) = hundredthsChars k := by
  rcases Nat.eq_zero_or_pos k with rfl | something
  · decide +kernel
  have value_k : (ofNat k).value = k := value_ofNat (by omega)
  have atLeast : (1 : ℚ) ≤ k := by exact_mod_cast something
  have atMost : (k : ℚ) < 2 ^ 40 := by exact_mod_cast small
  have something : 0 < (ofNat k).value := by linarith
  have ordinary : Ordinary ((ofNat k).value / (100 : Nat)) := by
    rw [value_k]
    exact ordinary_div (by omega) (by decide) (by decide)
  obtain ⟨m, s, h⟩ := exists_rounded_overNat something (by decide) ordinary
  have near := h.near
  have inside := h.contains
  rw [overNat_fraction, value_k, Nat.cast_ofNat] at near inside
  have above := near.above
  have below := near.below
  have thousandths : (k / 100 : ℚ) = (10 * k : Nat) * 10 ^ (-3 : Int) := by
    push_cast
    norm_num
    ring
  rw [thousandths] at inside
  obtain ⟨n, exponent, digits, last⟩ := shortest_of_contains h.le_mantissa inside (by omega)
    (by omega) (by norm_num; linarith) (by norm_num; linarith)
  exact DecimalLayout.ofDouble_hundredths h.nonnegative exponent digits last

end Double

namespace Serving

open Double

/-- Whole seconds and the rest of them together. -/
theorem seconds_add_rest (nanoseconds : Nat) :
    ((nanoseconds / second : Nat) : ℚ) + (nanoseconds % second : Nat) / second =
      nanoseconds / second := by
  have secondPos : (second : ℚ) ≠ 0 := by norm_num [second]
  rw [eq_div_iff secondPos, add_mul, div_mul_cancel₀ _ secondPos, mul_comm]
  exact_mod_cast Nat.div_add_mod nanoseconds second

/-- Seconds are rounded twice on the way. -/
theorem asSeconds_error {nanoseconds : Nat} (something : 0 < nanoseconds)
    (small : nanoseconds < 2 ^ 50) :
    2 ^ 53 * (asSeconds nanoseconds).value ≤ (2 ^ 53 + 3) * (nanoseconds / 1000000000) ∧
      (2 ^ 53 - 3) * (nanoseconds / 1000000000) ≤ 2 ^ 53 * (asSeconds nanoseconds).value := by
  have total := seconds_add_rest nanoseconds
  have second_eq : (second : ℚ) = 1000000000 := rfl
  have rest_lt : nanoseconds % second < 2 ^ 53 :=
    Nat.lt_trans (Nat.mod_lt _ (by decide)) (by decide : second < 2 ^ 53)
  have whole_le : nanoseconds / second ≤ nanoseconds := Nat.div_le_self _ _
  have wholeValue : (ofNat (nanoseconds / second)).value = (nanoseconds / second : Nat) :=
    value_ofNat (by omega)
  have restValue : (ofNat (nanoseconds % second)).value = (nanoseconds % second : Nat) :=
    value_ofNat rest_lt
  have restOrdinary : Ordinary ((ofNat (nanoseconds % second)).value / (second : Nat)) := by
    rw [restValue]
    exact ordinary_div rest_lt (by decide) (by decide)
  have restNear := near_overNat (by decide) restOrdinary
  rw [restValue, second_eq] at restNear
  rw [second_eq] at total
  have wholeNonneg : (0 : ℚ) ≤ (nanoseconds / second : Nat) := Nat.cast_nonneg _
  have restNonneg : (0 : ℚ) ≤ (nanoseconds % second : Nat) := Nat.cast_nonneg _
  have atLeast : (1 : ℚ) ≤ nanoseconds := by exact_mod_cast something
  have atMost : (nanoseconds : ℚ) < 2 ^ 50 := by exact_mod_cast small
  have above := restNear.above
  have below := restNear.below
  have sumOrdinary : Ordinary ((ofNat (nanoseconds / second)).value +
      ((ofNat (nanoseconds % second)).overNat second).value) := by
    rw [wholeValue]
    exact .inr ⟨by linarith, by linarith⟩
  have sumNear := near_addition sumOrdinary
  rw [wholeValue] at sumNear
  have sumAbove := sumNear.above
  have sumBelow := sumNear.below
  rw [asSeconds]
  constructor <;> linarith

/-- And hundredths of milliseconds two times more. -/
theorem hundredths_error {nanoseconds : Nat} (something : 0 < nanoseconds)
    (small : nanoseconds < 2 ^ 50) :
    let hundredths := (((asSeconds nanoseconds).timesNat 1000).timesNat 100).value
    2 ^ 53 * hundredths ≤ (2 ^ 53 + 6) * (nanoseconds / 10000) ∧
      (2 ^ 53 - 6) * (nanoseconds / 10000) ≤ 2 ^ 53 * hundredths := by
  obtain ⟨above, below⟩ := asSeconds_error something small
  have atLeast : (1 : ℚ) ≤ nanoseconds := by exact_mod_cast something
  have atMost : (nanoseconds : ℚ) < 2 ^ 50 := by exact_mod_cast small
  have milliseconds := near_timesNat (a := asSeconds nanoseconds) (n := 1000)
    (.inr ⟨by norm_num; linarith, by norm_num; linarith⟩)
  have above := milliseconds.above
  have below := milliseconds.below
  rw [Nat.cast_ofNat] at above below
  have hundredths := near_timesNat (a := (asSeconds nanoseconds).timesNat 1000) (n := 100)
    (.inr ⟨by norm_num; linarith, by norm_num; linarith⟩)
  have above := hundredths.above
  have below := hundredths.below
  rw [Nat.cast_ofNat] at above below
  constructor <;> linarith

/-- A duration of up to thirteen days is written as the nearest hundredth of a millisecond; of two that
are equally near, as one of them. -/
theorem durationText_is_the_nearest_hundredth {nanoseconds : Nat} (small : nanoseconds < 2 ^ 50) :
    ∃ hundredths, 10000 * hundredths ≤ nanoseconds + 5000 ∧
      nanoseconds ≤ 10000 * hundredths + 5000 ∧
      durationText nanoseconds = String.ofList (hundredthsChars hundredths) := by
  rcases Nat.eq_zero_or_pos nanoseconds with rfl | something
  · exact ⟨0, by decide, by decide, by decide +kernel⟩
  obtain ⟨above, below⟩ := hundredths_error something small
  have atMost : (nanoseconds : ℚ) < 2 ^ 50 := by exact_mod_cast small
  have half := roundHalfUp_error (((asSeconds nanoseconds).timesNat 1000).timesNat 100)
  generalize rounded : (((asSeconds nanoseconds).timesNat 1000).timesNat 100).roundHalfUp = k at half
  generalize (((asSeconds nanoseconds).timesNat 1000).timesNat 100).value = exact at half above below
  obtain ⟨low, high⟩ := abs_le.mp half
  have below : (10000 * k : ℚ) < nanoseconds + 5001 := by linarith
  have above : (nanoseconds : ℚ) < 10000 * k + 5001 := by linarith
  have below : 10000 * k < nanoseconds + 5001 := by exact_mod_cast below
  have above : nanoseconds < 10000 * k + 5001 := by exact_mod_cast above
  refine ⟨k, by omega, by omega, ?_⟩
  rw [durationText, asMilliseconds, rounded, ofDouble_overNat_hundred (by omega)]

/-- Whole hundredths are written as they are. -/
theorem durationText_hundredths {hundredths : Nat} (small : 10000 * hundredths < 2 ^ 50) :
    durationText (10000 * hundredths) = String.ofList (hundredthsChars hundredths) := by
  obtain ⟨nearest, above, below, text⟩ := durationText_is_the_nearest_hundredth small
  have same : nearest = hundredths := by omega
  rw [text, same]

example : durationText 1234567890 = "1234.57" := by decide +kernel

end Serving

end QueryGate

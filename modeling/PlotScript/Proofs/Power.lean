import PlotScript.Number.Power
import PlotScript.Proofs.Double.Signs
import PlotScript.Proofs.Double.Whole

namespace PlotScript.Power

open Binary64

theorem eq_one_of_beq {value : Float} (equal : value == 1) : value = 1 := by
  obtain ⟨_, _, same | ⟨_, zero⟩ | ⟨_, zero⟩⟩ := Float.beq_iff_ne_nan_and_eq.mp equal
  · exact same
  · exact absurd zero (by decide)
  · exact absurd zero (by decide)

theorem eq_zero_of_beq {value : Float} (equal : value == 0) : value = 0 ∨ value = -0 := by
  obtain ⟨_, _, same | ⟨zero, _⟩ | ⟨zero, _⟩⟩ := Float.beq_iff_ne_nan_and_eq.mp equal
  · exact .inl same
  · exact .inl zero
  · exact .inr zero

theorem parity?_zero {value : Float} (zero : value == 0) : parity? value = some false := by
  rcases eq_zero_of_beq zero with rfl | rfl <;> decide +kernel

theorem parity?_one {value : Float} (one : value == 1) : parity? value = some true := by
  rw [eq_one_of_beq one]
  decide +kernel

theorem isNumber_of_parity? {value : Float} {odd : Bool} (whole : parity? value = some odd) :
    IsNumber value := by
  intro none
  rw [parity?, none] at whole
  cases whole

theorem unsigned_iff_isNegative {value : Float} : Unsigned value ↔ isNegative value = false := by
  rw [unsigned_iff, isNegative]
  cases ofFloat value <;> rfl

theorem isNegative_neg {value : Float} (number : IsNumber value) :
    isNegative (-value) = !isNegative value := by
  rw [IsNumber] at number
  rw [isNegative, isNegative, ofFloat_neg]
  cases found : ofFloat value with
  | nan => exact absurd found number
  | infinite => rfl
  | finite => rfl

theorem unsigned_one : Unsigned 1 := unsigned_iff.mpr rfl

theorem unsigned_ofMagnitude (magnitude exponent : Float) :
    Unsigned (ofMagnitude magnitude exponent) := by
  rw [ofMagnitude]
  split
  · exact unsigned_one
  · exact unsigned_abs _

theorem unsigned_power {base : Float} (plus : Unsigned base) (exponent : Float) :
    Unsigned (power base exponent) := by
  have none : Unsigned notANumber := unsigned_iff.mpr rfl
  rw [power, unsigned_iff_isNegative.mp plus, if_neg Bool.false_ne_true]
  split
  · exact unsigned_one
  split
  · exact unsigned_one
  split
  · exact plus
  split
  · exact none
  · exact unsigned_ofMagnitude base exponent

theorem power_whole {base exponent : Float} {odd : Bool} (number : IsNumber base)
    (whole : parity? exponent = some odd) (nonzero : ¬ exponent == 0) (proper : ¬ exponent == 1) :
    power base exponent = if isNegative base && odd then -ofMagnitude base.abs exponent
      else ofMagnitude base.abs exponent := by
  have known : base.isNaN = false := isNumber_iff.mp number
  have known' : exponent.isNaN = false := isNumber_iff.mp (isNumber_of_parity? whole)
  rw [power, if_neg nonzero]
  by_cases one : base == 1
  · -- The base one is answered before its sign is looked at, and agrees with the power of its magnitude.
    have unit : base = 1 := eq_one_of_beq one
    have plus : isNegative 1 = false := rfl
    have powers : ofMagnitude (1 : Float).abs exponent = 1 := if_pos rfl
    rw [if_pos one, unit, plus, powers]
    rfl
  · rw [if_neg one, if_neg proper, known, known', if_neg (by decide)]
    cases sign : isNegative base with
    | true =>
      rw [if_pos rfl, ofNegative, whole]
      cases odd <;> rfl
    | false =>
      rw [unsigned_iff_isNegative.mpr sign]
      rfl

theorem power_neg_of_even {base exponent : Float} (even : parity? exponent = some false) :
    power (-base) exponent = power base exponent := by
  by_cases number : IsNumber base
  · by_cases zero : exponent == 0
    · rw [power, power, if_pos zero, if_pos zero]
    · have proper : ¬ exponent == 1 := by
        intro one
        rw [parity?_one one] at even
        cases even
      rw [power_whole number even zero proper,
        power_whole (isNumber_neg.mpr number) even zero proper, abs_neg, Bool.and_false,
        Bool.and_false]
  · rw [neg_eq_self number]

theorem power_not_number {base exponent : Float} (none : ¬ IsNumber base)
    (nonzero : ¬ exponent == 0) : ¬ IsNumber (power base exponent) := by
  have missing : base.isNaN = true := by simpa [isNumber_iff] using none
  have proper : ¬ base == 1 := by
    intro one
    exact none (beq_iff.mp one).1
  rw [power, if_neg nonzero, if_neg proper]
  split
  · exact none
  · rw [missing, Bool.true_or, if_pos rfl, isNumber_iff]
    decide

theorem power_neg_of_odd {base exponent : Float} (odd : parity? exponent = some true) :
    power (-base) exponent = -power base exponent := by
  have nonzero : ¬ exponent == 0 := by
    intro zero
    rw [parity?_zero zero] at odd
    cases odd
  by_cases number : IsNumber base
  · by_cases one : exponent == 1
    · have first (value : Float) : power value exponent = value := by
        rw [power, if_neg nonzero, if_pos one, ite_eq_right_iff]
        exact fun unit => (eq_one_of_beq unit).symm
      rw [first, first]
    · rw [power_whole number odd nonzero one,
        power_whole (isNumber_neg.mpr number) odd nonzero one, abs_neg, isNegative_neg number]
      cases isNegative base with
      | true => exact (neg_neg _).symm
      | false => rfl
  · rw [neg_eq_self number, neg_eq_self (power_not_number number nonzero)]

theorem parity?_exact {number : Nat} (positive : 0 < number) (small : number < 2 ^ 53)
    {value : Float} (converted : ofInt? number = some value) :
    parity? value = some (decide (number % 2 = 1)) := by
  obtain ⟨other, found, taken⟩ := ofInt?_exact positive small
  cases converted.symm.trans found
  have short : number.log2 < 53 := (Nat.log2_lt (Nat.ne_of_gt positive)).mpr small
  rw [parity?, taken]
  simp only [wholeParity?]
  split
  · next whole =>
    have full : number.log2 = 52 := by omega
    rw [full]
    simp
  · have count : (-((number.log2 : Int) - 52)).toNat = 52 - number.log2 := by omega
    have unit : 0 < 2 ^ (52 - number.log2) := Nat.two_pow_pos _
    rw [count, Nat.pow_eq, Nat.mul_mod_left, if_pos rfl, Nat.mul_div_cancel _ unit]

theorem parity?_long {number : Nat} (large : 2 ^ 53 ≤ number) {value : Float}
    (converted : ofInt? number = some value) : parity? value = some false := by
  obtain ⟨significand, exponent, taken, positive⟩ := ofInt?_long large converted
  have nonzero : exponent ≠ 0 := Int.ne_of_gt positive
  rw [parity?, taken]
  simp [wholeParity?, Int.le_of_lt positive, nonzero]

theorem parity?_of_even {number : Nat} (positive : 0 < number)
    (even : number % 2 = 0 ∨ 2 ^ 53 ≤ number) {value : Float}
    (converted : ofInt? number = some value) : parity? value = some false := by
  rcases Nat.lt_or_ge number (2 ^ 53) with small | large
  · have rest : number % 2 = 0 := even.resolve_right (Nat.not_le.mpr small)
    rw [parity?_exact positive small converted, rest]
    rfl
  · exact parity?_long large converted

theorem parity?_of_odd {number : Nat} (odd : number % 2 = 1) (small : number < 2 ^ 53)
    {value : Float} (converted : ofInt? number = some value) : parity? value = some true := by
  have positive : 0 < number := by omega
  rw [parity?_exact positive small converted, odd]
  rfl

end PlotScript.Power

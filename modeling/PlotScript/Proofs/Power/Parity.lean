import PlotScript.Proofs.Double.Rounded
import PlotScript.Proofs.Double.Signs
import PlotScript.Proofs.Power

namespace PlotScript.Power

open Binary64

theorem isFinite_neg_one : IsFinite (-1) := isFinite_iff.mp rfl

theorem place_one : place 1 = 2 ^ depth := by
  have taken : ofFloat 1 = .finite false (2 ^ 52) (-52) := rfl
  have power : 52 + (-52 - leastExponent).toNat = depth := by
    unfold depth
    rfl
  rw [place, taken, units, size, ← Nat.pow_add, power]
  exact Nat.cast_pow 2 depth

theorem eq_mul_pow_sub {first second low high : Nat} (same : first * 2 ^ low = second * 2 ^ high)
    (below : low ≤ high) : first = second * 2 ^ (high - low) := by
  apply Nat.eq_of_mul_eq_mul_right (Nat.two_pow_pos low)
  rw [same, Nat.mul_assoc, ← Nat.pow_add, Nat.sub_add_cancel below]

section

variable {value : Float} {number : Int} (placed : place value = number * 2 ^ depth)

include placed

theorem significand_of_place {negative : Bool} {significand : Nat} {exponent : Int}
    (taken : ofFloat value = .finite negative significand exponent) :
    significand * 2 ^ (exponent + depth).toNat = number.natAbs * 2 ^ depth := by
  have size := natAbs_place value
  rw [placed, taken, Binary64.size, leastExponent_eq, Int.sub_neg, Int.natAbs_mul, Int.natAbs_pow] at size
  exact size.symm

theorem parity?_of_place (finite : IsFinite value) :
    parity? value = some (decide (number % 2 = 1)) := by
  obtain ⟨negative, significand, exponent, taken⟩ := finite
  have parts := significand_of_place placed taken
  rw [parity?, taken]
  simp only [wholeParity?]
  split
  · next whole =>
    obtain ⟨power, rfl⟩ := Int.eq_ofNat_of_zero_le whole
    have size := eq_mul_pow_sub parts.symm (by omega)
    have rest : ((power : Int) + depth).toNat - depth = power := by omega
    rw [rest] at size
    refine congrArg some (decide_eq_decide.mpr ?_)
    cases power with
    | zero => omega
    | succ power =>
      rw [Nat.pow_succ, ← Nat.mul_assoc] at size
      omega
  · next part =>
    have least := (finite_bounds taken).2.1
    rw [leastExponent_eq] at least
    have size := eq_mul_pow_sub parts (by omega)
    have rest : depth - (exponent + depth).toNat = (-exponent).toNat := by omega
    have unit : 0 < 2 ^ (-exponent).toNat := Nat.two_pow_pos _
    rw [size, rest, Nat.pow_eq, Nat.mul_mod_left, if_pos rfl, Nat.mul_div_cancel _ unit]
    exact congrArg some (decide_eq_decide.mpr (by omega))

theorem one_le_of_place (least : 1 ≤ number) : 1 ≤ value := by
  have unit : (0 : Int) < 2 ^ depth := by positivity
  have above : place 1 ≤ place value := by
    rw [place_one, placed]
    exact le_mul_of_one_le_left unit.le least
  have positive : 0 < place 1 := place_one ▸ unit
  exact le_iff.mpr ⟨isNumber_of_place (by omega), isNumber_of_place (by omega), above⟩

theorem natAbs_lt_of_odd (finite : IsFinite value) (odd : number % 2 = 1) :
    number.natAbs < 2 ^ 53 := by
  obtain ⟨_, significand, power, split, short⟩ := finite.isMagnitude
  rw [placed, Int.natAbs_mul, Int.natAbs_pow] at split
  rcases Nat.lt_or_ge depth power with high | low
  · have size := eq_mul_pow_sub split (Nat.le_of_lt high)
    obtain ⟨more, count⟩ := Nat.exists_eq_succ_of_ne_zero (Nat.sub_ne_zero_of_lt high)
    rw [count, Nat.pow_succ, ← Nat.mul_assoc] at size
    omega
  · have size := eq_mul_pow_sub split.symm low
    have least := Nat.le_mul_of_pos_right number.natAbs (Nat.two_pow_pos (depth - power))
    omega

theorem place_sub_one (finite : IsFinite value) (odd : number % 2 = 1) (least : 1 ≤ number) :
    IsFinite (value - 1) ∧ place (value - 1) = (number - 1) * 2 ^ depth := by
  have short := natAbs_lt_of_odd placed finite odd
  have magnitude : IsMagnitude ((number - 1) * 2 ^ depth).natAbs := by
    have bounded := finite.isMagnitude.1
    rw [placed, Int.natAbs_mul, Int.natAbs_pow] at bounded
    refine ⟨?_, (number - 1).natAbs, depth, by rw [Int.natAbs_mul, Int.natAbs_pow]; rfl, by omega⟩
    rw [Int.natAbs_mul, Int.natAbs_pow]
    exact Nat.lt_of_le_of_lt (Nat.mul_le_mul_right _ (by omega)) bounded
  have rounded : Rounded ((number - 1) * 2 ^ depth * (1 : Nat)) 1 (value - 1) := by
    have sum := rounded_add finite isFinite_neg_one
    rw [← sub_eq_add_neg, place_neg, place_one, placed] at sum
    rwa [Int.natCast_one, Int.mul_one, Int.sub_mul, Int.one_mul, Int.sub_eq_add_neg]
  have exact := rounded.eq_of_isMagnitude Nat.one_pos magnitude
  exact ⟨isFinite_of_place rounded.1 (exact ▸ magnitude.1), exact⟩

theorem parity?_sub_one (finite : IsFinite value) (odd : number % 2 = 1) (least : 1 ≤ number) :
    parity? (value - 1) = some false := by
  obtain ⟨finite', less⟩ := place_sub_one placed finite odd least
  rw [parity?_of_place less finite', decide_eq_false (by omega)]

end

theorem unsigned_sub_one {value : Float} (finite : IsFinite value) (least : 1 ≤ value) :
    Unsigned (value - 1) := by
  obtain ⟨number, number', below⟩ := le_iff.mp least
  rcases Int.lt_or_eq_of_le below with less | same
  · apply unsigned_of_place_pos
    rw [sub_eq_add_neg]
    apply (rounded_add finite isFinite_neg_one).pos
    rw [place_neg]
    omega
  · -- Nothing is left, and that is the zero without a minus.
    have one : value = 1 := eq_one_of_beq (beq_iff.mpr ⟨number', number, same.symm⟩)
    rw [one, unsigned_iff]
    rfl

end PlotScript.Power

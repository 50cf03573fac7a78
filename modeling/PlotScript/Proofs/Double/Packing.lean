import PlotScript.Proofs.Double.Arithmetic
import PlotScript.Proofs.Double.Rounding

namespace PlotScript.Binary64

open Float.Model Float.Model.UnpackedFloat

/-- The mantissa is the whole part of a quotient, and the two bits say how the rest compares with
one half. -/
structure Divides (extended : ExtendedMantissa) (num den : Nat) : Prop where
  mantissa : extended.mantissa = num / den
  roundBit : extended.roundBit = decide (den ≤ 2 * (num % den))
  stickyBit : extended.stickyBit = decide (2 * (num % den) ≠ 0 ∧ 2 * (num % den) ≠ den)

section

variable {extended : ExtendedMantissa} {num den : Nat}

theorem Divides.rounded (divides : Divides extended num den) (positive : 0 < den) :
    extended.roundedMantissa = Rounding.nearest num den := by
  obtain ⟨mantissa, round, sticky⟩ := divides
  obtain ⟨whole, roundBit, stickyBit⟩ := extended
  simp only at mantissa round sticky
  rw [ExtendedMantissa.roundedMantissa, Rounding.nearest, ← mantissa]
  cases roundBit <;> cases stickyBit <;>
    simp only [ExtendedMantissa.accuracy, Accuracy.roundToNearestEven, eq_comm (a := false),
      eq_comm (a := true), decide_eq_false_iff_not, decide_eq_true_eq] at round sticky ⊢
  · rw [if_pos (by omega)]
  · rw [if_pos (by omega)]
  · rw [if_neg (by omega), if_neg (by omega)]
  · rw [if_neg (by omega), if_pos (by omega)]

theorem Divides.shiftRightOne (divides : Divides extended num den) (positive : 0 < den) :
    Divides extended.shiftRightOne num (den * 2) := by
  obtain ⟨mantissa, round, sticky⟩ := divides
  have rest : num % (den * 2) = num % den + den * (num / den % 2) := Nat.mod_mul
  have small := Nat.mod_lt num positive
  refine ⟨?_, ?_, ?_⟩
  · rw [ExtendedMantissa.shiftRightOne, mantissa, Nat.div_div_eq_div_mul]
  · rw [ExtendedMantissa.shiftRightOne, mantissa, rest]
    rcases Nat.mod_two_eq_zero_or_one (num / den) with even | odd
    · rw [even, Nat.mul_zero]
      symm
      exact decide_eq_false (by omega)
    · rw [odd, Nat.mul_one]
      symm
      exact decide_eq_true (by omega)
  · rw [ExtendedMantissa.shiftRightOne, round, sticky, rest, ← Bool.decide_or]
    rcases Nat.mod_two_eq_zero_or_one (num / den) with even | odd
    · rw [even, Nat.mul_zero]
      exact decide_eq_decide.mpr (by omega)
    · rw [odd, Nat.mul_one]
      exact decide_eq_decide.mpr (by omega)

theorem divides_shiftRight (mantissa shift : Nat) :
    Divides (ExtendedMantissa.ofMantissaAndAccuracy mantissa .exact >>> shift) mantissa (2 ^ shift) := by
  induction shift with
  | zero => exact ⟨(Nat.div_one mantissa).symm, by simp [Nat.mod_one]; rfl, by simp [Nat.mod_one]; rfl⟩
  | succ shift ih => exact ih.shiftRightOne (Nat.two_pow_pos shift)

end

/-- What rounding gives: a significand of 53 bits, or a shorter one with the least exponent. The
exponent has no upper bound here. -/
def Canonical : UnpackedFloat → Prop
  | .zero _ => True
  | .finite _ significand exponent _ =>
    significand < 2 * exponentUnit ∧ leastExponent ≤ exponent ∧
      (exponent = leastExponent ∨ exponentUnit ≤ significand)
  | .infinity _ | .notANumber => False

section

variable {sign : Sign} {significand : Nat} {exponent : Int} {positive : 0 < significand}

theorem unpack_normal (short : significand < 2 ^ 53) (full : 2 ^ 52 ≤ significand)
    (least : -1074 ≤ exponent) (most : exponent ≤ 971) :
    UnpackedFloat.unpack Format.binary64 (packComponents Format.binary64 sign
      (BitVec.ofNat 11 (exponent + 1023 + 52).toNat) (BitVec.ofNat 52 significand)) =
      .finite sign significand exponent positive := by
  have biased : (BitVec.ofNat 11 (exponent + 1023 + 52).toNat).toNat =
      (exponent + 1023 + 52).toNat := Nat.mod_eq_of_lt (by omega)
  have ordinary : BitVec.ofNat 11 (exponent + 1023 + 52).toNat ≠ -1#_ := by
    intro same
    have number := congrArg BitVec.toNat same
    rw [biased] at number
    change _ = 2047 at number
    omega
  have filled : BitVec.ofNat 11 (exponent + 1023 + 52).toNat ≠ 0#_ := by
    intro same
    have number := congrArg BitVec.toNat same
    rw [biased] at number
    change _ = 0 at number
    omega
  have whole : (1#1 ++ BitVec.ofNat 52 significand).toNat = significand := by
    rw [toNat_leadingOne, BitVec.toNat_ofNat, exponentUnit]
    omega
  have bias : (Format.binary64.exponentBias : Int) = 1023 := rfl
  simp only [UnpackedFloat.unpack, unpackExponent_packComponents, unpackMantissa_packComponents,
    unpackSign_packComponents, Sign.ofBitVec_toBitVec, ordinary, filled, if_false, whole, biased]
  congr 1
  simp only [bias]
  omega

theorem unpack_subnormal (short : significand < 2 ^ 52) :
    UnpackedFloat.unpack Format.binary64
      (packComponents Format.binary64 sign 0#_ (BitVec.ofNat 52 significand)) =
      .finite sign significand (-1074) positive := by
  have whole : (BitVec.ofNat 52 significand).toNat = significand := Nat.mod_eq_of_lt short
  have filled : BitVec.ofNat 52 significand ≠ 0#_ := by
    intro same
    have number := congrArg BitVec.toNat same
    rw [whole] at number
    exact positive.ne' number
  have bias : (Format.binary64.exponentBias : Int) = 1023 := rfl
  have none : ((0#11).toNat : Int) = 0 := rfl
  simp only [UnpackedFloat.unpack, unpackExponent_packComponents, unpackMantissa_packComponents,
    unpackSign_packComponents, Sign.ofBitVec_toBitVec]
  rw [if_neg (by decide), if_pos trivial, dif_neg filled]
  simp only [whole, bias, none]
  rfl

theorem unpack_pack_finite
    (canonical : Canonical (.finite sign significand exponent positive)) :
    (Float.Model.pack (.finite sign significand exponent positive)).unpack =
      if exponent ≤ 971 then .finite sign significand exponent positive else .infinity sign := by
  obtain ⟨short, least, full⟩ := canonical
  change UnpackedFloat.unpack Format.binary64 (UnpackedFloat.pack Format.binary64 _) = _
  have bias : (Format.binary64.exponentBias : Int) = 1023 := rfl
  have width : Format.binary64.mantissaBits = 53 := rfl
  simp only [leastExponent, exponentUnit] at short least full
  have log : significand.log2 + 1 = 53 ↔ 2 ^ 52 ≤ significand := by
    have below : significand.log2 < 53 := (Nat.log2_lt positive.ne').mpr short
    have above := @Nat.le_log2 significand 52 positive.ne'
    omega
  rw [UnpackedFloat.pack.eq_def]
  simp only [bias, width, log, Nat.cast_ofNat]
  split
  · next high =>
    have beyond : ¬ exponent ≤ 971 := by omega
    rw [unpack_packedInfinity, if_neg beyond]
  · next low =>
    have within : exponent ≤ 971 := by omega
    rw [if_pos within]
    split
    · next normal => exact unpack_normal short normal least within
    · next subnormal =>
      obtain rfl := full.resolve_right subnormal
      exact unpack_subnormal (Nat.lt_of_not_le subnormal)

end

def clip (units : Int) : Int := max (-infinityUnits) (min infinityUnits units)

theorem units_pack {unpacked : UnpackedFloat} (canonical : Canonical unpacked) :
    (ofUnpacked (Float.Model.pack unpacked).unpack).units = clip (ofUnpacked unpacked).units := by
  have beyond := infinityUnits_pos
  cases unpacked with
  | notANumber => exact canonical.elim
  | infinity sign => exact canonical.elim
  | zero sign =>
    change (ofUnpacked
      (UnpackedFloat.unpack Format.binary64 (packedZero Format.binary64 sign))).units = _
    rw [unpack_packedZero, units_zero, clip]
    cases sign <;> simp only [Sign.apply] <;> omega
  | finite sign significand exponent positive =>
    rw [unpack_pack_finite canonical, units_finite]
    split
    · next within =>
      have fits : Fits (.finite sign significand exponent positive) :=
        ⟨canonical.1, canonical.2.1, within, canonical.2.2⟩
      have small := (finite_size fits).2
      rw [units_finite, clip]
      cases sign <;> simp only [Sign.apply] <;> omega
    · next above =>
      have great : infinityUnits ≤ significand * 2 ^ (exponent - leastExponent).toNat := by
        obtain ⟨_, least, full⟩ := canonical
        unfold infinityUnits
        simp only [leastExponent, infinityExponent] at full least ⊢
        exact Nat.mul_le_mul (full.resolve_left (by omega))
          (Nat.pow_le_pow_right (by decide) (by omega))
      rw [units_infinity, clip]
      cases sign <;> simp only [Sign.apply] <;> omega

def gridExponent (significand : Nat) (exponent : Int) : Int :=
  max (significand.log2 + 1 + exponent - 53) leastExponent

theorem shiftToTargetExponent_eq (significand : Nat) (exponent : Int) :
    shiftToTargetExponent Format.binary64 significand exponent .exact =
      (ExtendedMantissa.ofMantissaAndAccuracy significand .exact >>>
          (gridExponent significand exponent - exponent).toNat,
        exponent + (gridExponent significand exponent - exponent).toNat) := rfl

theorem gridExponent_bounds {significand shift : Nat} {exponent : Int} (positive : 0 < significand)
    (reach : gridExponent significand exponent = exponent + shift) :
    significand < 2 ^ (53 + shift) ∧
      (gridExponent significand exponent = leastExponent ∨ 2 ^ (52 + shift) ≤ significand) := by
  have least : 2 ^ significand.log2 ≤ significand := Nat.log2_self_le positive.ne'
  have most : significand < 2 ^ (significand.log2 + 1) := Nat.lt_log2_self
  have powers {low high : Nat} (below : low ≤ high) : 2 ^ low ≤ 2 ^ high :=
    Nat.pow_le_pow_right (by decide) below
  constructor
  · refine Nat.lt_of_lt_of_le most (powers ?_)
    rw [gridExponent] at reach
    omega
  · by_cases lowest : gridExponent significand exponent = leastExponent
    · exact .inl lowest
    · refine .inr (Nat.le_trans (powers ?_) least)
      rw [gridExponent] at reach lowest
      omega

theorem shift_carry {significand : Nat} {exponent : Int} (short : significand ≤ 2 ^ 53)
    (least : leastExponent ≤ exponent) :
    ∃ carry ≤ 1, (gridExponent significand exponent - exponent).toNat = carry ∧
      significand / 2 ^ carry * 2 ^ carry = significand ∧ significand / 2 ^ carry < 2 ^ 53 ∧
      (carry = 1 → 2 ^ 52 ≤ significand / 2 ^ carry) := by
  rcases Nat.lt_or_eq_of_le short with less | rfl
  · have log : significand.log2 < 53 := by
      by_cases zero : significand = 0
      · rw [zero]
        decide
      · exact (Nat.log2_lt zero).mpr less
    have same : (gridExponent significand exponent - exponent).toNat = 0 := by
      rw [gridExponent]
      omega
    exact ⟨0, by decide, same, by simp, by simpa using less, fun one => by cases one⟩
  · have carried : (gridExponent (2 ^ 53) exponent - exponent).toNat = 1 := by
      rw [gridExponent, Nat.log2_two_pow]
      omega
    exact ⟨1, Nat.le_refl 1, carried, by decide, by decide, by decide⟩

def ofParts (sign : Sign) (significand : Nat) (exponent : Int) : UnpackedFloat :=
  if zero : significand = 0 then .zero sign
  else .finite sign significand exponent (Nat.pos_of_ne_zero zero)

theorem canonical_ofParts (sign : Sign) {significand : Nat} {exponent : Int}
    (short : significand < 2 * exponentUnit) (least : leastExponent ≤ exponent)
    (full : exponent = leastExponent ∨ exponentUnit ≤ significand) :
    Canonical (ofParts sign significand exponent) := by
  rw [ofParts]
  split
  · trivial
  · exact ⟨short, least, full⟩

theorem units_ofParts (sign : Sign) (significand : Nat) (exponent : Int) :
    (ofUnpacked (ofParts sign significand exponent)).units =
      sign.apply (significand * 2 ^ (exponent - leastExponent).toNat : Nat) := by
  rw [ofParts]
  split
  · next zero => rw [units_zero, zero, Nat.zero_mul]
  · exact units_finite _ _ _ _

theorem roundWithAccuracy_exact (sign : Sign) {significand shift : Nat} {exponent : Int}
    (positive : 0 < significand)
    (reach : gridExponent significand exponent = exponent + shift) :
    Canonical (roundWithAccuracy Format.binary64 sign significand exponent .exact) ∧
      (ofUnpacked (roundWithAccuracy Format.binary64 sign significand exponent .exact)).units =
        sign.apply (Rounding.nearest significand (2 ^ shift) *
          2 ^ (gridExponent significand exponent - leastExponent).toNat : Nat) := by
  have least : leastExponent ≤ gridExponent significand exponent := Int.le_max_right _ _
  obtain ⟨below, above⟩ := gridExponent_bounds positive reach
  rw [Nat.pow_add] at below above
  have short : Rounding.nearest significand (2 ^ shift) ≤ 2 ^ 53 :=
    nearest_small (Nat.two_pow_pos shift) below
  have full : gridExponent significand exponent = leastExponent ∨
      2 ^ 52 ≤ Rounding.nearest significand (2 ^ shift) :=
    above.imp_right (Rounding.le_nearest (Nat.two_pow_pos shift))
  have first := (divides_shiftRight significand shift).rounded (Nat.two_pow_pos shift)
  have distance : (gridExponent significand exponent - exponent).toNat = shift := by omega
  obtain ⟨carry, small, carried, whole, bound, high⟩ := shift_carry short least
  have second := (divides_shiftRight (Rounding.nearest significand (2 ^ shift)) carry).mantissa
  have same : roundWithAccuracy Format.binary64 sign significand exponent .exact =
      ofParts sign (Rounding.nearest significand (2 ^ shift) / 2 ^ carry)
        (gridExponent significand exponent + carry) := by
    simp only [roundWithAccuracy, shiftToTargetExponent_eq, distance, first, ← reach, carried, second]
    rfl
  have total : Rounding.nearest significand (2 ^ shift) *
        2 ^ (gridExponent significand exponent - leastExponent).toNat =
      Rounding.nearest significand (2 ^ shift) / 2 ^ carry *
        2 ^ (gridExponent significand exponent + carry - leastExponent).toNat := by
    have sum : (gridExponent significand exponent + carry - leastExponent).toNat =
        carry + (gridExponent significand exponent - leastExponent).toNat := by
      omega
    rw [sum, Nat.pow_add, ← Nat.mul_assoc, whole]
  rw [same, total]
  refine ⟨canonical_ofParts sign bound (by omega) ?_, units_ofParts _ _ _⟩
  rcases Nat.le_one_iff_eq_zero_or_eq_one.mp small with rfl | rfl
  · rw [Int.natCast_zero, Int.add_zero, Nat.pow_zero, Nat.div_one]
    exact full
  · exact .inr (high rfl)

end PlotScript.Binary64

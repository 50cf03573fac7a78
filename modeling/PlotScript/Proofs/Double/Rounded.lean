import PlotScript.Proofs.Double.Packing

/-!
Conversions, products and sums as exact numbers that are rounded once. Two numbers in order are rounded
to doubles in order, and a number that is a double is that double.
-/

namespace PlotScript.Binary64

open Float.Model Float.Model.UnpackedFloat

/-- The exact number `num / den` rounded, before the great ones are cut off. -/
def RoundsTo (num : Int) (den : Nat) (unpacked : UnpackedFloat) : Prop :=
  Canonical unpacked ∧
    ∃ result, Rounds num.natAbs den result ∧ (ofUnpacked unpacked).units = num.sign * result

/-- What finite doubles have for magnitudes: 53 bits, on any grid below infinity. -/
def IsMagnitude (number : Nat) : Prop :=
  number < infinityUnits ∧ ∃ significand power, number = significand * 2 ^ power ∧ significand < 2 ^ 53

theorem isMagnitude_zero : IsMagnitude 0 := ⟨infinityUnits_pos, 0, 0, rfl, by decide⟩

/-- The double nearest to `num / den`, in units of the least positive double. -/
def Rounded (num : Int) (den : Nat) (value : Float) : Prop :=
  IsNumber value ∧ ∃ result, Rounds num.natAbs den result ∧ place value = clip (num.sign * result)

section

variable {num num' : Int} {den den' : Nat}

theorem Rounds.signed_le {result result' : Nat} (rounds : Rounds num.natAbs den result)
    (rounds' : Rounds num'.natAbs den' result') (positive : 0 < den) (positive' : 0 < den')
    (below : num * den' ≤ num' * den) : num.sign * result ≤ num'.sign * result' := by
  rcases Int.lt_or_le num 0 with minus | plus
  · have sign := Int.sign_eq_neg_one_of_neg minus
    rcases Int.lt_or_le num' 0 with minus' | plus'
    · have sign' := Int.sign_eq_neg_one_of_neg minus'
      have order : result' ≤ result := by
        refine rounds'.le rounds positive' positive (Int.ofNat_le.mp ?_)
        push_cast
        rw [abs_of_neg minus, abs_of_neg minus', Int.neg_mul, Int.neg_mul]
        exact Int.neg_le_neg below
      rw [sign, sign']
      omega
    · have least := Int.mul_nonneg (Int.sign_nonneg_iff.mpr plus') (Int.natCast_nonneg result')
      rw [sign]
      omega
  · have plus' : 0 ≤ num' := by
      refine nonneg_of_mul_nonneg_left (Int.le_trans ?_ below) (Int.natCast_pos.mpr positive)
      exact Int.mul_nonneg plus (Int.natCast_nonneg den')
    rcases Int.lt_or_eq_of_le plus with above | rfl
    · have order : result ≤ result' := by
        refine rounds.le rounds' positive positive' (Int.ofNat_le.mp ?_)
        push_cast
        rwa [abs_of_nonneg plus, abs_of_nonneg plus']
      have above' : 0 < num' := by
        refine pos_of_mul_pos_left (Int.lt_of_lt_of_le ?_ below) (Int.natCast_nonneg den)
        exact Int.mul_pos above (Int.natCast_pos.mpr positive')
      rw [Int.sign_eq_one_of_pos above, Int.sign_eq_one_of_pos above']
      omega
    · rw [Int.sign_zero, Int.zero_mul]
      exact Int.mul_nonneg (Int.sign_nonneg_iff.mpr plus') (Int.natCast_nonneg result')

variable {value value' : Float}

theorem Rounded.le (rounded : Rounded num den value) (rounded' : Rounded num' den' value')
    (positive : 0 < den) (positive' : 0 < den') (below : num * den' ≤ num' * den) :
    value ≤ value' := by
  obtain ⟨number, result, rounds, placed⟩ := rounded
  obtain ⟨number', result', rounds', placed'⟩ := rounded'
  have order := rounds.signed_le rounds' positive positive' below
  rw [le_iff_place number number', placed, placed', clip, clip]
  omega

theorem Rounded.nonneg (rounded : Rounded num den value) (least : 0 ≤ num) : 0 ≤ place value := by
  obtain ⟨_, result, _, placed⟩ := rounded
  have product := Int.mul_nonneg (Int.sign_nonneg_iff.mpr least) (Int.natCast_nonneg result)
  rw [placed, clip]
  omega

theorem Rounded.eq_of_isMagnitude {number : Int} (rounded : Rounded (number * den) den value)
    (positive : 0 < den) (magnitude : IsMagnitude number.natAbs) : place value = number := by
  obtain ⟨_, result, rounds, placed⟩ := rounded
  obtain ⟨small, significand, power, split, short⟩ := magnitude
  rw [Int.natAbs_mul, Int.natAbs_natCast, split] at rounds
  have same := rounds.eq_of_short positive short
  have sign : (number * den).sign = number.sign := by
    rw [Int.sign_mul, Int.sign_natCast_of_ne_zero positive.ne', Int.mul_one]
  rw [placed, sign, same, ← split, Int.sign_mul_natAbs, clip]
  omega

theorem isFinite_of_place {value : Float} (number : IsNumber value)
    (small : (place value).natAbs < infinityUnits) : IsFinite value := by
  rw [place] at small
  cases taken : ofFloat value with
  | nan => exact absurd taken number
  | infinite negative =>
    rw [taken] at small
    cases negative <;> simp [units, hasMinus, size] at small
  | finite negative significand exponent => exact ⟨negative, significand, exponent, taken⟩

theorem natAbs_place (value : Float) : (place value).natAbs = (ofFloat value).size := by
  rw [place, units]
  split <;> simp

theorem IsFinite.isMagnitude {value : Float} (finite : IsFinite value) :
    IsMagnitude (place value).natAbs := by
  obtain ⟨negative, significand, exponent, taken⟩ := finite
  obtain ⟨short, least, most, _⟩ := finite_bounds taken
  rw [natAbs_place, taken, size]
  refine ⟨?_, significand, _, rfl, short⟩
  unfold infinityUnits
  apply size_lt_of_exponent_lt _ short (Nat.le_refl exponentUnit)
  simp only [leastExponent, infinityExponent] at least ⊢
  omega

end

theorem clip_of_lt {number : Int} (small : number.natAbs < infinityUnits) : clip number = number := by
  rw [clip]
  omega

theorem rounded_ofBits {num den bits : Nat} (positive : 0 < den)
    (found : nearestBits? num den = some bits) {number : Int}
    (size : number.natAbs = num * 2 ^ depth) :
    Rounded number den (ofBits (decide (number < 0)) bits) := by
  have small := nearestBits?_lt found
  have finite : IsFinite (ofBits (decide (number < 0)) bits) := isFinite_ofBits small
  have rounds := rounds_nearestBits? positive found
  have placed := @place_ofBits (decide (number < 0)) _ small
  refine ⟨finite.isNumber, _, size ▸ rounds, ?_⟩
  have signed : number.sign * (ofMagnitudeBits bits).size =
      place (ofBits (decide (number < 0)) bits) := by
    rw [placed]
    rcases lt_trichotomy number 0 with minus | rfl | plus
    · rw [if_pos (decide_eq_true minus), Int.sign_eq_neg_one_of_neg minus, Int.neg_one_mul]
    · have nothing : (ofMagnitudeBits bits).size = 0 := by
        rw [← size] at rounds
        simpa using @Rounds.eq_of_short den _ 0 0 positive (by decide) (by simpa using rounds)
      simp [nothing]
    · rw [if_neg (by simpa using Int.le_of_lt plus), Int.sign_eq_one_of_pos plus, Int.one_mul]
  rw [signed, clip_of_lt finite.isMagnitude.1]

theorem decide_units_neg (number : Int) :
    decide (number * 2 ^ depth < 0) = decide (number < 0) :=
  decide_eq_decide.mpr (lt_iff_lt_of_le_iff_le (mul_nonneg_iff_of_pos_right (by positivity)))

theorem rounded_ofInt? {number : Int} {value : Float} (converted : ofInt? number = some value) :
    Rounded (number * 2 ^ depth) 1 value := by
  obtain ⟨bits, found, rfl⟩ := Option.map_eq_some_iff.mp converted
  rw [← decide_units_neg]
  exact rounded_ofBits Nat.one_pos found (by simp [Int.natAbs_mul, Int.natAbs_pow])

theorem rounded_ofQuotient? {num den : Int} {value : Float} (positive : 0 < den)
    (converted : ofQuotient? num den = some value) :
    Rounded (num * 2 ^ depth) den.toNat value := by
  obtain ⟨bits, found, rfl⟩ := Option.map_eq_some_iff.mp converted
  have plus : decide (den < 0) = false := decide_eq_false (by omega)
  have same : den.natAbs = den.toNat := by omega
  rw [plus, Bool.bne_false, ← decide_units_neg]
  rw [same] at found
  exact rounded_ofBits (by omega) found (by simp [Int.natAbs_mul, Int.natAbs_pow])

theorem natAbs_apply (sign : Sign) (number : Nat) : (sign.apply number).natAbs = number := by
  cases sign <;> simp [Sign.apply]

theorem sign_apply (sign : Sign) {number : Nat} (filled : 0 < number) (result : Nat) :
    (sign.apply number).sign * result = sign.apply result := by
  cases sign <;> simp [Sign.apply, Int.sign_natCast_of_ne_zero filled.ne']

theorem apply_mul_apply (sign sign' : Sign) (number number' : Nat) :
    sign.apply number * sign'.apply number' = (sign * sign').apply (number * number' : Nat) := by
  rw [Int.natCast_mul]
  cases sign with
  | negative =>
    cases sign' with
    | negative => exact Int.neg_mul_neg _ _
    | positive => exact Int.neg_mul _ _
  | positive =>
    cases sign' with
    | negative => exact Int.mul_neg _ _
    | positive => rfl

theorem roundsTo_roundWithAccuracy (sign : Sign) {significand shift raised lowered : Nat}
    {exponent : Int} (positive : 0 < significand)
    (reach : gridExponent significand exponent = exponent + shift)
    (level : (raised : Int) - lowered = exponent - leastExponent) :
    RoundsTo (sign.apply (significand * 2 ^ raised : Nat)) (2 ^ lowered)
      (roundWithAccuracy Format.binary64 sign significand exponent .exact) := by
  have least : leastExponent ≤ gridExponent significand exponent := Int.le_max_right _ _
  obtain ⟨canonical, units⟩ := roundWithAccuracy_exact sign positive reach
  obtain ⟨below, above⟩ := gridExponent_bounds positive reach
  obtain ⟨coarse, counted⟩ := Int.eq_ofNat_of_zero_le (Int.sub_nonneg_of_le least)
  have sum : coarse + lowered = shift + raised := by omega
  have powers (bits : Nat) : 2 ^ (bits + coarse) * 2 ^ lowered = 2 ^ (bits + shift) * 2 ^ raised := by
    rw [← Nat.pow_add, ← Nat.pow_add, Nat.add_assoc, Nat.add_assoc, sum]
  have same : Rounding.nearest (significand * 2 ^ raised) (2 ^ lowered * 2 ^ coarse) =
      Rounding.nearest significand (2 ^ shift) := by
    rw [Nat.mul_comm (2 ^ lowered), ← Nat.pow_add, sum, Nat.pow_add]
    exact Rounding.nearest_mul_right (Nat.two_pow_pos raised)
  rw [counted, Int.toNat_natCast] at units
  have full : coarse = 0 ∨ 2 ^ (52 + coarse) * 2 ^ lowered ≤ significand * 2 ^ raised := by
    rw [powers]
    exact above.imp (by omega) (Nat.mul_le_mul_right _)
  have rounds : Rounds (sign.apply (significand * 2 ^ raised : Nat)).natAbs (2 ^ lowered)
      (Rounding.nearest significand (2 ^ shift) * 2 ^ coarse) := by
    rw [natAbs_apply]
    refine ⟨coarse, full, ?_, by rw [same]⟩
    rw [powers]
    exact Nat.mul_lt_mul_of_pos_right below (Nat.two_pow_pos raised)
  refine ⟨canonical, _, rounds, ?_⟩
  rw [units, sign_apply sign (Nat.mul_pos positive (Nat.two_pow_pos raised))]

theorem units_zero_eq (sign : Sign) : (ofUnpacked (.zero sign)).units = 0 := by
  cases sign <;> rfl

theorem roundsTo_zero (sign : Sign) {den : Nat} (positive : 0 < den) : RoundsTo 0 den (.zero sign) :=
  ⟨trivial, 0, rounds_zero positive, units_zero_eq sign⟩

theorem rounds_short {significand power : Nat} (short : significand < 2 ^ 53)
    (full : power = 0 ∨ 2 ^ 52 ≤ significand) :
    Rounds (significand * 2 ^ power) 1 (significand * 2 ^ power) := by
  have positive : 0 < 2 ^ power := Nat.two_pow_pos power
  refine ⟨power, full.imp_right fun filled => ?_, ?_, ?_⟩
  · rw [Nat.mul_one, Nat.pow_add]
    exact Nat.mul_le_mul_right _ filled
  · rw [Nat.mul_one, Nat.pow_add]
    exact Nat.mul_lt_mul_of_pos_right short positive
  · rw [Nat.one_mul, Rounding.nearest_whole significand positive]

theorem Rounded.pos {num : Int} {value : Float} (rounded : Rounded num 1 value) (positive : 0 < num) :
    0 < place value := by
  obtain ⟨_, result, rounds, placed⟩ := rounded
  have one : Rounds 1 1 1 := @rounds_short 1 0 (by decide) (.inl rfl)
  have filled : 1 ≤ result := one.le rounds Nat.one_pos Nat.one_pos (by omega)
  have beyond := infinityUnits_pos
  rw [placed, clip, Int.sign_eq_one_of_pos positive]
  omega

theorem roundsTo_self {unpacked : UnpackedFloat} (canonical : Canonical unpacked) :
    RoundsTo (ofUnpacked unpacked).units 1 unpacked := by
  cases unpacked with
  | notANumber => exact canonical.elim
  | infinity sign => exact canonical.elim
  | zero sign =>
    rw [units_zero_eq]
    exact roundsTo_zero sign Nat.one_pos
  | finite sign significand exponent positive =>
    obtain ⟨short, least, full⟩ := canonical
    have rounds := @rounds_short significand (exponent - leastExponent).toNat short
      (full.imp_left (by omega))
    rw [units_finite]
    refine ⟨⟨short, least, full⟩, _, by rwa [natAbs_apply], ?_⟩
    rw [units_finite, sign_apply sign (Nat.mul_pos positive (Nat.two_pow_pos _))]

theorem gridExponent_reach {significand : Nat} {exponent : Int}
    (fine : exponent ≤ leastExponent ∨ 2 ^ 52 ≤ significand) :
    ∃ shift : Nat, gridExponent significand exponent = exponent + shift := by
  have least : exponent ≤ gridExponent significand exponent := by
    rw [gridExponent]
    rcases fine with low | long
    · omega
    · have log := (Nat.le_log2 (by omega)).mpr long
      omega
  exact ⟨(gridExponent significand exponent - exponent).toNat, by omega⟩

theorem roundsTo_mul {first second : UnpackedFloat} (canonical : Canonical first)
    (canonical' : Canonical second) :
    RoundsTo ((ofUnpacked first).units * (ofUnpacked second).units) (2 ^ depth)
      (UnpackedFloat.mul Format.binary64 first second) := by
  have unit : 0 < 2 ^ depth := Nat.two_pow_pos depth
  cases first with
  | notANumber => exact canonical.elim
  | infinity sign => exact canonical.elim
  | zero sign =>
    rw [units_zero_eq, Int.zero_mul]
    cases second with
    | notANumber => exact canonical'.elim
    | infinity sign' => exact canonical'.elim
    | zero sign' => exact roundsTo_zero _ unit
    | finite sign' => exact roundsTo_zero _ unit
  | finite sign significand exponent positive =>
    cases second with
    | notANumber => exact canonical'.elim
    | infinity sign' => exact canonical'.elim
    | zero sign' =>
      rw [units_zero_eq, Int.mul_zero]
      exact roundsTo_zero _ unit
    | finite sign' significand' exponent' positive' =>
      obtain ⟨_, least, full⟩ := canonical
      obtain ⟨_, least', full'⟩ := canonical'
      have fine : exponent + exponent' ≤ leastExponent ∨ 2 ^ 52 ≤ significand * significand' := by
        rcases full with low | long
        · rcases full' with low' | long'
          · left
            rw [low, low']
            decide
          · exact .inr (Nat.le_trans long' (Nat.le_mul_of_pos_left _ positive))
        · exact .inr (Nat.le_trans long (Nat.le_mul_of_pos_right _ positive'))
      obtain ⟨shift, reach⟩ := gridExponent_reach fine
      have rounded := @roundsTo_roundWithAccuracy (sign * sign') _ shift
        ((exponent - leastExponent).toNat + (exponent' - leastExponent).toNat) depth _
        (Nat.mul_pos positive positive') reach (by rw [leastExponent_eq] at *; omega)
      rw [units_finite, units_finite, apply_mul_apply, Nat.mul_mul_mul_comm, ← Nat.pow_add]
      exact rounded

theorem log2_mul_two_pow {number : Nat} (positive : 0 < number) (power : Nat) :
    (number * 2 ^ power).log2 = number.log2 + power := by
  induction power with
  | zero => simp
  | succ power ih =>
    have filled : number * 2 ^ power ≠ 0 := (Nat.mul_pos positive (Nat.two_pow_pos power)).ne'
    rw [Nat.pow_succ', Nat.mul_left_comm, Nat.log2_two_mul filled, ih, Nat.add_assoc]

theorem roundsTo_round (sign : Sign) {significand : Nat} {exponent : Int}
    (positive : 0 < significand) (least : leastExponent ≤ exponent) :
    RoundsTo (sign.apply (significand * 2 ^ (exponent - leastExponent).toNat : Nat)) 1
      (round Format.binary64 sign significand exponent) := by
  obtain ⟨lift, lifted⟩ :
      ∃ lift : Nat, (exponent - gridExponent significand exponent).toNat = lift := ⟨_, rfl⟩
  have lowest : leastExponent ≤ gridExponent significand exponent := Int.le_max_right _ _
  have kept : gridExponent (significand * 2 ^ lift) (exponent - lift) =
      gridExponent significand exponent := by
    rw [gridExponent, gridExponent, log2_mul_two_pow positive]
    omega
  have reach : gridExponent (significand * 2 ^ lift) (exponent - lift) =
      exponent - lift + (gridExponent significand exponent - exponent).toNat := by
    rw [kept]
    omega
  have rounded := @roundsTo_roundWithAccuracy sign _ _ (exponent - lift - leastExponent).toNat 0 _
    (Nat.mul_pos positive (Nat.two_pow_pos lift)) reach (by omega)
  have sum : lift + (exponent - lift - leastExponent).toNat = (exponent - leastExponent).toNat := by
    omega
  have same : round Format.binary64 sign significand exponent =
      roundWithAccuracy Format.binary64 sign
        (significand <<< (exponent - gridExponent significand exponent).toNat)
        (exponent - (exponent - gridExponent significand exponent).toNat) .exact := rfl
  rw [Nat.mul_assoc, ← Nat.pow_add, sum, Nat.pow_zero] at rounded
  rwa [same, lifted, Nat.shiftLeft_eq]

theorem roundsTo_normalize {significand exponent : Int} (least : leastExponent ≤ exponent)
    (zero : Sign) :
    RoundsTo (significand * (2 ^ (exponent - leastExponent).toNat : Nat)) 1
      (normalize Format.binary64 significand exponent zero) := by
  rw [UnpackedFloat.normalize.eq_def]
  rcases lt_trichotomy significand 0 with minus | rfl | plus
  · rw [compare_lt_iff_lt.mpr minus]
    have filled : 0 < (-significand).toNat := by omega
    have rounded := roundsTo_round .negative filled least
    have same : ((-significand).toNat : Int) = -significand := Int.toNat_of_nonneg (by omega)
    rw [Sign.apply, Int.natCast_mul, same, Int.neg_mul, Int.neg_neg] at rounded
    exact rounded
  · rw [Int.zero_mul]
    exact roundsTo_zero zero Nat.one_pos
  · rw [compare_gt_iff_gt.mpr plus]
    have filled : 0 < significand.toNat := by omega
    have rounded := roundsTo_round .positive filled least
    have same : (significand.toNat : Int) = significand := Int.toNat_of_nonneg (by omega)
    rw [Sign.apply, Int.natCast_mul, same] at rounded
    exact rounded

theorem apply_shiftLeft (sign : Sign) (significand : Nat) {exponent low : Int}
    (above : low ≤ exponent) (least : leastExponent ≤ low) :
    sign.apply (significand <<< (exponent - low).toNat : Nat) * (2 ^ (low - leastExponent).toNat : Nat) =
      sign.apply (significand * 2 ^ (exponent - leastExponent).toNat : Nat) := by
  have sum : (exponent - leastExponent).toNat =
      (exponent - low).toNat + (low - leastExponent).toNat := by
    omega
  rw [sum, Nat.pow_add, ← Nat.mul_assoc, Nat.shiftLeft_eq, Int.natCast_mul _ (2 ^ _)]
  cases sign with
  | negative => exact Int.neg_mul _ _
  | positive => rfl

theorem roundsTo_add {first second : UnpackedFloat} (canonical : Canonical first)
    (canonical' : Canonical second) :
    RoundsTo ((ofUnpacked first).units + (ofUnpacked second).units) 1
      (UnpackedFloat.add Format.binary64 first second) := by
  cases first with
  | notANumber => exact canonical.elim
  | infinity sign => exact canonical.elim
  | zero sign =>
    rw [units_zero_eq, Int.zero_add]
    cases second with
    | notANumber => exact canonical'.elim
    | infinity sign' => exact canonical'.elim
    | zero sign' =>
      rw [units_zero_eq]
      cases sign <;> cases sign' <;> exact roundsTo_zero _ Nat.one_pos
    | finite sign' => exact roundsTo_self canonical'
  | finite sign significand exponent positive =>
    cases second with
    | notANumber => exact canonical'.elim
    | infinity sign' => exact canonical'.elim
    | zero sign' =>
      rw [units_zero_eq, Int.add_zero]
      exact roundsTo_self canonical
    | finite sign' significand' exponent' positive' =>
      obtain ⟨_, least, _⟩ := canonical
      obtain ⟨_, least', _⟩ := canonical'
      have lowest : leastExponent ≤ min exponent exponent' := by omega
      have rounded := @roundsTo_normalize
        (sign.apply (significand <<< (exponent - min exponent exponent').toNat : Nat) +
          sign'.apply (significand' <<< (exponent' - min exponent exponent').toNat : Nat))
        _ lowest .positive
      rw [Int.add_mul, apply_shiftLeft sign _ (Int.min_le_left _ _) lowest,
        apply_shiftLeft sign' _ (Int.min_le_right _ _) lowest] at rounded
      rw [units_finite, units_finite]
      exact rounded

theorem IsFinite.canonical {value : Float} (finite : IsFinite value) :
    Canonical value.toModel.unpack := by
  have fits := fits value
  have number := isNumber_iff_unpack.mp finite.isNumber
  have bounded := finite.ne_infinity
  generalize value.toModel.unpack = unpacked at *
  cases unpacked with
  | notANumber => exact number rfl
  | infinity sign => exact bounded sign rfl
  | zero sign => trivial
  | finite sign => exact ⟨fits.1, fits.2.1, fits.2.2.2⟩

theorem RoundsTo.rounded {num : Int} {den : Nat} {unpacked : UnpackedFloat}
    (rounds : RoundsTo num den unpacked) : Rounded num den ⟨Float.Model.pack unpacked⟩ := by
  obtain ⟨canonical, result, rounds, units⟩ := rounds
  have number : unpacked ≠ .notANumber := by
    rintro rfl
    exact canonical.elim
  refine ⟨isNumber_iff_unpack.mpr (isNumber_pack number), result, rounds, ?_⟩
  rw [place, ofFloat_eq_ofUnpacked, units_pack canonical, units]

theorem rounded_mul {first second : Float} (finite : IsFinite first) (finite' : IsFinite second) :
    Rounded (place first * place second) (2 ^ depth) (first * second) := by
  rw [place, place, ofFloat_eq_ofUnpacked, ofFloat_eq_ofUnpacked]
  exact (roundsTo_mul finite.canonical finite'.canonical).rounded

theorem rounded_add {first second : Float} (finite : IsFinite first) (finite' : IsFinite second) :
    Rounded (place first + place second) 1 (first + second) := by
  rw [place, place, ofFloat_eq_ofUnpacked, ofFloat_eq_ofUnpacked]
  exact (roundsTo_add finite.canonical finite'.canonical).rounded

def value? : Binary64 → Option ℚ
  | .finite negative significand exponent =>
    some ((if negative then -1 else 1) * significand * 2 ^ exponent)
  | .infinite _ | .nan => none

theorem IsFinite.value?_eq {value : Float} (finite : IsFinite value) :
    (ofFloat value).value? = some ((place value : ℚ) / 2 ^ depth) := by
  obtain ⟨negative, significand, exponent, taken⟩ := finite
  obtain ⟨_, least, _⟩ := finite_bounds taken
  obtain ⟨power, level⟩ := Int.eq_ofNat_of_zero_le (Int.sub_nonneg_of_le least)
  have sum : exponent = (power : Int) - depth := by
    rw [leastExponent_eq] at level
    omega
  have split : (2 : ℚ) ^ exponent = 2 ^ power / 2 ^ depth := by
    rw [sum, zpow_sub₀ (by decide), zpow_natCast, zpow_natCast]
  rw [taken, value?, place, taken, units, size, level, split]
  cases negative <;> simp [hasMinus] <;> ring

theorem IsFinite.value?_eq_some {value : Float} (finite : IsFinite value) {number : Int}
    (placed : place value = number * 2 ^ depth) : (ofFloat value).value? = some (number : ℚ) := by
  rw [finite.value?_eq, placed]
  push_cast
  rw [mul_div_cancel_right₀ _ (pow_ne_zero depth two_ne_zero)]

theorem place_of_value? {value : Float} {number : Int}
    (stands : (ofFloat value).value? = some (number : ℚ)) :
    IsFinite value ∧ place value = number * 2 ^ depth := by
  have finite : IsFinite value := by
    cases taken : ofFloat value with
    | finite negative significand exponent => exact ⟨negative, significand, exponent, taken⟩
    | nan | infinite => rw [taken] at stands; cases stands
  refine ⟨finite, ?_⟩
  rw [finite.value?_eq, Option.some_inj, div_eq_iff (pow_ne_zero depth two_ne_zero)] at stands
  exact_mod_cast stands

end PlotScript.Binary64

import PlotScript.Proofs.Double

/-!
The order of doubles. Every double but a NaN has a place, which is its exact value in units of the least
positive double, and doubles are ordered as their places are.
-/

namespace PlotScript.Binary64

open Float.Model Float.Model.UnpackedFloat

/-- What doubles are taken apart into: a significand of 53 bits, or a shorter one with the least
exponent. -/
def Fits : UnpackedFloat → Prop
  | .finite _ significand exponent _ =>
    significand < 2 * exponentUnit ∧ leastExponent ≤ exponent ∧ exponent ≤ 971 ∧
      (exponent = leastExponent ∨ exponentUnit ≤ significand)
  | _ => True

theorem finite_bounds {value : Float} {negative : Bool} {significand : Nat} {exponent : Int}
    (finite : ofFloat value = .finite negative significand exponent) :
    significand < 2 * exponentUnit ∧ leastExponent ≤ exponent ∧ exponent ≤ 971 ∧
      (exponent = leastExponent ∨ exponentUnit ≤ significand) := by
  rw [ofFloat] at finite
  split at finite
  · split at finite <;> cases finite
  have fraction : value.toBits.toNat % exponentUnit < exponentUnit := Nat.mod_lt _ (by decide)
  split at finite
  · cases finite
    exact ⟨by omega, by decide, by decide, .inl rfl⟩
  · next subnormal =>
    cases finite
    simp only [leastExponent]
    omega

theorem fits (value : Float) : Fits value.toModel.unpack := by
  have bounds := @finite_bounds value
  rw [ofFloat_eq_ofUnpacked] at bounds
  generalize value.toModel.unpack = taken at bounds
  cases taken with
  | finite => exact bounds rfl
  | _ => trivial

def infinityExponent : Int := 972

/-- The magnitude of infinity is taken for the power of two behind the greatest finite double. -/
@[irreducible] def infinityUnits : Nat := exponentUnit * 2 ^ (infinityExponent - leastExponent).toNat

def size : Binary64 → Nat
  | .nan => 0
  | .infinite _ => infinityUnits
  | .finite _ significand exponent => significand * 2 ^ (exponent - leastExponent).toNat

def hasMinus : Binary64 → Bool
  | .nan => false
  | .infinite negative | .finite negative _ _ => negative

def units (number : Binary64) : Int := if number.hasMinus then -number.size else number.size

theorem infinityUnits_pos : 0 < infinityUnits := by
  unfold infinityUnits
  exact Nat.mul_pos (by decide) (Nat.two_pow_pos _)

theorem size_lt_of_exponent_lt {first second low high : Nat} (less : low < high)
    (short : first < 2 * exponentUnit) (long : exponentUnit ≤ second) :
    first * 2 ^ low < second * 2 ^ high := by
  calc
    first * 2 ^ low < 2 * exponentUnit * 2 ^ low :=
      Nat.mul_lt_mul_of_pos_right short (Nat.two_pow_pos low)
    _ = exponentUnit * 2 ^ (low + 1) := by rw [Nat.pow_succ]; ring
    _ ≤ exponentUnit * 2 ^ high := Nat.mul_le_mul_left _ (Nat.pow_le_pow_right (by decide) less)
    _ ≤ second * 2 ^ high := Nat.mul_le_mul_right _ long

theorem finite_size {sign : Sign} {significand : Nat} {exponent : Int} {positive : 0 < significand}
    (fits : Fits (.finite sign significand exponent positive)) :
    0 < significand * 2 ^ (exponent - leastExponent).toNat ∧
      significand * 2 ^ (exponent - leastExponent).toNat < infinityUnits := by
  obtain ⟨short, least, most, _⟩ := fits
  refine ⟨Nat.mul_pos positive (Nat.two_pow_pos _), ?_⟩
  unfold infinityUnits
  apply size_lt_of_exponent_lt _ short (Nat.le_refl exponentUnit)
  simp only [leastExponent, infinityExponent] at least ⊢
  omega

theorem compare_congr {α β : Type} [LinearOrder α] [LinearOrder β] {a b : α} {c d : β}
    (less : a < b ↔ c < d) (same : a = b ↔ c = d) : compare a b = compare c d := by
  rcases lt_trichotomy a b with below | equal | above
  · rw [compare_lt_iff_lt.mpr below, compare_lt_iff_lt.mpr (less.mp below)]
  · rw [compare_eq_iff_eq.mpr equal, compare_eq_iff_eq.mpr (same.mp equal)]
  · have above' : c > d := by
      apply lt_of_le_of_ne (not_lt.mp fun below => above.asymm (less.mpr below))
      exact fun equal => above.ne (same.mpr equal.symm).symm
    rw [compare_gt_iff_gt.mpr above, compare_gt_iff_gt.mpr above']

theorem compare_cast (first second : Nat) : compare (first : Int) second = compare first second :=
  compare_congr Int.ofNat_lt Int.ofNat_inj

theorem compare_neg (first second : Int) :
    compare (-first) (-second) = (compare first second).swap := by
  rw [← Std.OrientedCmp.eq_swap]
  exact compare_congr Int.neg_lt_neg_iff (by omega)

theorem compare_size {first second : Nat} {low high : Int} {sign sign' : Sign}
    {positive : 0 < first} {positive' : 0 < second} (fits : Fits (.finite sign first low positive))
    (fits' : Fits (.finite sign' second high positive')) :
    compare (first * 2 ^ (low - leastExponent).toNat) (second * 2 ^ (high - leastExponent).toNat) =
      (compare low high).then (compare first second) := by
  obtain ⟨short, least, _, long⟩ := fits
  obtain ⟨short', least', _, long'⟩ := fits'
  rcases lt_trichotomy low high with less | same | greater
  · rw [compare_lt_iff_lt.mpr less]
    apply compare_lt_iff_lt.mpr
    exact size_lt_of_exponent_lt (by omega) short (by omega)
  · subst same
    rw [compare_eq_iff_eq.mpr rfl, Ordering.eq_then]
    have unit : 0 < 2 ^ (low - leastExponent).toNat := Nat.two_pow_pos _
    exact compare_congr (Nat.mul_lt_mul_right unit) (Nat.mul_left_inj (Nat.ne_of_gt unit))
  · rw [compare_gt_iff_gt.mpr greater]
    apply compare_gt_iff_gt.mpr
    exact size_lt_of_exponent_lt (by omega) short' (by omega)

theorem units_infinity (sign : Sign) :
    (ofUnpacked (.infinity sign)).units = sign.apply infinityUnits := by
  cases sign <;> rfl

theorem units_zero (sign : Sign) : (ofUnpacked (.zero sign)).units = sign.apply (0 : Nat) := by
  cases sign <;> rfl

theorem units_finite (sign : Sign) (significand : Nat) (exponent : Int) (positive : 0 < significand) :
    (ofUnpacked (.finite sign significand exponent positive)).units =
      sign.apply (significand * 2 ^ (exponent - leastExponent).toNat : Nat) := by
  cases sign <;> rfl

def side : Sign → Ordering
  | .negative => .lt
  | .positive => .gt

theorem compare_apply_of_gt (sign sign' : Sign) {great small : Nat} (less : small < great) :
    compare (sign.apply great) (sign'.apply small) = side sign := by
  cases sign with
  | negative => exact compare_lt_iff_lt.mpr (by cases sign' <;> simp only [Sign.apply] <;> omega)
  | positive => exact compare_gt_iff_gt.mpr (by cases sign' <;> simp only [Sign.apply] <;> omega)

theorem compare_apply_of_lt (sign sign' : Sign) {small great : Nat} (less : small < great) :
    compare (sign.apply small) (sign'.apply great) = (side sign').swap := by
  cases sign' with
  | negative => exact compare_gt_iff_gt.mpr (by cases sign <;> simp only [Sign.apply] <;> omega)
  | positive => exact compare_lt_iff_lt.mpr (by cases sign <;> simp only [Sign.apply] <;> omega)

theorem compare_units {first second : UnpackedFloat} (number : first ≠ .notANumber)
    (number' : second ≠ .notANumber) (fits : Fits first) (fits' : Fits second) :
    first.compare second = some (compare (ofUnpacked first).units (ofUnpacked second).units) := by
  have beyond := infinityUnits_pos
  -- Zero, finite and infinite sizes lie one above the other, so that between two kinds the sign of the
  -- greater decides; only two finite numbers need their exponents.
  cases first with
  | notANumber => exact (number rfl).elim
  | infinity sign =>
    cases second with
    | notANumber => exact (number' rfl).elim
    | infinity sign' =>
      rw [units_infinity, units_infinity]
      cases sign <;> cases sign' <;> apply congrArg some <;> symm
      · exact compare_eq_iff_eq.mpr rfl
      · exact compare_lt_iff_lt.mpr (by simp only [Sign.apply]; omega)
      · exact compare_gt_iff_gt.mpr (by simp only [Sign.apply]; omega)
      · exact compare_eq_iff_eq.mpr rfl
    | zero sign' =>
      rw [units_infinity, units_zero, compare_apply_of_gt sign sign' beyond]
      cases sign <;> rfl
    | finite sign' significand' exponent' =>
      rw [units_infinity, units_finite, compare_apply_of_gt sign sign' (finite_size fits').2]
      cases sign <;> rfl
  | zero sign =>
    cases second with
    | notANumber => exact (number' rfl).elim
    | infinity sign' =>
      rw [units_infinity, units_zero, compare_apply_of_lt sign sign' beyond]
      cases sign' <;> rfl
    | zero sign' =>
      rw [units_zero, units_zero]
      cases sign <;> cases sign' <;> rfl
    | finite sign' significand' exponent' =>
      rw [units_zero, units_finite, compare_apply_of_lt sign sign' (finite_size fits').1]
      cases sign' <;> rfl
  | finite sign significand exponent =>
    cases second with
    | notANumber => exact (number' rfl).elim
    | infinity sign' =>
      rw [units_infinity, units_finite, compare_apply_of_lt sign sign' (finite_size fits).2]
      cases sign' <;> rfl
    | zero sign' =>
      rw [units_zero, units_finite, compare_apply_of_gt sign sign' (finite_size fits).1]
      cases sign <;> rfl
    | finite sign' significand' exponent' =>
      have sizes := compare_size fits fits'
      have positive := (finite_size fits).1
      have positive' := (finite_size fits').1
      rw [units_finite, units_finite]
      cases sign <;> cases sign' <;> apply congrArg some
      · simp only [Sign.apply]
        rw [compare_neg, compare_cast, sizes]
      · exact (compare_lt_iff_lt.mpr (by simp only [Sign.apply]; omega)).symm
      · exact (compare_gt_iff_gt.mpr (by simp only [Sign.apply]; omega)).symm
      · simp only [Sign.apply]
        rw [compare_cast, sizes]

theorem ofFloat_eq_nan_iff {value : Float} : ofFloat value = .nan ↔ value.isNaN := by
  change _ ↔ value.toModel.unpack.isNaN = true
  rw [ofFloat_eq_ofUnpacked]
  cases value.toModel.unpack <;> simp [ofUnpacked, UnpackedFloat.isNaN]

def IsNumber (value : Float) : Prop := ofFloat value ≠ .nan

theorem isNumber_iff {value : Float} : IsNumber value ↔ value.isNaN = false := by
  rw [IsNumber, ne_eq, ofFloat_eq_nan_iff, Bool.not_eq_true]

theorem neg_eq_self {value : Float} (none : ¬ IsNumber value) : -value = value := by
  apply ofFloat_inj.mp
  rw [ofFloat_neg, not_not.mp none]
  rfl

/-- A double in units of the least positive one. -/
def place (value : Float) : Int := (ofFloat value).units

theorem compare_eq {first second : Float} (number : IsNumber first) (number' : IsNumber second) :
    first.toModel.unpack.compare second.toModel.unpack =
      some (compare (place first) (place second)) := by
  rw [place, place, ofFloat_eq_ofUnpacked, ofFloat_eq_ofUnpacked]
  apply compare_units _ _ (fits first) (fits second)
  · intro none
    rw [IsNumber, ofFloat_eq_ofUnpacked, none] at number
    exact number rfl
  · intro none
    rw [IsNumber, ofFloat_eq_ofUnpacked, none] at number'
    exact number' rfl

theorem compare_eq_none {first second : Float} (missing : ¬ (IsNumber first ∧ IsNumber second)) :
    first.toModel.unpack.compare second.toModel.unpack = none := by
  simp only [IsNumber, ofFloat_eq_ofUnpacked] at missing
  generalize first.toModel.unpack = one at missing ⊢
  generalize second.toModel.unpack = other at missing ⊢
  cases one with
  | notANumber => rfl
  | infinity sign => cases other <;> simp [ofUnpacked, UnpackedFloat.compare] at missing ⊢
  | zero sign => cases other <;> simp [ofUnpacked, UnpackedFloat.compare] at missing ⊢
  | finite sign => cases other <;> simp [ofUnpacked, UnpackedFloat.compare] at missing ⊢

theorem le_iff {first second : Float} :
    first ≤ second ↔ IsNumber first ∧ IsNumber second ∧ place first ≤ place second := by
  have meaning : first ≤ second ↔
      (first.toModel.unpack.compare second.toModel.unpack).any Ordering.isLE = true :=
    decide_eq_true_iff
  rw [meaning, ← and_assoc]
  by_cases numbers : IsNumber first ∧ IsNumber second
  · rw [compare_eq numbers.1 numbers.2, Option.any_some, Std.isLE_compare]
    exact (and_iff_right numbers).symm
  · rw [compare_eq_none numbers]
    simp [numbers]

theorem le_iff_place {first second : Float} (number : IsNumber first) (number' : IsNumber second) :
    first ≤ second ↔ place first ≤ place second := by
  rw [le_iff, and_iff_right number, and_iff_right number']

theorem lt_iff {first second : Float} :
    first < second ↔ IsNumber first ∧ IsNumber second ∧ place first < place second := by
  have meaning : first < second ↔
      (first.toModel.unpack.compare second.toModel.unpack == some .lt) = true :=
    decide_eq_true_iff
  rw [meaning, ← and_assoc, beq_iff_eq]
  by_cases numbers : IsNumber first ∧ IsNumber second
  · rw [compare_eq numbers.1 numbers.2, Option.some_inj, compare_lt_iff_lt]
    exact (and_iff_right numbers).symm
  · rw [compare_eq_none numbers]
    simp [numbers]

theorem lt_iff_place {first second : Float} (number : IsNumber first) (number' : IsNumber second) :
    first < second ↔ place first < place second := by
  rw [lt_iff, and_iff_right number, and_iff_right number']

protected theorem le_refl {value : Float} (number : IsNumber value) : value ≤ value :=
  (le_iff_place number number).mpr (Int.le_refl _)

protected theorem le_trans {first second third : Float} (below : first ≤ second)
    (above : second ≤ third) : first ≤ third := by
  obtain ⟨number, _, least⟩ := le_iff.mp below
  obtain ⟨_, number', most⟩ := le_iff.mp above
  exact le_iff.mpr ⟨number, number', Int.le_trans least most⟩

protected theorem le_of_lt {first second : Float} (less : first < second) : first ≤ second := by
  obtain ⟨number, number', below⟩ := lt_iff.mp less
  exact (le_iff_place number number').mpr (Int.le_of_lt below)

protected theorem not_le_of_lt {first second : Float} (less : first < second) :
    ¬ second ≤ first := by
  obtain ⟨_, _, below⟩ := lt_iff.mp less
  intro above
  exact Int.not_le_of_gt below (le_iff.mp above).2.2

protected theorem lt_or_le {first second : Float} (number : IsNumber first)
    (number' : IsNumber second) : first < second ∨ second ≤ first := by
  rw [lt_iff_place number number', le_iff_place number' number]
  exact Int.lt_or_le _ _

theorem beq_iff {first second : Float} :
    first == second ↔ IsNumber first ∧ IsNumber second ∧ place first = place second := by
  change (first.toModel.unpack.compare second.toModel.unpack == some .eq) = true ↔ _
  rw [← and_assoc, beq_iff_eq]
  by_cases numbers : IsNumber first ∧ IsNumber second
  · rw [compare_eq numbers.1 numbers.2, Option.some_inj, compare_eq_iff_eq]
    exact (and_iff_right numbers).symm
  · rw [compare_eq_none numbers]
    simp [numbers]

theorem units_negate (number : Binary64) : number.negate.units = -number.units := by
  cases number with
  | nan => rfl
  | infinite negative => cases negative <;> simp [negate, units, hasMinus, size]
  | finite negative => cases negative <;> simp [negate, units, hasMinus, size]

theorem isNumber_neg {value : Float} : IsNumber (-value) ↔ IsNumber value := by
  rw [IsNumber, IsNumber, ofFloat_neg]
  cases ofFloat value <;> simp [negate]

theorem place_neg (value : Float) : place (-value) = -place value := by
  rw [place, place, ofFloat_neg, units_negate]

theorem place_zero : place 0 = 0 := rfl

theorem isNumber_zero : IsNumber 0 := isNumber_iff.mpr rfl

theorem isNumber_of_place {value : Float} (apart : place value ≠ 0) : IsNumber value := by
  intro none
  rw [place, none] at apart
  exact apart rfl

theorem pos_iff {value : Float} : 0 < value ↔ 0 < place value := by
  rw [lt_iff, place_zero]
  exact ⟨fun less => less.2.2, fun less => ⟨isNumber_zero, isNumber_of_place less.ne', less⟩⟩

theorem nonneg_iff {value : Float} : 0 ≤ value ↔ IsNumber value ∧ 0 ≤ place value := by
  rw [le_iff, place_zero, and_iff_right isNumber_zero]

theorem beq_zero_iff {value : Float} : value == 0 ↔ IsNumber value ∧ place value = 0 := by
  rw [beq_iff, place_zero, and_iff_right isNumber_zero]

theorem eq_of_compare_eq {first second : UnpackedFloat} (same : first.compare second = some .eq)
    (minus : (ofUnpacked first).hasMinus = (ofUnpacked second).hasMinus) : first = second := by
  cases first with
  | notANumber => cases same
  | infinity sign =>
    cases second with
    | infinity sign' => exact congrArg _ (isNegative_inj.mp minus)
    | _ => cases sign <;> cases same
  | zero sign =>
    cases second with
    | zero sign' => exact congrArg _ (isNegative_inj.mp minus)
    | notANumber => cases same
    | infinity sign' => cases sign' <;> cases same
    | finite sign' => cases sign' <;> cases same
  | finite sign significand exponent positive =>
    cases second with
    | notANumber | zero _ => cases sign <;> cases same
    | infinity sign' => cases sign <;> cases sign' <;> cases same
    | finite sign' significand' exponent' positive' =>
      have signs : sign = sign' := isNegative_inj.mp minus
      subst signs
      have parts : (compare exponent exponent').then (compare significand significand') = .eq := by
        cases sign with
        | positive => exact Option.some_inj.mp same
        | negative => exact Ordering.swap_eq_eq.mp (Option.some_inj.mp same)
      obtain ⟨exponents, significands⟩ := Ordering.then_eq_eq.mp parts
      cases compare_eq_iff_eq.mp exponents
      cases compare_eq_iff_eq.mp significands
      rfl

theorem eq_of_beq {first second : Float} (same : first == second)
    (minus : (ofFloat first).hasMinus = (ofFloat second).hasMinus) : first = second := by
  have compared : (first.toModel.unpack.compare second.toModel.unpack == some .eq) = true := same
  rw [ofFloat_eq_ofUnpacked, ofFloat_eq_ofUnpacked] at minus
  apply ofFloat_inj.mp
  rw [ofFloat_eq_ofUnpacked, ofFloat_eq_ofUnpacked,
    eq_of_compare_eq (beq_iff_eq.mp compared) minus]

end PlotScript.Binary64

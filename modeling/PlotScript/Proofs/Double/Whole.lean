import PlotScript.Proofs.Double
import PlotScript.Proofs.Quotient

namespace PlotScript.Binary64

open Float.Model Float.Model.UnpackedFloat

def ofMagnitudeBits (bits : Nat) : Binary64 :=
  if bits < exponentUnit then .finite false bits leastExponent
  else .finite false (bits % exponentUnit + exponentUnit) ((bits / exponentUnit : Nat) - 1075)

theorem toBits_ofBits {bits : Nat} (small : bits < infinityBits) :
    (Float.ofBits bits.toUInt64).toBits.toNat = bits := by
  let vector : BitVec Format.binary64.numBits := bits.toUInt64.toBitVec
  have value : vector.toNat = bits := by
    apply Nat.mod_eq_of_lt
    exact Nat.lt_trans small (by decide)
  have ordinary : unpackExponent vector ≠ -1#_ := by
    intro special
    have biased : bits / exponentUnit % 2048 = 2047 := by
      rw [← value, ← toNat_unpackExponent, special]
      rfl
    simp only [infinityBits, exponentUnit] at small biased
    omega
  have packed : UnpackedFloat.pack Format.binary64 (UnpackedFloat.unpack Format.binary64 vector) =
      vector := by
    rw [UnpackedFloat.pack_unpack vector (by decide), if_neg]
    rw [isNaNBits, decide_eq_true_eq]
    exact fun special => ordinary special.1
  change (UnpackedFloat.pack Format.binary64
    (UnpackedFloat.unpack Format.binary64 vector)).toNat = bits
  rw [packed, value]

theorem ofFloat_ofBits {negative : Bool} {bits : Nat} (small : bits < infinityBits) :
    ofFloat (ofBits negative bits) =
      if negative then (ofMagnitudeBits bits).negate else ofMagnitudeBits bits := by
  have plain : ofFloat (Float.ofBits bits.toUInt64) = ofMagnitudeBits bits := by
    have unsigned : ¬ signUnit ≤ bits := by
      simp only [signUnit, infinityBits] at small ⊢
      omega
    have biased : bits / exponentUnit % 2048 = bits / exponentUnit := by
      simp only [exponentUnit, infinityBits] at small ⊢
      omega
    have ordinary : bits / exponentUnit ≠ 2047 := by
      simp only [exponentUnit, infinityBits] at small ⊢
      omega
    have least : bits / exponentUnit = 0 ↔ bits < exponentUnit := Nat.div_eq_zero_iff_lt (by decide)
    rw [ofFloat, toBits_ofBits small, ofMagnitudeBits]
    simp only [biased, ordinary, least, unsigned, if_false, decide_false]
    split
    · next low => rw [Nat.mod_eq_of_lt low]
    · rfl
  cases negative with
  | false => exact plain
  | true =>
    rw [ofBits, signed, if_pos rfl, ofFloat_neg, plain]
    rfl

def IsFinite (value : Float) : Prop :=
  ∃ negative significand exponent, ofFloat value = .finite negative significand exponent

theorem isFinite_iff {value : Float} : value.isFinite ↔ IsFinite value := by
  change value.toModel.unpack.isFinite = true ↔ _
  rw [IsFinite, ofFloat_eq_ofUnpacked]
  cases value.toModel.unpack <;> simp [ofUnpacked, UnpackedFloat.isFinite]

theorem isFinite_neg (value : Float) : (-value).isFinite = value.isFinite := by
  change (-value).toModel.unpack.isFinite = value.toModel.unpack.isFinite
  rw [unpack_neg]
  cases value.toModel.unpack <;> rfl

theorem isFinite_ofBits {negative : Bool} {bits : Nat} (small : bits < infinityBits) :
    IsFinite (ofBits negative bits) := by
  have some : ∃ significand exponent, ofMagnitudeBits bits = .finite false significand exponent := by
    rw [ofMagnitudeBits]
    split <;> exact ⟨_, _, rfl⟩
  obtain ⟨significand, exponent, same⟩ := some
  rw [IsFinite, ofFloat_ofBits small, same]
  cases negative with
  | false => exact ⟨false, significand, exponent, rfl⟩
  | true => exact ⟨true, significand, exponent, rfl⟩

def roundedBits (num den : Nat) : Nat :=
  let exponent := exponentOf num den
  let scaled := Rounding.scale 2 num den exponent
  (exponent - leastExponent).toNat * exponentUnit + Rounding.nearest scaled.1 scaled.2

theorem nearestBits?_eq_some_iff {num den bits : Nat} (filled : num ≠ 0) :
    nearestBits? num den = some bits ↔ roundedBits num den = bits ∧ bits < infinityBits := by
  have unfolded : nearestBits? num den =
      if roundedBits num den < infinityBits then some (roundedBits num den) else none := by
    rw [nearestBits?, if_neg filled]
    rfl
  rw [unfolded, Option.ite_none_right_eq_some]
  constructor
  · rintro ⟨small, same⟩
    cases same
    exact ⟨rfl, small⟩
  · rintro ⟨rfl, small⟩
    exact ⟨small, rfl⟩

theorem nearestBits?_lt {num den bits : Nat} (found : nearestBits? num den = some bits) :
    bits < infinityBits := by
  by_cases zero : num = 0
  · rw [nearestBits?, if_pos zero] at found
    cases found
    decide
  · exact ((nearestBits?_eq_some_iff zero).mp found).2

theorem isFinite_ofInt? {number : Int} {value : Float} (converted : ofInt? number = some value) :
    IsFinite value := by
  obtain ⟨bits, found, rfl⟩ := Option.map_eq_some_iff.mp converted
  exact isFinite_ofBits (nearestBits?_lt found)

theorem isFinite_ofQuotient? {num den : Int} {value : Float}
    (converted : ofQuotient? num den = some value) : IsFinite value := by
  obtain ⟨bits, found, rfl⟩ := Option.map_eq_some_iff.mp converted
  exact isFinite_ofBits (nearestBits?_lt found)

theorem ofMagnitudeBits_normal {shift significand : Nat} (long : exponentUnit ≤ significand)
    (short : significand < 2 * exponentUnit) :
    ofMagnitudeBits (shift * exponentUnit + significand) =
      .finite false significand (shift + leastExponent) := by
  have positive : 0 < exponentUnit := by decide
  have rest : significand % exponentUnit = significand - exponentUnit := by
    rw [Nat.mod_eq_sub_mod long]
    apply Nat.mod_eq_of_lt
    omega
  have one : significand / exponentUnit = 1 := Nat.div_eq_of_lt_le (by omega) (by omega)
  rw [ofMagnitudeBits, if_neg (by omega), Nat.add_comm (shift * exponentUnit),
    Nat.add_mul_mod_self_right, Nat.add_mul_div_right _ _ positive, rest, one]
  congr 1
  · omega
  · simp only [leastExponent]
    omega

theorem scale_whole {number : Nat} (positive : 0 < number) :
    exponentUnit * (Rounding.scale 2 number 1 (number.log2 - 52)).2 ≤
      (Rounding.scale 2 number 1 (number.log2 - 52)).1 := by
  have filled : 2 ^ number.log2 ≤ number := Nat.log2_self_le (Nat.ne_of_gt positive)
  rw [Rounding.scale]
  split
  · calc
      2 ^ 52 * (1 * 2 ^ ((number.log2 : Int) - 52).toNat) = 2 ^ number.log2 := by
        rw [Nat.one_mul, ← Nat.pow_add]
        congr 1
        omega
      _ ≤ number := filled
  · calc
      2 ^ 52 * 1 = 2 ^ number.log2 * 2 ^ (-((number.log2 : Int) - 52)).toNat := by
        rw [Nat.mul_one, ← Nat.pow_add]
        congr 1
        omega
      _ ≤ number * 2 ^ (-((number.log2 : Int) - 52)).toNat := Nat.mul_le_mul_right _ filled

theorem exponentOf_whole {number : Nat} (positive : 0 < number) :
    exponentOf number 1 = number.log2 - 52 := by
  have one : Nat.log2 1 = 0 := by decide
  rw [exponentOf, one, Int.natCast_zero, Int.sub_zero]
  simp only [leastExponent, if_neg (Nat.not_lt.mpr (scale_whole positive))]
  omega

theorem nearest_one (number : Nat) : Rounding.nearest number 1 = number := by
  simp [Rounding.nearest, Nat.mod_one]

theorem div_le_nearest (num den : Nat) : num / den ≤ Rounding.nearest num den := by
  rw [Rounding.nearest]
  split
  · exact Nat.le_refl _
  · split <;> omega

theorem ofInt?_natCast (number : Nat) :
    ofInt? number = (nearestBits? number 1).map (ofBits false) := by
  have plain : decide ((number : Int) < 0) = false := by simp
  rw [ofInt?, Int.natAbs_natCast, plain]

theorem ofInt?_exact {number : Nat} (positive : 0 < number) (small : number < 2 ^ 53) :
    ∃ value, ofInt? number = some value ∧
      ofFloat value = .finite false (number * 2 ^ (52 - number.log2)) (number.log2 - 52) := by
  have short : number.log2 < 53 := (Nat.log2_lt (Nat.ne_of_gt positive)).mpr small
  have scaled : Rounding.scale 2 number 1 (number.log2 - 52) = (number * 2 ^ (52 - number.log2), 1) := by
    rw [Rounding.scale]
    split
    · next above =>
      have full : number.log2 = 52 := by omega
      rw [full]
      simp
    · have count : (-((number.log2 : Int) - 52)).toNat = 52 - number.log2 := by omega
      rw [count]
      rfl
  have long : exponentUnit ≤ number * 2 ^ (52 - number.log2) := by
    have full := scale_whole positive
    rw [scaled] at full
    exact full
  have bounded : number * 2 ^ (52 - number.log2) < 2 * exponentUnit := by
    calc
      number * 2 ^ (52 - number.log2) < 2 ^ (number.log2 + 1) * 2 ^ (52 - number.log2) :=
        Nat.mul_lt_mul_of_pos_right Nat.lt_log2_self (Nat.two_pow_pos _)
      _ = 2 * 2 ^ 52 := by
        rw [← Nat.pow_add, ← Nat.pow_succ']
        congr 1
        omega
  generalize number * 2 ^ (52 - number.log2) = significand at scaled long bounded
  have shift : ((number.log2 : Int) - 52 - leastExponent).toNat = number.log2 + 1022 := by
    simp only [leastExponent]
    omega
  have inRange : (number.log2 + 1022) * exponentUnit + significand < infinityBits := by
    simp only [exponentUnit, infinityBits] at bounded ⊢
    omega
  have magnitude : nearestBits? number 1 = some ((number.log2 + 1022) * exponentUnit + significand) := by
    apply (nearestBits?_eq_some_iff (Nat.ne_of_gt positive)).mpr
    refine ⟨?_, inRange⟩
    simp only [roundedBits, exponentOf_whole positive, scaled, shift, nearest_one]
  refine ⟨ofBits false ((number.log2 + 1022) * exponentUnit + significand), ?_, ?_⟩
  · rw [ofInt?_natCast, magnitude]
    rfl
  · have lowest : ((number.log2 + 1022 : Nat) : Int) + leastExponent = number.log2 - 52 := by
      simp only [leastExponent]
      omega
    rw [ofFloat_ofBits inRange, if_neg (by decide), ofMagnitudeBits_normal long bounded, lowest]

theorem ofInt?_long {number : Nat} (large : 2 ^ 53 ≤ number) {value : Float}
    (converted : ofInt? number = some value) :
    ∃ significand exponent, ofFloat value = .finite false significand exponent ∧ 0 < exponent := by
  have positive : 0 < number := Nat.lt_of_lt_of_le (by decide) large
  have above : 53 ≤ number.log2 := (Nat.le_log2 (Nat.ne_of_gt positive)).mpr large
  rw [ofInt?_natCast] at converted
  obtain ⟨bits, found, rfl⟩ := Option.map_eq_some_iff.mp converted
  obtain ⟨rounded, inRange⟩ := (nearestBits?_eq_some_iff (Nat.ne_of_gt positive)).mp found
  have scaled : Rounding.scale 2 number 1 (number.log2 - 52) = (number, 2 ^ (number.log2 - 52)) := by
    have count : ((number.log2 : Int) - 52).toNat = number.log2 - 52 := by omega
    rw [Rounding.scale, if_pos (by omega), count, Nat.one_mul]
    rfl
  have long : exponentUnit ≤ Rounding.nearest number (2 ^ (number.log2 - 52)) := by
    apply Nat.le_trans _ (div_le_nearest _ _)
    apply (Nat.le_div_iff_mul_le (Nat.two_pow_pos _)).mpr
    have full := scale_whole positive
    rw [scaled] at full
    exact full
  have high : 1076 * exponentUnit ≤ bits := by
    simp only [roundedBits, exponentOf_whole positive, scaled] at rounded
    have shift : 1075 ≤ ((number.log2 : Int) - 52 - leastExponent).toNat := by
      simp only [leastExponent]
      omega
    calc
      1076 * exponentUnit = 1075 * exponentUnit + exponentUnit := by decide
      _ ≤ ((number.log2 : Int) - 52 - leastExponent).toNat * exponentUnit +
          Rounding.nearest number (2 ^ (number.log2 - 52)) :=
        Nat.add_le_add (Nat.mul_le_mul_right _ shift) long
      _ = bits := rounded
  have quotient : 1076 ≤ bits / exponentUnit := (Nat.le_div_iff_mul_le (by decide)).mpr high
  have normal : ¬ bits < exponentUnit := by
    simp only [exponentUnit] at high ⊢
    omega
  refine ⟨bits % exponentUnit + exponentUnit, (bits / exponentUnit : Nat) - 1075, ?_, by omega⟩
  rw [ofFloat_ofBits inRange, if_neg (by decide), ofMagnitudeBits, if_neg normal]

end PlotScript.Binary64

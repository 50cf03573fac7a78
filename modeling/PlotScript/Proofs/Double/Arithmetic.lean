import PlotScript.Proofs.Double.Order
import PlotScript.Proofs.Double.Whole

namespace PlotScript.Binary64

open Float.Model Float.Model.UnpackedFloat

theorem isNumber_iff_unpack {value : Float} : IsNumber value ↔ value.toModel.unpack ≠ .notANumber := by
  rw [IsNumber, ofFloat_eq_ofUnpacked]
  cases value.toModel.unpack <;> simp [ofUnpacked]

theorem IsFinite.isNumber {value : Float} (finite : IsFinite value) : IsNumber value := by
  obtain ⟨negative, significand, exponent, taken⟩ := finite
  rw [IsNumber, taken]
  simp

theorem IsFinite.ne_infinity {value : Float} (finite : IsFinite value) (sign : Sign) :
    value.toModel.unpack ≠ .infinity sign := by
  obtain ⟨negative, significand, exponent, taken⟩ := finite
  intro infinite
  rw [ofFloat_eq_ofUnpacked, infinite] at taken
  cases taken

theorem unpack_ne_notANumber {bits : BitVec Format.binary64.numBits}
    (ordinary : unpackExponent bits ≠ -1#_) :
    UnpackedFloat.unpack Format.binary64 bits ≠ .notANumber := by
  simp only [UnpackedFloat.unpack, if_neg ordinary]
  split
  · split <;> exact UnpackedFloat.noConfusion
  · exact UnpackedFloat.noConfusion

theorem unpack_packedInfinity (sign : Sign) :
    UnpackedFloat.unpack Format.binary64 (packedInfinity Format.binary64 sign) = .infinity sign := by
  simp [UnpackedFloat.unpack, packedInfinity]

theorem isNumber_pack {unpacked : UnpackedFloat} (number : unpacked ≠ .notANumber) :
    (Float.Model.pack unpacked).unpack ≠ .notANumber := by
  change UnpackedFloat.unpack Format.binary64 (UnpackedFloat.pack Format.binary64 unpacked) ≠ _
  cases unpacked with
  | notANumber => exact absurd rfl number
  | infinity sign =>
    rw [UnpackedFloat.pack, unpack_packedInfinity]
    exact UnpackedFloat.noConfusion
  | zero sign =>
    rw [UnpackedFloat.pack, unpack_packedZero]
    exact UnpackedFloat.noConfusion
  | finite sign significand exponent positive =>
    simp only [UnpackedFloat.pack]
    split
    · rw [unpack_packedInfinity]
      exact UnpackedFloat.noConfusion
    · next small =>
      split
      · apply unpack_ne_notANumber
        rw [unpackExponent_packComponents]
        intro special
        have biased := congrArg BitVec.toNat special
        rw [BitVec.toNat_ofNat, Nat.mod_eq_of_lt (by omega)] at biased
        rw [biased] at small
        exact small (by decide)
      · apply unpack_ne_notANumber
        rw [unpackExponent_packComponents]
        decide

theorem round_ne_notANumber (format : Format) (sign : Sign) (significand : Nat) (exponent : Int)
    (accuracy : Accuracy) :
    roundWithAccuracy format sign significand exponent accuracy ≠ .notANumber := by
  simp only [roundWithAccuracy]
  split <;> exact UnpackedFloat.noConfusion

theorem normalize_ne_notANumber (format : Format) (significand exponent : Int) (sign : Sign) :
    UnpackedFloat.normalize format significand exponent sign ≠ .notANumber := by
  rw [UnpackedFloat.normalize.eq_def]
  split
  · exact round_ne_notANumber _ _ _ _ _
  · exact UnpackedFloat.noConfusion
  · exact round_ne_notANumber _ _ _ _ _

theorem isNumber_mul {first second : Float} (finite : IsFinite first) (finite' : IsFinite second) :
    IsNumber (first * second) := by
  have number := isNumber_iff_unpack.mp finite.isNumber
  have number' := isNumber_iff_unpack.mp finite'.isNumber
  have bounded := finite.ne_infinity
  have bounded' := finite'.ne_infinity
  apply isNumber_iff_unpack.mpr
  apply isNumber_pack
  generalize first.toModel.unpack = one at number bounded
  generalize second.toModel.unpack = other at number' bounded'
  cases one with
  | notANumber => exact absurd rfl number
  | infinity sign => exact absurd rfl (bounded sign)
  | zero sign =>
    cases other with
    | notANumber => exact absurd rfl number'
    | infinity sign' => exact absurd rfl (bounded' sign')
    | _ => exact UnpackedFloat.noConfusion
  | finite sign =>
    cases other with
    | notANumber => exact absurd rfl number'
    | infinity sign' => exact absurd rfl (bounded' sign')
    | zero sign' => exact UnpackedFloat.noConfusion
    | finite sign' => exact round_ne_notANumber _ _ _ _ _

theorem isNumber_add {first second : Float} (finite : IsFinite first) (number : IsNumber second) :
    IsNumber (first + second) := by
  have known := isNumber_iff_unpack.mp finite.isNumber
  have known' := isNumber_iff_unpack.mp number
  have bounded := finite.ne_infinity
  apply isNumber_iff_unpack.mpr
  apply isNumber_pack
  generalize first.toModel.unpack = one at known bounded
  generalize second.toModel.unpack = other at known'
  cases one with
  | notANumber => exact absurd rfl known
  | infinity sign => exact absurd rfl (bounded sign)
  | zero sign =>
    cases other with
    | notANumber => exact absurd rfl known'
    | zero sign' => cases sign <;> cases sign' <;> exact UnpackedFloat.noConfusion
    | _ => exact UnpackedFloat.noConfusion
  | finite sign =>
    cases other with
    | notANumber => exact absurd rfl known'
    | finite sign' => exact normalize_ne_notANumber _ _ _ _
    | _ => exact UnpackedFloat.noConfusion

theorem zero_sub (value : Float) :
    0 - value = -value ∨ 0 - value = 0 ∧ IsNumber value ∧ place value = 0 := by
  have zero : (0 : Float).toModel.unpack = .zero .positive := by
    have plain : ofFloat 0 = .finite false 0 leastExponent := rfl
    rw [ofFloat_eq_ofUnpacked] at plain
    exact ofUnpacked_inj.mp plain
  have difference : 0 - value = ⟨Float.Model.pack
      (UnpackedFloat.sub Format.binary64 (.zero .positive) value.toModel.unpack)⟩ := by
    rw [← zero]
    rfl
  have negation : -value = ⟨Float.Model.pack value.toModel.unpack.neg⟩ := rfl
  rw [difference, negation, IsNumber, place, ofFloat_eq_ofUnpacked value]
  cases value.toModel.unpack with
  | zero sign =>
    right
    refine ⟨?_, by simp [ofUnpacked], ?_⟩
    · cases sign <;> rfl
    · cases sign <;> rfl
  | _ => exact .inl rfl

theorem isNumber_zero_sub {value : Float} : IsNumber (0 - value) ↔ IsNumber value := by
  rcases zero_sub value with same | ⟨same, number, _⟩
  · rw [same, isNumber_neg]
  · rw [same, iff_true_intro number, iff_true_intro isNumber_zero]

theorem place_zero_sub (value : Float) : place (0 - value) = -place value := by
  rcases zero_sub value with same | ⟨same, _, none⟩
  · rw [same, place_neg]
  · rw [same, none, place_zero]
    rfl

theorem le_zero_sub {bound value : Float} : bound ≤ 0 - value ↔ bound ≤ -value := by
  rw [le_iff, le_iff, isNumber_zero_sub, isNumber_neg, place_zero_sub, place_neg]

theorem zero_sub_le {bound value : Float} : 0 - value ≤ bound ↔ -value ≤ bound := by
  rw [le_iff, le_iff, isNumber_zero_sub, isNumber_neg, place_zero_sub, place_neg]

end PlotScript.Binary64

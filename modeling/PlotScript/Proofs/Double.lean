import Mathlib
import PlotScript.Number.Binary64

/-!
Doubles taken apart. The bits of a double are read here as its arithmetic reads them, so that what
arithmetic does to the parts is known of the double: a change of sign changes the sign and nothing
else. No part of the library alone has the lemmas on packed floats, so all of it is imported.
-/

namespace PlotScript.Binary64

open Float.Model Float.Model.UnpackedFloat

def isNegative : Sign → Bool
  | .negative => true
  | .positive => false

def ofUnpacked : UnpackedFloat → Binary64
  | .notANumber => .nan
  | .infinity sign => .infinite (isNegative sign)
  | .zero sign => .finite (isNegative sign) 0 leastExponent
  | .finite sign significand exponent _ => .finite (isNegative sign) significand exponent

theorem toNat_unpackExponent (bits : BitVec Format.binary64.numBits) :
    (unpackExponent bits).toNat = bits.toNat / exponentUnit % 2048 := by
  rw [unpackExponent_def, BitVec.extractLsb'_toNat, Nat.shiftRight_eq_div_pow]
  rfl

theorem toNat_unpackMantissa (bits : BitVec Format.binary64.numBits) :
    (unpackMantissa bits).toNat = bits.toNat % exponentUnit := by
  rw [unpackMantissa_def, BitVec.extractLsb'_toNat, Nat.shiftRight_zero]
  rfl

theorem isNegative_unpackSign (bits : BitVec Format.binary64.numBits) :
    isNegative (Sign.ofBitVec (unpackSign bits)) = decide (signUnit ≤ bits.toNat) := by
  have small : bits.toNat < 2 ^ 64 := bits.isLt
  have sign : (unpackSign bits).toNat = bits.toNat / signUnit := by
    rw [unpackSign_def, BitVec.extractLsb'_toNat, Nat.shiftRight_eq_div_pow]
    apply Nat.mod_eq_of_lt
    change bits.toNat / 2 ^ 63 < 2
    omega
  rw [Sign.ofBitVec]
  split
  · next positive =>
    rw [positive] at sign
    have below : ¬ signUnit ≤ bits.toNat := by
      simp only [signUnit] at sign ⊢
      simp at sign
      omega
    simp [isNegative, below]
  · next negative =>
    have above : signUnit ≤ bits.toNat := by
      have one : (unpackSign bits).toNat ≠ 0 := fun zero => negative (BitVec.eq_of_toNat_eq zero)
      simp only [signUnit] at sign ⊢
      omega
    simp [isNegative, above]

theorem eq_ofNat_iff {width number : Nat} {bits : BitVec width} (small : number < 2 ^ width) :
    bits = BitVec.ofNat width number ↔ bits.toNat = number := by
  rw [← BitVec.toNat_inj, BitVec.toNat_ofNat, Nat.mod_eq_of_lt small]

theorem toNat_leadingOne (fraction : BitVec 52) :
    (1#1 ++ fraction).toNat = fraction.toNat + exponentUnit := by
  rw [BitVec.toNat_append, ← Nat.shiftLeft_add_eq_or_of_lt fraction.isLt, Nat.shiftLeft_eq,
    Nat.add_comm]
  rfl

theorem ofFloat_eq_ofUnpacked (value : Float) :
    ofFloat value = ofUnpacked value.toModel.unpack := by
  let bits : BitVec Format.binary64.numBits := value.toModel.toBits.toBitVec
  have exponent := toNat_unpackExponent bits
  have fraction := toNat_unpackMantissa bits
  have sign := isNegative_unpackSign bits
  have special : unpackExponent bits = -1#_ ↔ bits.toNat / exponentUnit % 2048 = 2047 := by
    rw [← exponent]
    exact eq_ofNat_iff (by decide)
  have least : unpackExponent bits = 0#_ ↔ bits.toNat / exponentUnit % 2048 = 0 := by
    rw [← exponent]
    exact eq_ofNat_iff (by decide)
  have whole : unpackMantissa bits = 0#_ ↔ bits.toNat % exponentUnit = 0 := by
    rw [← fraction]
    exact eq_ofNat_iff (by decide)
  have bias : (Format.binary64.exponentBias : Int) = 1023 := rfl
  have leading : (1#1 ++ unpackMantissa bits).toNat = (unpackMantissa bits).toNat + exponentUnit :=
    toNat_leadingOne (unpackMantissa bits)
  change ofFloat value = ofUnpacked (UnpackedFloat.unpack Format.binary64 bits)
  rw [ofFloat, show value.toBits.toNat = bits.toNat from rfl]
  simp only [UnpackedFloat.unpack, special, least, whole]
  split
  · split
    · rw [ofUnpacked, sign]
    · rfl
  · split
    · next zero =>
      split
      · next none => rw [ofUnpacked, sign, none]
      · rw [ofUnpacked, sign, fraction, exponent, zero, bias]
        rfl
    · rw [ofUnpacked, sign, leading, fraction, exponent, bias]
      simp only [Nat.cast_ofNat]
      rfl

theorem pack_unpack (model : Float.Model) : pack model.unpack = model := by
  obtain ⟨bits, valid⟩ := model
  have same := pack_unpack_of_valid valid
  simp only [Float.Model.pack, Float.Model.unpack, same]

theorem isNegative_inj {first second : Sign} :
    isNegative first = isNegative second ↔ first = second := by
  cases first <;> cases second <;> simp [isNegative]

theorem ofUnpacked_inj {first second : UnpackedFloat} :
    ofUnpacked first = ofUnpacked second ↔ first = second := by
  constructor
  · intro same
    cases first <;> cases second <;> simp_all [ofUnpacked, isNegative_inj]
    all_goals omega
  · rintro rfl
    rfl

theorem ofFloat_inj {first second : Float} : ofFloat first = ofFloat second ↔ first = second := by
  constructor
  · intro same
    rw [ofFloat_eq_ofUnpacked, ofFloat_eq_ofUnpacked, ofUnpacked_inj] at same
    have models : first.toModel = second.toModel := by
      rw [← pack_unpack first.toModel, same, pack_unpack]
    cases first
    cases second
    exact congrArg Float.ofModel models
  · rintro rfl
    rfl

def withSign (sign : Sign) : UnpackedFloat → UnpackedFloat
  | .notANumber => .notANumber
  | .infinity _ => .infinity sign
  | .zero _ => .zero sign
  | .finite _ significand exponent positive => .finite sign significand exponent positive

theorem unpack_packComponents (sign sign' : Sign) (exponent : BitVec Format.binary64.exponentBits)
    (mantissa : BitVec Format.binary64.mantissaBitsWithoutImplicit) :
    UnpackedFloat.unpack Format.binary64 (packComponents Format.binary64 sign exponent mantissa) =
      withSign sign (UnpackedFloat.unpack Format.binary64
        (packComponents Format.binary64 sign' exponent mantissa)) := by
  simp only [UnpackedFloat.unpack, unpackExponent_packComponents, unpackMantissa_packComponents,
    unpackSign_packComponents, Sign.ofBitVec_toBitVec]
  split <;> split <;> (try split) <;> rfl

theorem unpack_pack_withSign (sign : Sign) (unpacked : UnpackedFloat) :
    (pack (withSign sign unpacked)).unpack = withSign sign (pack unpacked).unpack := by
  change UnpackedFloat.unpack Format.binary64 (UnpackedFloat.pack Format.binary64 _) =
    withSign sign (UnpackedFloat.unpack Format.binary64 (UnpackedFloat.pack Format.binary64 _))
  cases unpacked with
  | notANumber =>
    -- There is one NaN, whose bits have a sign that means nothing.
    have none : UnpackedFloat.unpack Format.binary64 (packedNaN Format.binary64) = .notANumber := by
      simp [UnpackedFloat.unpack, packedNaN]
    simp only [withSign, UnpackedFloat.pack, none]
  | infinity sign' => exact unpack_packComponents sign sign' _ _
  | zero sign' => exact unpack_packComponents sign sign' _ _
  | finite sign' significand exponent positive =>
    simp only [withSign, UnpackedFloat.pack]
    split
    · exact unpack_packComponents sign sign' _ _
    · split <;> exact unpack_packComponents sign sign' _ _

/-- The sign of a number; any sign would do for a NaN. -/
def signOf : UnpackedFloat → Sign
  | .notANumber => .positive
  | .infinity sign | .zero sign | .finite sign _ _ _ => sign

theorem withSign_signOf (unpacked : UnpackedFloat) : withSign (signOf unpacked) unpacked = unpacked := by
  cases unpacked <;> rfl

theorem neg_eq_withSign (unpacked : UnpackedFloat) :
    unpacked.neg = withSign (-signOf unpacked) unpacked := by
  cases unpacked <;> rfl

theorem abs_eq_withSign (unpacked : UnpackedFloat) : unpacked.abs = withSign .positive unpacked := by
  cases unpacked <;> rfl

theorem unpack_neg (value : Float) : (-value).toModel.unpack = value.toModel.unpack.neg := by
  change (pack value.toModel.unpack.neg).unpack = _
  rw [neg_eq_withSign, unpack_pack_withSign, pack_unpack]

theorem unpack_abs (value : Float) : value.abs.toModel.unpack = value.toModel.unpack.abs := by
  change (pack value.toModel.unpack.abs).unpack = _
  rw [abs_eq_withSign, unpack_pack_withSign, pack_unpack]

def negate : Binary64 → Binary64
  | .nan => .nan
  | .infinite negative => .infinite (!negative)
  | .finite negative significand exponent => .finite (!negative) significand exponent

def magnitude : Binary64 → Binary64
  | .nan => .nan
  | .infinite _ => .infinite false
  | .finite _ significand exponent => .finite false significand exponent

theorem ofFloat_neg (value : Float) : ofFloat (-value) = (ofFloat value).negate := by
  rw [ofFloat_eq_ofUnpacked, ofFloat_eq_ofUnpacked, unpack_neg]
  cases value.toModel.unpack with
  | notANumber => rfl
  | infinity sign => cases sign <;> rfl
  | zero sign => cases sign <;> rfl
  | finite sign => cases sign <;> rfl

theorem ofFloat_abs (value : Float) : ofFloat value.abs = (ofFloat value).magnitude := by
  rw [ofFloat_eq_ofUnpacked, ofFloat_eq_ofUnpacked, unpack_abs]
  cases value.toModel.unpack <;> rfl

theorem neg_neg (value : Float) : - -value = value := by
  apply ofFloat_inj.mp
  rw [ofFloat_neg, ofFloat_neg]
  cases ofFloat value <;> simp [negate]

theorem abs_neg (value : Float) : (-value).abs = value.abs := by
  apply ofFloat_inj.mp
  rw [ofFloat_abs, ofFloat_abs, ofFloat_neg]
  cases ofFloat value <;> rfl

end PlotScript.Binary64

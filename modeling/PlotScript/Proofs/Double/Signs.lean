import PlotScript.Proofs.Double.Order

namespace PlotScript.Binary64

open Float.Model Float.Model.UnpackedFloat

theorem neg_withSign (sign : Sign) (unpacked : UnpackedFloat) :
    (withSign sign unpacked).neg = withSign (-sign) unpacked := by
  cases unpacked <;> rfl

theorem withSign_withSign (sign sign' : Sign) (unpacked : UnpackedFloat) :
    withSign sign (withSign sign' unpacked) = withSign sign unpacked := by
  cases unpacked <;> rfl

theorem apply_neg (sign : Sign) (number : Int) : (-sign).apply number = -sign.apply number := by
  cases sign with
  | negative => exact (Int.neg_neg number).symm
  | positive => rfl

theorem apply_add (sign : Sign) (first second : Nat) :
    sign.apply first + sign.apply second = sign.apply (first + second : Nat) := by
  cases sign <;> simp only [Sign.apply] <;> omega

theorem roundWithAccuracy_withSign (sign sign' : Sign) (significand : Nat) (exponent : Int)
    (accuracy : Accuracy) :
    roundWithAccuracy Format.binary64 sign significand exponent accuracy =
      withSign sign (roundWithAccuracy Format.binary64 sign' significand exponent accuracy) := by
  simp only [roundWithAccuracy]
  split <;> rfl

section

variable (sign sign' : Sign) (first second : UnpackedFloat)

theorem mul_withSign :
    UnpackedFloat.mul Format.binary64 (withSign sign first) (withSign sign' second) =
      withSign (sign * sign') (UnpackedFloat.mul Format.binary64 first second) := by
  cases first with
  | finite s =>
    cases second with
    | finite s' => exact roundWithAccuracy_withSign (sign * sign') (s * s') _ _ _
    | _ => rfl
  | _ => cases second <;> rfl

theorem div_withSign :
    UnpackedFloat.div Format.binary64 (withSign sign first) (withSign sign' second) =
      withSign (sign / sign') (UnpackedFloat.div Format.binary64 first second) := by
  cases first with
  | finite s =>
    cases second with
    | finite s' => exact roundWithAccuracy_withSign (sign / sign') (s / s') _ _ _
    | _ => rfl
  | _ => cases second <;> rfl

theorem sub_eq_add_neg_unpacked :
    UnpackedFloat.sub Format.binary64 first second =
      UnpackedFloat.add Format.binary64 first second.neg := by
  cases first with
  | finite s =>
    cases second with
    | finite s' =>
      simp only [UnpackedFloat.sub, UnpackedFloat.add, UnpackedFloat.neg, apply_neg,
        Int.sub_eq_add_neg]
    | _ => rfl
  | _ => cases second <;> rfl

end

theorem normalize_apply (sign zero : Sign) {significand : Nat} (positive : 0 < significand)
    (exponent : Int) :
    UnpackedFloat.normalize Format.binary64 (sign.apply significand) exponent zero =
      round Format.binary64 sign significand exponent := by
  rw [UnpackedFloat.normalize.eq_def]
  cases sign with
  | negative =>
    have minus : Sign.negative.apply (significand : Int) < 0 := by
      simp only [Sign.apply]
      omega
    rw [compare_lt_iff_lt.mpr minus]
    simp [Sign.apply]
  | positive =>
    have plus : Sign.positive.apply (significand : Int) > 0 := by
      simp only [Sign.apply]
      omega
    rw [compare_gt_iff_gt.mpr plus]
    simp [Sign.apply]

theorem abs_normalize (significand exponent : Int) (zero : Sign) :
    (UnpackedFloat.normalize Format.binary64 significand exponent zero).abs =
      if significand = 0 then .zero .positive
      else round Format.binary64 .positive significand.natAbs exponent := by
  split
  · next none => rw [none]; rfl
  · next some =>
    have filled : 0 < significand.natAbs := by omega
    obtain ⟨sign, split⟩ : ∃ sign : Sign, significand = sign.apply significand.natAbs := by
      rcases Int.natAbs_eq significand with plus | minus
      · exact ⟨.positive, plus⟩
      · exact ⟨.negative, minus⟩
    rw [split, normalize_apply sign zero filled, abs_eq_withSign, ← split]
    exact (roundWithAccuracy_withSign .positive sign _ _ _).symm

theorem add_withSign (sign : Sign) (first second : UnpackedFloat) :
    UnpackedFloat.add Format.binary64 (withSign sign first) (withSign sign second) =
      withSign sign (UnpackedFloat.add Format.binary64 first.abs second.abs) := by
  cases first with
  | notANumber => rfl
  | infinity s => cases second <;> cases sign <;> rfl
  | zero s => cases second <;> cases sign <;> rfl
  | finite s significand exponent positive =>
    cases second with
    | finite s' significand' exponent' positive' =>
      have filled : 0 < significand <<< (exponent - min exponent exponent').toNat +
          significand' <<< (exponent' - min exponent exponent').toNat := by
        rw [Nat.shiftLeft_eq]
        exact Nat.add_pos_left (Nat.mul_pos positive (Nat.two_pow_pos _)) _
      have total (sign : Sign) :
          UnpackedFloat.add Format.binary64 (.finite sign significand exponent positive)
              (.finite sign significand' exponent' positive') =
            round Format.binary64 sign (significand <<< (exponent - min exponent exponent').toNat +
              significand' <<< (exponent' - min exponent exponent').toNat)
                (min exponent exponent') := by
        rw [← normalize_apply sign .positive filled, ← apply_add]
        rfl
      calc
        _ = round Format.binary64 sign _ _ := total sign
        _ = withSign sign (round Format.binary64 .positive _ _) :=
          roundWithAccuracy_withSign sign .positive _ _ _
        _ = _ := congrArg (withSign sign) (total .positive).symm
    | _ => cases sign <;> rfl

theorem abs_add_neg_unpacked (first second : UnpackedFloat) :
    (UnpackedFloat.add Format.binary64 first.neg second.neg).abs =
      (UnpackedFloat.add Format.binary64 first second).abs := by
  cases first with
  | notANumber => rfl
  | infinity s =>
    cases second with
    | infinity s' => cases s <;> cases s' <;> rfl
    | _ => rfl
  | zero s =>
    cases second with
    | zero s' => cases s <;> cases s' <;> rfl
    | _ => rfl
  | finite s =>
    cases second with
    | finite s' =>
      simp only [UnpackedFloat.add, UnpackedFloat.neg, apply_neg, ← Int.neg_add, abs_normalize,
        Int.neg_eq_zero, Int.natAbs_neg]
    | _ => rfl

theorem neg_of_withSign {sign : Sign} {unpacked : UnpackedFloat}
    (signed : withSign sign unpacked = unpacked) : unpacked.neg = withSign (-sign) unpacked := by
  rw [← signed, neg_withSign, withSign_withSign]

theorem mul_neg_unpacked (first second : UnpackedFloat) :
    UnpackedFloat.mul Format.binary64 first second.neg =
      (UnpackedFloat.mul Format.binary64 first second).neg := by
  have signs : signOf first * -signOf second = -(signOf first * signOf second) := by
    cases signOf first <;> cases signOf second <;> rfl
  have signed := mul_withSign (signOf first) (signOf second) first second
  rw [withSign_signOf, withSign_signOf] at signed
  rw [neg_of_withSign signed.symm, ← signs, ← mul_withSign, withSign_signOf, neg_eq_withSign]

theorem neg_div_unpacked (first second : UnpackedFloat) :
    UnpackedFloat.div Format.binary64 first.neg second =
      (UnpackedFloat.div Format.binary64 first second).neg := by
  have signs : -signOf first / signOf second = -(signOf first / signOf second) := by
    cases signOf first <;> cases signOf second <;> rfl
  have signed := div_withSign (signOf first) (signOf second) first second
  rw [withSign_signOf, withSign_signOf] at signed
  rw [neg_of_withSign signed.symm, ← signs, ← div_withSign, withSign_signOf, neg_eq_withSign]

theorem pack_neg (unpacked : UnpackedFloat) :
    (⟨Float.Model.pack unpacked.neg⟩ : Float) = -⟨Float.Model.pack unpacked⟩ := by
  have kept := unpack_pack_withSign (signOf unpacked) unpacked
  rw [withSign_signOf] at kept
  have same : (Float.Model.pack unpacked.neg).unpack = (Float.Model.pack unpacked).unpack.neg := by
    rw [neg_of_withSign kept.symm, ← unpack_pack_withSign, neg_eq_withSign]
  change _ = (⟨Float.Model.pack (Float.Model.pack unpacked).unpack.neg⟩ : Float)
  rw [← same, pack_unpack]

theorem pack_abs (unpacked : UnpackedFloat) :
    (⟨Float.Model.pack unpacked.abs⟩ : Float) = (⟨Float.Model.pack unpacked⟩ : Float).abs := by
  have same : (Float.Model.pack unpacked.abs).unpack = (Float.Model.pack unpacked).unpack.abs := by
    rw [abs_eq_withSign, abs_eq_withSign, unpack_pack_withSign]
  change _ = (⟨Float.Model.pack (Float.Model.pack unpacked).unpack.abs⟩ : Float)
  rw [← same, pack_unpack]

theorem mul_neg (first second : Float) : first * -second = -(first * second) := by
  change (⟨Float.Model.pack (UnpackedFloat.mul Format.binary64 first.toModel.unpack
    (-second).toModel.unpack)⟩ : Float) = _
  rw [unpack_neg, mul_neg_unpacked, pack_neg]
  rfl

theorem neg_div (first second : Float) : -first / second = -(first / second) := by
  change (⟨Float.Model.pack (UnpackedFloat.div Format.binary64 (-first).toModel.unpack
    second.toModel.unpack)⟩ : Float) = _
  rw [unpack_neg, neg_div_unpacked, pack_neg]
  rfl

theorem sub_eq_add_neg (first second : Float) : first - second = first + -second := by
  change (⟨Float.Model.pack (UnpackedFloat.sub Format.binary64 first.toModel.unpack
    second.toModel.unpack)⟩ : Float) = _
  rw [sub_eq_add_neg_unpacked, ← unpack_neg]
  rfl

theorem abs_neg_sub_neg (first second : Float) : (-first - -second).abs = (first - second).abs := by
  have turned : (UnpackedFloat.sub Format.binary64 first.toModel.unpack.neg
      second.toModel.unpack.neg).abs =
        (UnpackedFloat.sub Format.binary64 first.toModel.unpack second.toModel.unpack).abs := by
    rw [sub_eq_add_neg_unpacked, sub_eq_add_neg_unpacked, abs_add_neg_unpacked]
  rw [← unpack_neg, ← unpack_neg] at turned
  calc
    (-first - -second).abs = ⟨Float.Model.pack (UnpackedFloat.sub Format.binary64
        (-first).toModel.unpack (-second).toModel.unpack).abs⟩ := (pack_abs _).symm
    _ = (first - second).abs := by rw [turned, pack_abs]; rfl

/-- A double without a minus: a NaN, or a number with the sign of its magnitude. -/
def Unsigned (value : Float) : Prop := value.abs = value

theorem unsigned_abs (value : Float) : Unsigned value.abs := by
  apply ofFloat_inj.mp
  rw [ofFloat_abs, ofFloat_abs]
  cases ofFloat value <;> rfl

theorem unsigned_iff {value : Float} : Unsigned value ↔ (ofFloat value).hasMinus = false := by
  rw [Unsigned, ← ofFloat_inj, ofFloat_abs]
  cases ofFloat value <;> simp [magnitude, hasMinus, eq_comm]

theorem Unsigned.place_nonneg {value : Float} (plus : Unsigned value) : 0 ≤ place value := by
  rw [place, units, unsigned_iff.mp plus]
  exact Int.natCast_nonneg _

theorem unsigned_of_place_pos {value : Float} (positive : 0 < place value) : Unsigned value := by
  rw [unsigned_iff, Bool.eq_false_iff]
  intro minus
  rw [place, units, if_pos minus] at positive
  omega

theorem Unsigned.unpack {value : Float} (plus : Unsigned value) :
    withSign .positive value.toModel.unpack = value.toModel.unpack := by
  rw [← abs_eq_withSign, ← unpack_abs, plus]

theorem unsigned_pack {unpacked : UnpackedFloat} (plus : withSign .positive unpacked = unpacked) :
    Unsigned ⟨Float.Model.pack unpacked⟩ := by
  rw [Unsigned, ← pack_abs, abs_eq_withSign, plus]

section

variable {first second : Float} (plus : Unsigned first) (plus' : Unsigned second)

include plus plus'

theorem Unsigned.mul : Unsigned (first * second) := by
  have product := mul_withSign .positive .positive first.toModel.unpack second.toModel.unpack
  rw [plus.unpack, plus'.unpack] at product
  exact unsigned_pack product.symm

theorem Unsigned.div : Unsigned (first / second) := by
  have quotient := div_withSign .positive .positive first.toModel.unpack second.toModel.unpack
  rw [plus.unpack, plus'.unpack] at quotient
  exact unsigned_pack quotient.symm

theorem Unsigned.add_unpacked (sign : Sign) :
    UnpackedFloat.add Format.binary64 (withSign sign first.toModel.unpack)
        (withSign sign second.toModel.unpack) =
      withSign sign
        (UnpackedFloat.add Format.binary64 first.toModel.unpack second.toModel.unpack) := by
  rw [add_withSign, abs_eq_withSign, abs_eq_withSign, plus.unpack, plus'.unpack]

theorem Unsigned.add : Unsigned (first + second) := by
  have sum := plus.add_unpacked plus' .positive
  rw [plus.unpack, plus'.unpack] at sum
  exact unsigned_pack sum.symm

theorem Unsigned.neg_add_neg : -first + -second = -(first + second) := by
  have sum := plus.add_unpacked plus' .positive
  rw [plus.unpack, plus'.unpack] at sum
  change (⟨Float.Model.pack (UnpackedFloat.add Format.binary64 (-first).toModel.unpack
    (-second).toModel.unpack)⟩ : Float) = _
  rw [unpack_neg, unpack_neg, neg_of_withSign plus.unpack, neg_of_withSign plus'.unpack,
    plus.add_unpacked plus', ← neg_of_withSign sum.symm, pack_neg]
  rfl

end

end PlotScript.Binary64

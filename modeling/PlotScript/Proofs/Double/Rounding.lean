import PlotScript.Proofs.Double.Order
import PlotScript.Proofs.Double.Whole

namespace PlotScript

namespace Rounding

theorem nearest_mul_right {num den factor : Nat} (positive : 0 < factor) :
    nearest (num * factor) (den * factor) = nearest num den := by
  have doubled : 2 * (num % den * factor) = 2 * (num % den) * factor := (Nat.mul_assoc ..).symm
  simp only [nearest, Nat.mul_div_mul_right _ _ positive, Nat.mul_mod_mul_right, doubled,
    Nat.mul_lt_mul_right positive]

theorem nearest_whole (whole : Nat) {den : Nat} (positive : 0 < den) :
    nearest (whole * den) den = whole := by
  simp [nearest, Nat.mul_div_cancel _ positive, positive]

theorem le_nearest {whole num den : Nat} (positive : 0 < den) (least : whole * den ≤ num) :
    whole ≤ nearest num den :=
  Nat.le_trans ((Nat.le_div_iff_mul_le positive).mpr least) (Binary64.div_le_nearest num den)

theorem nearest_le_succ (num den : Nat) : nearest num den ≤ num / den + 1 := by
  rw [nearest]
  split
  · omega
  · split <;> omega

theorem nearest_mono {num den num' den' : Nat} (positive : 0 < den) (positive' : 0 < den')
    (below : num * den' ≤ num' * den) : nearest num den ≤ nearest num' den' := by
  have split := Nat.div_add_mod num den
  have split' := Nat.div_add_mod num' den'
  have quotients : num / den ≤ num' / den' := by
    apply (Nat.le_div_iff_mul_le positive').mpr
    apply Nat.le_of_mul_le_mul_right _ positive
    calc
      num / den * den' * den = num / den * den * den' := Nat.mul_right_comm ..
      _ ≤ num * den' := Nat.mul_le_mul_right _ (Nat.div_mul_le_self num den)
      _ ≤ num' * den := below
  rcases Nat.lt_or_eq_of_le quotients with less | same
  · calc
      nearest num den ≤ num / den + 1 := nearest_le_succ num den
      _ ≤ num' / den' := less
      _ ≤ nearest num' den' := Binary64.div_le_nearest num' den'
  · -- With one quotient the rests decide, and they stand to their halves as the numbers do.
    have rests : num % den * den' ≤ num' % den' * den := by
      rw [← split, ← split', same, Nat.add_mul, Nat.add_mul, Nat.mul_right_comm den,
        Nat.mul_right_comm den', Nat.mul_comm den' den] at below
      exact Nat.le_of_add_le_add_left below
    have halves : 2 * (num % den) * den' ≤ 2 * (num' % den') * den := by
      rw [Nat.mul_assoc, Nat.mul_assoc]
      exact Nat.mul_le_mul_left 2 rests
    have less (bound : 2 * (num' % den') < den') : 2 * (num % den) < den := by
      apply Nat.lt_of_mul_lt_mul_right (a := den')
      calc
        2 * (num % den) * den' ≤ 2 * (num' % den') * den := halves
        _ < den' * den := Nat.mul_lt_mul_of_pos_right bound positive
        _ = den * den' := Nat.mul_comm ..
    have more (bound : den < 2 * (num % den)) : den' < 2 * (num' % den') := by
      apply Nat.lt_of_mul_lt_mul_right (a := den)
      calc
        den' * den = den * den' := Nat.mul_comm ..
        _ < 2 * (num % den) * den' := Nat.mul_lt_mul_of_pos_right bound positive'
        _ ≤ 2 * (num' % den') * den := halves
    rw [nearest, nearest, same]
    split
    · split
      · exact Nat.le_refl _
      · split <;> omega
    · next high =>
      rw [if_neg fun low => high (less low)]
      split
      · next above => rw [if_pos (more above)]
      · split <;> omega

end Rounding

namespace Binary64

@[irreducible] def depth : Nat := 1074

theorem leastExponent_eq : leastExponent = -(depth : Int) := by
  unfold depth
  rfl

/-- The magnitude `num / den`, rounded to 53 bits; both are in units of the least positive double, and
so no bits are lost below `2 ^ 53`. -/
def Rounds (num den result : Nat) : Prop :=
  ∃ shift, (shift = 0 ∨ 2 ^ (52 + shift) * den ≤ num) ∧ num < 2 ^ (53 + shift) * den ∧
    result = Rounding.nearest num (den * 2 ^ shift) * 2 ^ shift

theorem grid (bits shift den : Nat) : 2 ^ (bits + shift) * den = 2 ^ bits * (den * 2 ^ shift) := by
  rw [Nat.pow_add]
  ring

theorem rounds_zero {den : Nat} (positive : 0 < den) : Rounds 0 den 0 :=
  ⟨0, .inl rfl, Nat.mul_pos (Nat.two_pow_pos _) positive, by simp [Rounding.nearest, positive]⟩

section

variable {num den num' den' result result' : Nat}

theorem Rounds.le (rounds : Rounds num den result) (rounds' : Rounds num' den' result')
    (positive : 0 < den) (positive' : 0 < den') (below : num * den' ≤ num' * den) :
    result ≤ result' := by
  obtain ⟨shift, full, short, rfl⟩ := rounds
  obtain ⟨shift', full', short', rfl⟩ := rounds'
  rcases Nat.lt_trichotomy shift shift' with less | rfl | greater
  · have most : Rounding.nearest num (den * 2 ^ shift) ≤ 2 ^ 53 := by
      refine nearest_small (Nat.mul_pos positive (Nat.two_pow_pos _)) ?_
      rwa [grid] at short
    have least : 2 ^ 52 ≤ Rounding.nearest num' (den' * 2 ^ shift') := by
      refine Rounding.le_nearest (Nat.mul_pos positive' (Nat.two_pow_pos _)) ?_
      have filled := full'.resolve_left (by omega)
      rwa [grid] at filled
    calc
      Rounding.nearest num (den * 2 ^ shift) * 2 ^ shift ≤ 2 ^ 53 * 2 ^ shift :=
        Nat.mul_le_mul_right _ most
      _ = 2 ^ 52 * 2 ^ (shift + 1) := by rw [← Nat.pow_add, ← Nat.pow_add]; congr 1; omega
      _ ≤ 2 ^ 52 * 2 ^ shift' := Nat.mul_le_mul_left _ (Nat.pow_le_pow_right (by decide) less)
      _ ≤ Rounding.nearest num' (den' * 2 ^ shift') * 2 ^ shift' := Nat.mul_le_mul_right _ least
  · apply Nat.mul_le_mul_right
    apply Rounding.nearest_mono (Nat.mul_pos positive (Nat.two_pow_pos _))
      (Nat.mul_pos positive' (Nat.two_pow_pos _))
    rw [← Nat.mul_assoc, ← Nat.mul_assoc]
    exact Nat.mul_le_mul_right _ below
  · exfalso
    have filled := full.resolve_left (by omega)
    apply Nat.not_lt_of_le below
    calc
      num' * den < 2 ^ (53 + shift') * den' * den := Nat.mul_lt_mul_of_pos_right short' positive
      _ ≤ 2 ^ (52 + shift) * den' * den :=
        Nat.mul_le_mul_right _ (Nat.mul_le_mul_right _ (Nat.pow_le_pow_right (by decide) (by omega)))
      _ = 2 ^ (52 + shift) * den * den' := Nat.mul_right_comm ..
      _ ≤ num * den' := Nat.mul_le_mul_right _ filled

theorem Rounds.eq_of_short {significand power : Nat} (positive : 0 < den)
    (short : significand < 2 ^ 53) (rounds : Rounds (significand * 2 ^ power * den) den result) :
    result = significand * 2 ^ power := by
  obtain ⟨shift, full, _, rfl⟩ := rounds
  have inside : shift ≤ power := by
    rcases full with rfl | filled
    · exact Nat.zero_le power
    · have least := Nat.le_of_mul_le_mul_right filled positive
      have most : significand * 2 ^ power < 2 ^ (53 + power) := by
        rw [Nat.pow_add]
        exact Nat.mul_lt_mul_of_pos_right short (Nat.two_pow_pos power)
      have powers := (Nat.pow_lt_pow_iff_right (by decide)).mp (Nat.lt_of_le_of_lt least most)
      omega
  obtain ⟨rest, rfl⟩ := Nat.exists_eq_add_of_le' inside
  have whole : significand * 2 ^ (rest + shift) * den =
      significand * 2 ^ rest * (den * 2 ^ shift) := by
    rw [Nat.pow_add]
    ring
  rw [whole, Rounding.nearest_whole _ (Nat.mul_pos positive (Nat.two_pow_pos shift)), Nat.mul_assoc,
    ← Nat.pow_add]

end

section

variable {num den : Nat}

theorem scale_lt_iff {bound low high : Nat} {exponent : Int}
    (level : (high : Int) - low = bound + exponent) :
    (Rounding.scale 2 num den exponent).1 < 2 ^ bound * (Rounding.scale 2 num den exponent).2 ↔
      num * 2 ^ low < 2 ^ high * den := by
  rw [Rounding.scale]
  split
  · have powers : 2 ^ high * den = 2 ^ bound * (den * 2 ^ exponent.toNat) * 2 ^ low := by
      have sum : high = bound + exponent.toNat + low := by omega
      rw [sum, Nat.pow_add, Nat.pow_add]
      ring
    rw [powers]
    exact (Nat.mul_lt_mul_right (Nat.two_pow_pos low)).symm
  · have powers : 2 ^ high * den * 2 ^ (-exponent).toNat = 2 ^ bound * den * 2 ^ low := by
      have sum : high + (-exponent).toNat = bound + low := by omega
      calc
        2 ^ high * den * 2 ^ (-exponent).toNat = 2 ^ (high + (-exponent).toNat) * den := by
          rw [Nat.pow_add]
          ring
        _ = 2 ^ bound * den * 2 ^ low := by
          rw [sum, Nat.pow_add]
          ring
    calc
      num * 2 ^ (-exponent).toNat < 2 ^ bound * den ↔
          num * 2 ^ (-exponent).toNat * 2 ^ low < 2 ^ bound * den * 2 ^ low :=
        (Nat.mul_lt_mul_right (Nat.two_pow_pos low)).symm
      _ ↔ num * 2 ^ low * 2 ^ (-exponent).toNat < 2 ^ high * den * 2 ^ (-exponent).toNat := by
        rw [powers, Nat.mul_right_comm]
      _ ↔ num * 2 ^ low < 2 ^ high * den := Nat.mul_lt_mul_right (Nat.two_pow_pos _)

section

variable {high low shift : Nat}

theorem grid_of_lt (least : 2 ^ high ≤ num) (most : den < 2 ^ (low + 1))
    (small : num * 2 ^ low < 2 ^ high * den)
    (level : shift + 53 + low = max (53 + low) (high + depth)) :
    (shift = 0 ∨ 2 ^ (52 + shift) * den ≤ num * 2 ^ depth) ∧
      num * 2 ^ depth < 2 ^ (53 + shift) * den := by
  constructor
  · rcases Nat.eq_zero_or_pos shift with zero | above
    · exact .inl zero
    · right
      calc
        2 ^ (52 + shift) * den ≤ 2 ^ (52 + shift) * 2 ^ (low + 1) :=
          Nat.mul_le_mul_left _ (Nat.le_of_lt most)
        _ = 2 ^ high * 2 ^ depth := by rw [← Nat.pow_add, ← Nat.pow_add]; congr 1; omega
        _ ≤ num * 2 ^ depth := Nat.mul_le_mul_right _ least
  · apply Nat.lt_of_mul_lt_mul_right (a := 2 ^ low)
    calc
      num * 2 ^ depth * 2 ^ low = num * 2 ^ low * 2 ^ depth := Nat.mul_right_comm ..
      _ < 2 ^ high * den * 2 ^ depth := Nat.mul_lt_mul_of_pos_right small (Nat.two_pow_pos _)
      _ = 2 ^ (high + depth) * den := by rw [Nat.pow_add, Nat.mul_right_comm]
      _ ≤ 2 ^ (53 + shift + low) * den :=
        Nat.mul_le_mul_right _ (Nat.pow_le_pow_right (by decide) (by omega))
      _ = 2 ^ (53 + shift) * den * 2 ^ low := by rw [Nat.pow_add, Nat.mul_right_comm]

theorem grid_of_le (most : num < 2 ^ (high + 1)) (least : 2 ^ low ≤ den)
    (large : 2 ^ high * den ≤ num * 2 ^ low)
    (level : shift + 52 + low = max (52 + low) (high + depth)) :
    (shift = 0 ∨ 2 ^ (52 + shift) * den ≤ num * 2 ^ depth) ∧
      num * 2 ^ depth < 2 ^ (53 + shift) * den := by
  constructor
  · rcases Nat.eq_zero_or_pos shift with zero | above
    · exact .inl zero
    · right
      apply Nat.le_of_mul_le_mul_right _ (Nat.two_pow_pos low)
      calc
        2 ^ (52 + shift) * den * 2 ^ low = 2 ^ (52 + shift + low) * den := by
          rw [Nat.pow_add _ _ low, Nat.mul_right_comm]
        _ = 2 ^ (high + depth) * den := by congr 2; omega
        _ = 2 ^ high * den * 2 ^ depth := by rw [Nat.pow_add, Nat.mul_right_comm]
        _ ≤ num * 2 ^ low * 2 ^ depth := Nat.mul_le_mul_right _ large
        _ = num * 2 ^ depth * 2 ^ low := Nat.mul_right_comm ..
  · calc
      num * 2 ^ depth < 2 ^ (high + 1) * 2 ^ depth :=
        Nat.mul_lt_mul_of_pos_right most (Nat.two_pow_pos _)
      _ = 2 ^ (high + 1 + depth) := (Nat.pow_add ..).symm
      _ ≤ 2 ^ (53 + shift + low) := Nat.pow_le_pow_right (by decide) (by omega)
      _ = 2 ^ (53 + shift) * 2 ^ low := Nat.pow_add ..
      _ ≤ 2 ^ (53 + shift) * den := Nat.mul_le_mul_left _ least

end

theorem exponentOf_grid (filled : 0 < num) (positive : 0 < den) {shift : Nat}
    (level : (shift : Int) = exponentOf num den - leastExponent) :
    (shift = 0 ∨ 2 ^ (52 + shift) * den ≤ num * 2 ^ depth) ∧
      num * 2 ^ depth < 2 ^ (53 + shift) * den := by
  have test := @scale_lt_iff num den 52 den.log2 num.log2 (num.log2 - den.log2 - 52) (by omega)
  simp only [exponentOf, leastExponent_eq] at level
  rw [show exponentUnit = 2 ^ 52 from rfl, if_congr test rfl rfl] at level
  split at level
  · next small =>
    exact grid_of_lt (Nat.log2_self_le (Nat.ne_of_gt filled)) Nat.lt_log2_self small (by omega)
  · next large =>
    exact grid_of_le Nat.lt_log2_self (Nat.log2_self_le (Nat.ne_of_gt positive))
      (Nat.le_of_not_lt large) (by omega)

theorem leastExponent_le_exponentOf (num den : Nat) : leastExponent ≤ exponentOf num den :=
  Int.le_max_left _ _

theorem nearest_scale {exponent : Int} {shift : Nat} (level : (shift : Int) = exponent - leastExponent) :
    Rounding.nearest (Rounding.scale 2 num den exponent).1 (Rounding.scale 2 num den exponent).2 =
      Rounding.nearest (num * 2 ^ depth) (den * 2 ^ shift) := by
  rw [leastExponent_eq] at level
  rw [Rounding.scale]
  split
  · have sum : shift = exponent.toNat + depth := by omega
    rw [sum, Nat.pow_add, ← Nat.mul_assoc]
    exact (Rounding.nearest_mul_right (Nat.two_pow_pos depth)).symm
  · have sum : depth = (-exponent).toNat + shift := by omega
    rw [sum, Nat.pow_add, ← Nat.mul_assoc]
    exact (Rounding.nearest_mul_right (Nat.two_pow_pos shift)).symm

end

theorem size_ofMagnitudeBits {shift significand : Nat} (short : significand ≤ 2 * exponentUnit)
    (full : shift = 0 ∨ exponentUnit ≤ significand) :
    (ofMagnitudeBits (shift * exponentUnit + significand)).size = significand * 2 ^ shift := by
  have normal {shift significand : Nat} (long : exponentUnit ≤ significand)
      (short : significand < 2 * exponentUnit) :
      (ofMagnitudeBits (shift * exponentUnit + significand)).size = significand * 2 ^ shift := by
    rw [ofMagnitudeBits_normal long short, size, Int.add_sub_cancel, Int.toNat_natCast]
  rcases Nat.lt_or_eq_of_le short with less | rfl
  · by_cases long : exponentUnit ≤ significand
    · exact normal long less
    · have least := full.resolve_right long
      rw [least, Nat.zero_mul, Nat.zero_add, ofMagnitudeBits, if_pos (Nat.lt_of_not_le long), size]
      simp
  · have carried : shift * exponentUnit + 2 * exponentUnit =
        (shift + 1) * exponentUnit + exponentUnit := by
      ring
    rw [carried, normal (Nat.le_refl _) (by decide), Nat.pow_succ']
    ring

theorem rounds_nearestBits? {num den bits : Nat} (positive : 0 < den)
    (found : nearestBits? num den = some bits) :
    Rounds (num * 2 ^ depth) den (ofMagnitudeBits bits).size := by
  by_cases zero : num = 0
  · rw [nearestBits?, if_pos zero] at found
    cases found
    rw [zero, Nat.zero_mul]
    exact rounds_zero positive
  have filled := Nat.pos_of_ne_zero zero
  obtain ⟨rounded, _⟩ := (nearestBits?_eq_some_iff zero).mp found
  obtain ⟨shift, level⟩ :=
    Int.eq_ofNat_of_zero_le (Int.sub_nonneg_of_le (leastExponent_le_exponentOf num den))
  obtain ⟨full, short⟩ := exponentOf_grid filled positive level.symm
  have same := @nearest_scale num den _ _ level.symm
  simp only [roundedBits, level, Int.toNat_natCast, same] at rounded
  have unit : 0 < den * 2 ^ shift := Nat.mul_pos positive (Nat.two_pow_pos shift)
  refine ⟨shift, full, short, ?_⟩
  rw [← rounded]
  apply size_ofMagnitudeBits
  · rw [grid] at short
    exact nearest_small unit short
  · refine full.imp_right fun filled => Rounding.le_nearest unit ?_
    rw [grid] at filled
    exact filled

theorem place_ofBits {negative : Bool} {bits : Nat} (small : bits < infinityBits) :
    place (ofBits negative bits) =
      if negative then -((ofMagnitudeBits bits).size : Int) else (ofMagnitudeBits bits).size := by
  have plain : (ofMagnitudeBits bits).units = (ofMagnitudeBits bits).size := by
    rw [ofMagnitudeBits]
    split <;> rfl
  rw [place, ofFloat_ofBits small]
  split
  · rw [units_negate, plain]
  · exact plain

end Binary64

end PlotScript

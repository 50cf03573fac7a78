namespace PlotScript.Rounding

/-- The whole number nearest to `num / den`; halfway between two, the even one. -/
def nearest (num den : Nat) : Nat :=
  let quotient := num / den
  let rest := num % den
  if 2 * rest < den then quotient
  else if den < 2 * rest then quotient + 1
  else quotient + quotient % 2

def scale (base num den : Nat) (exponent : Int) : Nat × Nat :=
  if 0 ≤ exponent then (num, den * Nat.pow base exponent.toNat)
  else (num * Nat.pow base (-exponent).toNat, den)

theorem nearest_within_half (num den : Nat) (positive : 0 < den) :
    2 * num ≤ (2 * nearest num den + 1) * den ∧ 2 * nearest num den * den ≤ 2 * num + den := by
  have split := Nat.div_add_mod num den
  have small := Nat.mod_lt num positive
  generalize hq : num / den = quotient at split
  generalize hr : num % den = rest at split small
  have expand : quotient * den = den * quotient := Nat.mul_comm _ _
  unfold nearest
  simp only [hq, hr]
  split
  · constructor
    · rw [Nat.add_mul, Nat.mul_assoc, expand]; omega
    · rw [Nat.mul_assoc, expand]; omega
  · split
    · constructor
      · rw [Nat.add_mul, Nat.mul_assoc, Nat.add_mul, expand]; omega
      · rw [Nat.mul_assoc, Nat.add_mul, expand]; omega
    · rcases Nat.mod_two_eq_zero_or_one quotient with even | odd
      · rw [even]
        constructor
        · rw [Nat.add_mul, Nat.mul_assoc, Nat.add_zero, expand]; omega
        · rw [Nat.mul_assoc, Nat.add_zero, expand]; omega
      · rw [odd]
        constructor
        · rw [Nat.add_mul, Nat.mul_assoc, Nat.add_mul, expand]; omega
        · rw [Nat.mul_assoc, Nat.add_mul, expand]; omega

end PlotScript.Rounding

import PlotScript.Proofs.Descent
import PlotScript.Proofs.Power.Parity

namespace PlotScript.Root

open Binary64

section

variable {α : Type} [Add α] [Sub α] [Mul α] [Div α] [OfNat α 1]
variable {power? : α → Option α} {close : α → α → Bool} {degree radicand radicand' : α}
variable {Holds : α → Prop} (keeps : ∀ guess power, Holds guess → power? guess = some power →
  Holds (next degree radicand guess power))

include keeps

theorem descend_keeps {steps : Nat} {guess root : α} (first : Holds guess)
    (found : descend power? close degree radicand steps guess = some root) : Holds root := by
  induction steps generalizing guess with
  | zero =>
    cases found
    exact first
  | succ steps ih =>
    rw [descend] at found
    split at found
    · cases found
    · next power divides =>
      have kept := keeps guess power first divides
      dsimp only at found
      split at found
      · cases found
        exact kept
      · exact ih kept found

theorem descend_mirror (mirror : α → α) (powers : ∀ guess, power? (mirror guess) = power? guess)
    (turns : ∀ guess power, Holds guess → power? guess = some power →
      next degree radicand' (mirror guess) power = mirror (next degree radicand guess power))
    (closes : ∀ guess following, close (mirror guess) (mirror following) = close guess following)
    (steps : Nat) {guess : α} (first : Holds guess) :
    descend power? close degree radicand' steps (mirror guess) =
      (descend power? close degree radicand steps guess).map mirror := by
  induction steps generalizing guess with
  | zero => rfl
  | succ steps ih =>
    rw [descend, descend, powers]
    cases divides : power? guess with
    | none => rfl
    | some power =>
      simp only [turns guess power first divides, closes]
      split
      · rfl
      · exact ih (keeps guess power first divides)

end

theorem unsigned_of_divisor? {base exponent power : Float} (plus : Unsigned base)
    (divides : divisor? base exponent = some power) : Unsigned power := by
  obtain ⟨checked, _⟩ := Option.filter_eq_some_iff.mp divides
  rw [Power.checked?] at checked
  split at checked
  · cases checked
  · cases checked
    exact Power.unsigned_power plus exponent

theorem divisor?_neg {exponent : Float} (even : Power.parity? exponent = some false) (base : Float) :
    divisor? (-base) exponent = divisor? base exponent := by
  rw [divisor?, divisor?, Power.checked?, Power.checked?, Power.power_neg_of_even even,
    isFinite_neg]

theorem close_neg (tolerance guess following : Float) :
    close tolerance (-guess) (-following) = close tolerance guess following := by
  rw [close, close, abs_neg_sub_neg, abs_neg]

section

variable {degree radicand : Float} (finite : IsFinite degree) (least : 1 ≤ degree)
  (plus : Unsigned radicand)

include least

theorem place_degree_pos : 0 < place degree := by
  have below := (le_iff.mp least).2.2
  rw [Power.place_one] at below
  have unit : (0 : Int) < 2 ^ depth := by positivity
  omega

include finite plus

theorem unsigned_next (guess power : Float) (plus' : Unsigned guess)
    (divides : divisor? guess (degree - 1) = some power) :
    Unsigned (next degree radicand guess power) := by
  have rest := (Power.unsigned_sub_one finite least).mul plus'
  have quotient := plus.div (unsigned_of_divisor? plus' divides)
  exact (rest.add quotient).div (unsigned_of_place_pos (place_degree_pos least))

theorem next_neg (guess power : Float) (plus' : Unsigned guess)
    (divides : divisor? guess (degree - 1) = some power) :
    next degree (-radicand) (-guess) power = -next degree radicand guess power := by
  have rest := (Power.unsigned_sub_one finite least).mul plus'
  have quotient := plus.div (unsigned_of_divisor? plus' divides)
  rw [next, next, mul_neg, neg_div, rest.neg_add_neg quotient, neg_div]

theorem unsigned_descend {tolerance : Float} {steps : Nat} {root : Float}
    (found : descend (fun guess => divisor? guess (degree - 1)) (close tolerance) degree radicand steps
      (radicand / degree) = some root) : Unsigned root := by
  have first := plus.div (unsigned_of_place_pos (place_degree_pos least))
  exact descend_keeps (unsigned_next finite least plus) first found

theorem descend_neg (even : Power.parity? (degree - 1) = some false) (tolerance : Float) (steps : Nat) :
    descend (fun guess => divisor? guess (degree - 1)) (close tolerance) degree (-radicand) steps
        (-radicand / degree) =
      (descend (fun guess => divisor? guess (degree - 1)) (close tolerance) degree radicand steps
        (radicand / degree)).map (-·) := by
  have first := plus.div (unsigned_of_place_pos (place_degree_pos least))
  rw [neg_div]
  exact descend_mirror (unsigned_next finite least plus) (-·) (divisor?_neg even)
    (next_neg finite least plus) (close_neg tolerance) steps first

end

section

variable {degree radicand : Float} (least : 1 ≤ degree) (steps : Nat) (tolerance : Float)

include least

theorem newton_eq_descend (nonzero : place radicand ≠ 0) :
    newton steps tolerance degree radicand =
      .ok ((descend (fun guess => divisor? guess (degree - 1)) (close tolerance) degree radicand steps
        (radicand / degree)).filter Float.isFinite) := by
  have whole := place_degree_pos least
  rw [newton, if_neg fun zero => nonzero (beq_zero_iff.mp zero).2,
    if_neg fun zero => whole.ne' (beq_zero_iff.mp zero).2]

variable (finite : IsFinite degree)

include finite

theorem newton_nonneg (positive : 0 < place radicand) :
    ∃ root?, newton steps tolerance degree radicand = .ok root? ∧ ∀ root ∈ root?, 0 ≤ root := by
  refine ⟨_, newton_eq_descend least steps tolerance positive.ne', ?_⟩
  intro root found
  obtain ⟨descended, bounded⟩ := Option.filter_eq_some_iff.mp found
  have plus := unsigned_descend finite least (unsigned_of_place_pos positive) descended
  exact nonneg_iff.mpr ⟨(isFinite_iff.mp bounded).isNumber, plus.place_nonneg⟩

theorem newton_neg_of_pos (even : Power.parity? (degree - 1) = some false)
    (positive : 0 < place radicand) :
    ∃ root?, newton steps tolerance degree radicand = .ok root? ∧
      newton steps tolerance degree (-radicand) = .ok (root?.map (-·)) := by
  have apart : place (-radicand) ≠ 0 := by
    rw [place_neg]
    omega
  have same : Float.isFinite ∘ (-·) = Float.isFinite := funext isFinite_neg
  refine ⟨_, newton_eq_descend least steps tolerance positive.ne', ?_⟩
  rw [newton_eq_descend least steps tolerance apart,
    descend_neg finite least (unsigned_of_place_pos positive) even, Option.filter_map, same]

theorem newton_neg (even : Power.parity? (degree - 1) = some false) (nonzero : place radicand ≠ 0) :
    ∃ root?, newton steps tolerance degree radicand = .ok root? ∧
      newton steps tolerance degree (-radicand) = .ok (root?.map (-·)) := by
  rcases Int.lt_or_gt_of_ne nonzero with minus | plus
  · -- The radicand below zero is the one whose descent mirrors the other.
    have positive : 0 < place (-radicand) := by
      rw [place_neg]
      omega
    obtain ⟨root?, found, found'⟩ := newton_neg_of_pos least steps tolerance finite even positive
    rw [neg_neg] at found'
    refine ⟨_, found', ?_⟩
    rw [found, Option.map_map]
    simp [Function.comp_def, neg_neg]
  · exact newton_neg_of_pos least steps tolerance finite even plus

end

/-- A root of a radicand above zero is not below zero; and under an odd degree a radicand and its
negation have opposite roots, or neither has one. The number of steps and the tolerance do not matter. -/
theorem newton_signs (steps : Nat) (tolerance degree : Float) :
    (degree.isFinite → 1 ≤ degree → ∀ radicand : Float, 0 < radicand →
      ∃ root?, newton steps tolerance degree radicand = .ok root? ∧ ∀ root ∈ root?, 0 ≤ root) ∧
    ∀ half : ℕ, (ofFloat degree).value? = some (2 * half + 1 : ℚ) →
      ∀ radicand : Float, radicand.isFinite → ¬ radicand == 0 →
        ∃ root?, newton steps tolerance degree radicand = .ok root? ∧
          newton steps tolerance degree (-radicand) = .ok (root?.map (-·)) := by
  constructor
  · intro finite least radicand positive
    exact newton_nonneg least steps tolerance (isFinite_iff.mp finite) (pos_iff.mp positive)
  · intro half odd radicand bounded nonzero
    have stands : (ofFloat degree).value? = some ((2 * half + 1 : ℤ) : ℚ) := by
      rw [odd]
      push_cast
      rfl
    obtain ⟨finite, placed⟩ := place_of_value? stands
    have least := Power.one_le_of_place placed (by omega)
    have even := Power.parity?_sub_one placed finite (by omega) (by omega)
    have apart : place radicand ≠ 0 := fun zero =>
      nonzero (beq_zero_iff.mpr ⟨(isFinite_iff.mp bounded).isNumber, zero⟩)
    exact newton_neg least steps tolerance finite even apart

theorem newton_signs_third :
    (3 : Float).isFinite ∧ (1 : Float) ≤ 3 ∧ (0 : Float) < 3 ∧ ¬ (3 : Float) == 0 ∧
      (ofFloat 3).value? = some (2 * (1 : ℕ) + 1 : ℚ) ∧
      newton 1 defaultTolerance 3 3 = .ok (some (5 / 3)) ∧ (0 : Float) ≤ 5 / 3 ∧
      newton 1 defaultTolerance 3 (-3) = .ok (some (-(5 / 3))) := by
  have finite : (3 : Float).isFinite := by decide +kernel
  have least : (1 : Float) ≤ 3 := by decide +kernel
  have positive : (0 : Float) < 3 := by decide +kernel
  have nonzero : ¬ (3 : Float) == 0 := by decide +kernel
  have odd : (ofFloat 3).value? = some (2 * (1 : ℕ) + 1 : ℚ) := by
    have taken : ofFloat 3 = .finite false (3 * 2 ^ 51) (-51) := by decide +kernel
    rw [taken, value?]
    norm_num
  have found : newton 1 defaultTolerance 3 3 = .ok (some (5 / 3)) := by decide +kernel
  obtain ⟨above, opposite⟩ := newton_signs 1 defaultTolerance 3
  obtain ⟨root?, found', nonnegative⟩ := above finite least 3 positive
  obtain ⟨other?, found'', turned⟩ := opposite 1 odd 3 finite nonzero
  cases found.symm.trans found'
  cases found.symm.trans found''
  exact ⟨finite, least, positive, nonzero, odd, found, nonnegative _ rfl, turned⟩

end PlotScript.Root

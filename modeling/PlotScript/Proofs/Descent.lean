import PlotScript.Number.Root
import PlotScript.Proofs.Double.Order

/-!
How the descent to a root ends: with the first guess that is close to the one before it, or with the
last one when the steps are used up. What it returns does not tell the one from the other.
-/

namespace PlotScript.Root

section

variable {α : Type} [Add α] [Sub α] [Mul α] [Div α] [OfNat α 1]
variable (power? : α → Option α) (close : α → α → Bool) (degree radicand : α)

/-- The guess after some steps, unless a power is refused on the way to it. -/
def guess? : Nat → α → Option α
  | 0, guess => some guess
  | steps + 1, guess =>
    (power? guess).bind fun power => guess? steps (next degree radicand guess power)

def Settles (steps : Nat) (guess : α) : Prop :=
  ∃ before after, guess? power? degree radicand steps guess = some before ∧
    guess? power? degree radicand (steps + 1) guess = some after ∧ close before after

variable {power? close degree radicand}

instance (steps : Nat) (guess : α) : Decidable (Settles power? close degree radicand steps guess) :=
  decidable_of_iff ((guess? power? degree radicand steps guess).any fun before =>
    (guess? power? degree radicand (steps + 1) guess).any fun after => close before after)
    (by simp [Settles, Option.any_eq_true])

theorem settles_zero {guess power : α} (found : power? guess = some power) :
    Settles power? close degree radicand 0 guess ↔
      close guess (next degree radicand guess power) := by
  simp [Settles, guess?, found]

theorem settles_succ {guess power : α} (found : power? guess = some power) (steps : Nat) :
    Settles power? close degree radicand (steps + 1) guess ↔
      Settles power? close degree radicand steps (next degree radicand guess power) := by
  simp [Settles, guess?, found]

theorem descend_eq_some_iff {total : Nat} {guess root : α} :
    descend power? close degree radicand total guess = some root ↔
      (∃ steps < total, (∀ earlier < steps, ¬ Settles power? close degree radicand earlier guess) ∧
        Settles power? close degree radicand steps guess ∧
          guess? power? degree radicand (steps + 1) guess = some root) ∨
      (∀ earlier < total, ¬ Settles power? close degree radicand earlier guess) ∧
        guess? power? degree radicand total guess = some root := by
  induction total generalizing guess with
  | zero => simp [descend, guess?]
  | succ total ih =>
    rw [descend]
    cases found : power? guess with
    | none =>
      have refused (steps : Nat) : guess? power? degree radicand (steps + 1) guess = none := by
        simp [guess?, found]
      simp [refused]
    | some power =>
      have later (steps : Nat) : guess? power? degree radicand (steps + 1) guess =
          guess? power? degree radicand steps (next degree radicand guess power) := by
        simp [guess?, found]
      simp only [Nat.exists_lt_succ_left, Nat.forall_lt_succ_left, settles_zero found,
        settles_succ found, later]
      by_cases near : close guess (next degree radicand guess power)
      · simp [near, guess?]
      · simp [near, ih]

end

def newtonGuess? (degree radicand : Float) (steps : Nat) : Option Float :=
  guess? (fun guess => divisor? guess (degree - 1)) degree radicand steps (radicand / degree)

/-- The step from one guess to the next is small against the latter. -/
def NewtonSettles (tolerance degree radicand : Float) (steps : Nat) : Prop :=
  ∃ before after, newtonGuess? degree radicand steps = some before ∧
    newtonGuess? degree radicand (steps + 1) = some after ∧
      (after - before).abs ≤ tolerance * after.abs

theorem newtonSettles_iff {tolerance degree radicand : Float} {steps : Nat} :
    NewtonSettles tolerance degree radicand steps ↔
      Settles (fun guess => divisor? guess (degree - 1)) (close tolerance) degree radicand steps
        (radicand / degree) := by
  simp [NewtonSettles, Settles, newtonGuess?, close]

theorem degree_ne_zero {degree radicand : Float} (real : hasReal degree radicand) :
    (degree == 0) = false := by
  have above : 0 < degree := by simp_all [hasReal]
  exact Bool.eq_false_iff.mpr fun zero =>
    (Binary64.pos_iff.mp above).ne' (Binary64.beq_zero_iff.mp zero).2

/-- A number is returned as a root when it is finite and either the first guess behind a small step or,
no step being small, the last one: in the second case the test of the descent has never passed. -/
theorem newton_eq_root_iff {degree radicand : Float} (real : hasReal degree radicand)
    (nonzero : (radicand == 0) = false) (total : Nat) (tolerance root : Float) :
    newton total tolerance degree radicand = .ok (some root) ↔ root.isFinite ∧
      ((∃ steps < total, (∀ earlier < steps, ¬ NewtonSettles tolerance degree radicand earlier) ∧
          NewtonSettles tolerance degree radicand steps ∧
            newtonGuess? degree radicand (steps + 1) = some root) ∨
        (∀ earlier < total, ¬ NewtonSettles tolerance degree radicand earlier) ∧
          newtonGuess? degree radicand total = some root) := by
  rw [newton, nonzero, degree_ne_zero real]
  simp only [Bool.false_eq_true, if_false, Except.ok.injEq, Option.filter_eq_some_iff,
    descend_eq_some_iff, newtonSettles_iff]
  exact and_comm

theorem newton_nine : hasReal 2 9 ∧ ((9 : Float) == 0) = false ∧
    ∃ steps < defaultSteps, NewtonSettles defaultTolerance 2 9 steps ∧
      newtonGuess? 2 9 (steps + 1) = some 3 := by
  have real : hasReal 2 9 := by decide +kernel
  have nonzero : ((9 : Float) == 0) = false := by decide +kernel
  refine ⟨real, nonzero, ?_⟩
  have found : newton defaultSteps defaultTolerance 2 9 = .ok (some 3) := by decide +kernel
  have settled : NewtonSettles defaultTolerance 2 9 5 := newtonSettles_iff.mpr (by decide +kernel)
  rcases ((newton_eq_root_iff real nonzero _ _ _).mp found).2 with
    ⟨steps, few, _, settles, last⟩ | ⟨unsettled, _⟩
  · exact ⟨steps, few, settles, last⟩
  · exact absurd settled (unsettled 5 (by decide))

/-- The square root of a large number is not reached, and what the last step has come to is returned:
more than a hundred times the root, and half of the guess before it. -/
theorem newton_unsettled : hasReal 2 1e20 ∧ ((1e20 : Float) == 0) = false ∧
    newton defaultSteps defaultTolerance 2 1e20 = .ok (some (Float.ofBits 0x4275af32ce06aefd)) ∧
      ∀ steps < defaultSteps, ¬ NewtonSettles defaultTolerance 2 1e20 steps := by
  refine ⟨by decide +kernel, by decide +kernel, by decide +kernel, ?_⟩
  simp only [newtonSettles_iff]
  decide +kernel

end PlotScript.Root

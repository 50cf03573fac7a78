import Mathlib.Algebra.Order.Field.Rat
import Mathlib.Algebra.Order.Ring.Pow
import Mathlib.Tactic.FieldSimp
import Mathlib.Tactic.Linarith
import Mathlib.Tactic.Positivity
import Mathlib.Tactic.Ring
import PlotScript.Proofs.Descent

/-!
Newton's recurrence without rounding. From the first step on the guesses lie above the root and fall, and
where the descent stops for a small step, the step bounds how far above the root it has stopped.
-/

namespace PlotScript.Root

section

variable {α : Type} [Field α] [LinearOrder α]

def unroundedPower? (degree : ℕ) (guess : α) : Option α :=
  if guess ^ (degree - 1) = 0 then none else some (guess ^ (degree - 1))

def unroundedClose (tolerance guess following : α) : Bool :=
  |following - guess| ≤ tolerance * |following|

def unroundedGuess (degree : ℕ) (radicand : α) : ℕ → α
  | 0 => radicand / degree
  | k + 1 => next (degree : α) radicand (unroundedGuess degree radicand k)
      (unroundedGuess degree radicand k ^ (degree - 1))

variable [IsStrictOrderedRing α] {degree : ℕ} {radicand guess : α}

section

variable (whole : 1 ≤ degree)

include whole

theorem sub_next_mul (nonzero : guess ≠ 0) :
    (guess - next (degree : α) radicand guess (guess ^ (degree - 1))) *
      (degree * guess ^ (degree - 1)) = guess ^ degree - radicand := by
  obtain ⟨less, rfl⟩ := Nat.exists_eq_add_of_le' whole
  have count : ((less : α) + 1) ≠ 0 := by positivity
  rw [next, Nat.add_sub_cancel]
  push_cast
  field_simp
  ring

theorem next_pos (positive : 0 < radicand) (above : 0 < guess) :
    0 < next (degree : α) radicand guess (guess ^ (degree - 1)) := by
  have least : (1 : α) ≤ degree := by exact_mod_cast whole
  have rest : 0 ≤ ((degree : α) - 1) * guess := mul_nonneg (sub_nonneg.mpr least) above.le
  have quotient : 0 < radicand / guess ^ (degree - 1) := div_pos positive (pow_pos above _)
  exact div_pos (by linarith) (by linarith)

theorem tangent_le_pow {following : α} (above : 0 < guess) (above' : 0 < following) :
    guess ^ degree - (guess - following) * (degree * guess ^ (degree - 1)) ≤ following ^ degree := by
  have bernoulli := one_add_mul_sub_le_pow
    (by linarith [div_pos above' above] : -1 ≤ following / guess) degree
  have scaled := mul_le_mul_of_nonneg_right bernoulli (pow_pos above degree).le
  calc
    _ = (1 + degree * (following / guess - 1)) * guess ^ degree := by
      obtain ⟨less, rfl⟩ := Nat.exists_eq_add_of_le' whole
      rw [Nat.add_sub_cancel]
      field_simp
      ring
    _ ≤ (following / guess) ^ degree * guess ^ degree := scaled
    _ = following ^ degree := by rw [← mul_pow, div_mul_cancel₀ _ above.ne']

theorem radicand_le_next_pow (positive : 0 < radicand) (above : 0 < guess) :
    radicand ≤ next (degree : α) radicand guess (guess ^ (degree - 1)) ^ degree := by
  have tangent := tangent_le_pow whole above (next_pos whole positive above)
  rwa [sub_next_mul whole above.ne', sub_sub_cancel] at tangent

theorem slope_pos (above : 0 < guess) : 0 < (degree : α) * guess ^ (degree - 1) :=
  mul_pos (by exact_mod_cast whole) (pow_pos above _)

theorem next_le_iff (above : 0 < guess) :
    next (degree : α) radicand guess (guess ^ (degree - 1)) ≤ guess ↔ radicand ≤ guess ^ degree := by
  rw [← sub_nonneg, ← sub_nonneg (b := radicand), ← sub_next_mul whole above.ne',
    mul_nonneg_iff_of_pos_right (slope_pos whole above)]

theorem next_eq_iff (above : 0 < guess) :
    next (degree : α) radicand guess (guess ^ (degree - 1)) = guess ↔ guess ^ degree = radicand := by
  rw [eq_comm, ← sub_eq_zero, ← sub_eq_zero (b := radicand), ← sub_next_mul whole above.ne',
    mul_eq_zero, or_iff_left (slope_pos whole above).ne']

theorem next_pow_sub_le {tolerance : α} (positive : 0 < radicand) (above : 0 < guess)
    (beyond : radicand ≤ guess ^ degree)
    (small : guess - next (degree : α) radicand guess (guess ^ (degree - 1)) ≤
      tolerance * next (degree : α) radicand guess (guess ^ (degree - 1))) :
    next (degree : α) radicand guess (guess ^ (degree - 1)) ^ degree - radicand ≤
      degree * tolerance * guess ^ degree := by
  have following_pos := next_pos whole positive above
  have down := (next_le_iff whole above).mpr beyond
  have balance : (guess - next (degree : α) radicand guess (guess ^ (degree - 1))) *
      (degree * guess ^ (degree - 1)) = guess ^ degree - radicand := sub_next_mul whole above.ne'
  generalize next (degree : α) radicand guess (guess ^ (degree - 1)) = following at *
  have tolerant : 0 ≤ tolerance :=
    nonneg_of_mul_nonneg_left ((sub_nonneg.mpr down).trans small) following_pos
  have slope := (slope_pos whole above).le
  calc
    following ^ degree - radicand ≤ guess ^ degree - radicand :=
      sub_le_sub_right (pow_le_pow_left₀ following_pos.le down _) _
    _ = (guess - following) * (degree * guess ^ (degree - 1)) := balance.symm
    _ ≤ tolerance * guess * (degree * guess ^ (degree - 1)) :=
      mul_le_mul_of_nonneg_right (small.trans (mul_le_mul_of_nonneg_left down tolerant)) slope
    _ = degree * tolerance * guess ^ degree := by
      rw [← Nat.sub_add_cancel whole, pow_succ, Nat.add_sub_cancel]
      ring

variable (positive : 0 < radicand)

include positive

theorem unroundedGuess_pos (k : ℕ) : 0 < unroundedGuess degree radicand k := by
  induction k with
  | zero => exact div_pos positive (by exact_mod_cast whole)
  | succ k ih => exact next_pos whole positive ih

theorem radicand_le_unroundedGuess_pow (k : ℕ) :
    radicand ≤ unroundedGuess degree radicand (k + 1) ^ degree :=
  radicand_le_next_pow whole positive (unroundedGuess_pos whole positive k)

theorem unroundedPower?_guess (k : ℕ) :
    unroundedPower? degree (unroundedGuess degree radicand k) =
      some (unroundedGuess degree radicand k ^ (degree - 1)) :=
  if_neg (pow_pos (unroundedGuess_pos whole positive k) _).ne'

theorem guess?_unrounded (k steps : ℕ) :
    guess? (unroundedPower? degree) (degree : α) radicand steps (unroundedGuess degree radicand k) =
      some (unroundedGuess degree radicand (k + steps)) := by
  induction steps generalizing k with
  | zero => rfl
  | succ steps ih =>
    rw [guess?, unroundedPower?_guess whole positive, Option.bind_some, ← Nat.succ_add_eq_add_succ]
    exact ih (k + 1)

theorem settles_unrounded (tolerance : α) (k : ℕ) :
    Settles (unroundedPower? degree) (unroundedClose tolerance) (degree : α) radicand k
        (radicand / degree) ↔
      |unroundedGuess degree radicand (k + 1) - unroundedGuess degree radicand k| ≤
        tolerance * |unroundedGuess degree radicand (k + 1)| := by
  have found := guess?_unrounded whole positive 0
  simp only [unroundedGuess, Nat.zero_add] at found
  simp [Settles, found, unroundedClose]

theorem descend_unrounded (tolerance : α) (total k : ℕ) :
    ∃ steps ≤ total, descend (unroundedPower? degree) (unroundedClose tolerance) (degree : α) radicand
      total (unroundedGuess degree radicand k) = some (unroundedGuess degree radicand (k + steps)) := by
  induction total generalizing k with
  | zero => exact ⟨0, Nat.le_refl _, rfl⟩
  | succ total ih =>
    rw [descend, unroundedPower?_guess whole positive]
    dsimp only
    split
    · exact ⟨1, Nat.succ_le_succ (Nat.zero_le _), rfl⟩
    · obtain ⟨steps, few, found⟩ := ih (k + 1)
      exact ⟨steps + 1, Nat.succ_le_succ few, by rw [← Nat.succ_add_eq_add_succ]; exact found⟩

end

/-- Newton's recurrence without rounding, for a whole degree and a radicand above zero. All guesses are
positive, so that nothing is divided by zero and every descent comes to a guess; from the second on they
lie above the root and fall, up to one that is the root; and a descent that stops at one of these for a
step that is small against the guess it leads to returns that guess, which is then close to the root. -/
theorem newton_unrounded (whole : 1 ≤ degree) (positive : 0 < radicand) :
    let guess := unroundedGuess degree radicand
    let root (tolerance : α) (total : ℕ) := descend (unroundedPower? degree)
      (unroundedClose tolerance) (degree : α) radicand total (radicand / degree)
    (∀ k, 0 < guess k ∧
      guess? (unroundedPower? degree) (degree : α) radicand k (radicand / degree) = some (guess k)) ∧
    (∀ k, 1 ≤ k → radicand ≤ guess k ^ degree ∧ guess (k + 1) ≤ guess k ∧
      (guess (k + 1) = guess k ↔ guess k ^ degree = radicand)) ∧
    ∀ (tolerance : α) (total : ℕ),
      (∃ k ≤ total, root tolerance total = some (guess k)) ∧
      ∀ k, 1 ≤ k → k < total →
        (∀ earlier < k, ¬ |guess (earlier + 1) - guess earlier| ≤
          tolerance * |guess (earlier + 1)|) →
        guess k - guess (k + 1) ≤ tolerance * guess (k + 1) →
          root tolerance total = some (guess (k + 1)) ∧
            0 ≤ guess (k + 1) ^ degree - radicand ∧
              guess (k + 1) ^ degree - radicand ≤ degree * tolerance * guess k ^ degree := by
  intro guess root
  have above := unroundedGuess_pos whole positive
  have found := guess?_unrounded whole positive 0
  have comes (tolerance : α) (total : ℕ) := descend_unrounded whole positive tolerance total 0
  simp only [unroundedGuess, Nat.zero_add] at found comes
  have falls (k : ℕ) (later : 1 ≤ k) : radicand ≤ guess k ^ degree ∧ guess (k + 1) ≤ guess k := by
    obtain ⟨k, rfl⟩ := Nat.exists_eq_add_of_le' later
    have beyond := radicand_le_unroundedGuess_pow whole positive k
    exact ⟨beyond, (next_le_iff whole (above (k + 1))).mpr beyond⟩
  refine ⟨fun k => ⟨above k, found k⟩, fun k later => ?_, fun tolerance total => ⟨comes tolerance total, ?_⟩⟩
  · obtain ⟨beyond, down⟩ := falls k later
    exact ⟨beyond, down, next_eq_iff whole (above k)⟩
  · intro k later early unsettled small
    obtain ⟨beyond, down⟩ := falls k later
    refine ⟨descend_eq_some_iff.mpr (.inl ⟨k, early, ?_, ?_, found (k + 1)⟩), ?_, ?_⟩
    · intro earlier before
      rw [settles_unrounded whole positive]
      exact unsettled earlier before
    · rw [settles_unrounded whole positive, abs_sub_comm, abs_of_nonneg (sub_nonneg.mpr down),
        abs_of_pos (above (k + 1))]
      exact small
    · exact sub_nonneg.mpr (radicand_le_unroundedGuess_pow whole positive k)
    · exact next_pow_sub_le whole positive (above k) beyond small

end

theorem newton_unrounded_nine :
    unroundedGuess 2 (9 : ℚ) 1 = 13 / 4 ∧ unroundedGuess 2 (9 : ℚ) 2 = 313 / 104 ∧
      descend (unroundedPower? 2) (unroundedClose (1 / 10)) (2 : ℚ) 9 25 (9 / 2) = some (313 / 104) ∧
        0 ≤ (313 / 104 : ℚ) ^ 2 - 9 ∧ (313 / 104 : ℚ) ^ 2 - 9 ≤ 2 * (1 / 10) * (13 / 4) ^ 2 := by
  have first : unroundedGuess 2 (9 : ℚ) 1 = 13 / 4 := by decide +kernel
  have second : unroundedGuess 2 (9 : ℚ) 2 = 313 / 104 := by decide +kernel
  have wide : ∀ earlier < 1, ¬ |unroundedGuess 2 (9 : ℚ) (earlier + 1) - unroundedGuess 2 9 earlier| ≤
      1 / 10 * |unroundedGuess 2 (9 : ℚ) (earlier + 1)| := by
    decide +kernel
  have small : unroundedGuess 2 (9 : ℚ) 1 - unroundedGuess 2 9 2 ≤ 1 / 10 * unroundedGuess 2 9 2 := by
    decide +kernel
  have stops := (@newton_unrounded ℚ _ _ _ 2 9 (by decide) (by decide)).2.2
  obtain ⟨found, close⟩ := (stops (1 / 10) 25).2 1 (Nat.le_refl 1) (by decide) wide small
  rw [second, first] at close
  rw [second] at found
  exact ⟨first, second, found, close⟩

end PlotScript.Root

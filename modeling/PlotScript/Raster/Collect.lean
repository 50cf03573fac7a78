namespace PlotScript

section

variable {ε α : Type}

/-- Adds the values at `done`, `done + 1` and so on until there are `total`. -/
def collectFrom (total : Nat) (f : Nat → Except ε α) :
    (remaining done : Nat) → done + remaining = total → Vector α done → Except ε (Vector α total)
  | 0, _, full, values => .ok (values.cast full)
  | remaining + 1, done, full, values =>
    match f done with
    | .error failure => .error failure
    | .ok value => collectFrom total f remaining (done + 1) (by omega) (values.push value)

def collect (total : Nat) (f : Nat → Except ε α) : Except ε (Vector α total) :=
  collectFrom total f total 0 (by omega) #v[]

private theorem collectFrom_ok {total : Nat} {f : Nat → Except ε α} {remaining done : Nat}
    {full : done + remaining = total} {values : Vector α done} {result : Vector α total}
    (before : ∀ i (h : i < done), f i = .ok values[i]) :
    collectFrom total f remaining done full values = .ok result ↔
      (∀ i (h : i < total), f i = .ok result[i]) ∧
        ∀ i (h : i < done), result[i] = values[i] := by
  induction remaining generalizing done with
  | zero =>
    simp only [collectFrom, Except.ok.injEq]
    constructor
    · intro same
      subst same
      refine ⟨fun i h => ?_, fun i h => by simp⟩
      simp [before i (by omega)]
    · rintro ⟨_, agree⟩
      ext i h
      simp [agree i (by omega)]
  | succ remaining ih =>
    unfold collectFrom
    split
    · next failure failed =>
      simp only [reduceCtorEq, false_iff]
      rintro ⟨all, _⟩
      have found := all done (by omega)
      rw [failed] at found
      cases found
    · next value computed =>
      rw [ih]
      · constructor
        · rintro ⟨all, agree⟩
          refine ⟨all, fun i h => ?_⟩
          rw [agree i (by omega), Vector.getElem_push_lt h]
        · rintro ⟨all, agree⟩
          refine ⟨all, fun i h => ?_⟩
          rcases Nat.lt_succ_iff_lt_or_eq.mp h with below | same
          · rw [agree i below, Vector.getElem_push_lt below]
          · subst same
            have found := all i (by omega)
            rw [computed] at found
            cases found
            simp
      · intro i h
        rcases Nat.lt_succ_iff_lt_or_eq.mp h with below | same
        · rw [before i below, Vector.getElem_push_lt below]
        · subst same
          simp [computed]

theorem collect_eq_ok_iff {total : Nat} {f : Nat → Except ε α} {result : Vector α total} :
    collect total f = .ok result ↔ ∀ i (h : i < total), f i = .ok result[i] := by
  rw [collect, collectFrom_ok (fun i h => absurd h (Nat.not_lt_zero i))]
  exact ⟨fun found => found.1, fun all => ⟨all, fun i h => absurd h (Nat.not_lt_zero i)⟩⟩

private theorem collectFrom_error {total : Nat} {f : Nat → Except ε α} {remaining done : Nat}
    {full : done + remaining = total} {values : Vector α done} {failure : ε} :
    collectFrom total f remaining done full values = .error failure ↔
      ∃ i, done ≤ i ∧ i < total ∧ f i = .error failure ∧
        ∀ j, done ≤ j → j < i → ∃ value, f j = .ok value := by
  induction remaining generalizing done with
  | zero =>
    simp only [collectFrom, reduceCtorEq, false_iff]
    rintro ⟨i, above, below, _⟩
    omega
  | succ remaining ih =>
    unfold collectFrom
    split
    · next found failed =>
      constructor
      · intro same
        cases same
        exact ⟨done, Nat.le_refl _, by omega, failed, fun j above below => by omega⟩
      · rintro ⟨i, above, below, wrong, earlier⟩
        rcases Nat.eq_or_lt_of_le above with same | later
        · subst same
          rw [failed] at wrong
          exact (Except.error.inj wrong) ▸ rfl
        · obtain ⟨value, computed⟩ := earlier done (Nat.le_refl _) later
          rw [failed] at computed
          cases computed
    · next value computed =>
      rw [ih]
      constructor
      · rintro ⟨i, above, below, wrong, earlier⟩
        refine ⟨i, by omega, below, wrong, fun j low high => ?_⟩
        rcases Nat.eq_or_lt_of_le low with same | later
        · subst same
          exact ⟨value, computed⟩
        · exact earlier j later high
      · rintro ⟨i, above, below, wrong, earlier⟩
        rcases Nat.eq_or_lt_of_le above with same | later
        · subst same
          rw [computed] at wrong
          cases wrong
        · exact ⟨i, later, below, wrong, fun j low high => earlier j (by omega) high⟩

theorem collect_eq_error_iff {total : Nat} {f : Nat → Except ε α} {failure : ε} :
    collect total f = .error failure ↔
      ∃ i, i < total ∧ f i = .error failure ∧ ∀ j, j < i → ∃ value, f j = .ok value := by
  rw [collect, collectFrom_error]
  simp

end

end PlotScript

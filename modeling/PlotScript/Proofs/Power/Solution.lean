import PlotScript.Equation
import PlotScript.Proofs.Choices
import PlotScript.Proofs.Descent
import PlotScript.Proofs.Power

/-!
The values of a power solved for its base. The root of the solution has no sign of its own, so it
stands for the principal root and its negation under every exponent: both have the same power under
an even exponent, and opposite ones under an odd exponent.
-/

namespace PlotScript

open Binary64 Branches

theorem Root.principal_eq (degree radicand : Float) :
    Root.principal degree radicand = .ok (Choices.rootOf? (degree, radicand)) := by
  rw [Choices.rootOf?]
  cases found : Root.principal degree radicand with
  | ok root? => rfl
  | error fault =>
    exfalso
    rw [Root.principal] at found
    split at found
    · next real =>
      rw [Root.newton, Root.degree_ne_zero real] at found
      split at found <;> cases found
    · cases found

namespace Equation

section

variable {degree radicand : Float} {limit : Int} {x : Float} {span span' span'' : Option Span}

theorem constant_root_branches :
    (Node.root (.number degree span) (.number radicand span') false span'').branches limit x =
      match Choices.rootOf? (degree, radicand) with
      | none => .ok []
      | some root =>
        if limit < 2 then
          .error (.of (.tooManyBranches
            (.root (.number degree span) (.number radicand span') false span'') 2 limit) span'')
        else .ok [root, -root] := by
  simp only [Node.branches, Outcome.ok_bind, pairs, List.flatMap_cons, List.map_cons, List.map_nil,
    List.flatMap_nil, List.append_nil, roots, Root.principal_eq]
  cases Choices.rootOf? (degree, radicand) with
  | none => rfl
  | some root =>
    have both : signs false root = [root, -root] := rfl
    simp only [both, within]
    by_cases short : limit < 2
    · rw [if_pos short, if_pos (show limit < ((0 + [root, -root].length : Nat) : Int) from short)]
      rfl
    · rw [if_neg short, if_neg (show ¬ limit < ((0 + [root, -root].length : Nat) : Int) from short)]
      rfl

theorem constant_root_values {values : List Float}
    (found : (Node.root (.number degree span) (.number radicand span') false span'').branches limit x =
      .ok values) :
    Root.principal degree radicand = .ok none ∧ values = [] ∨
      ∃ root, Root.principal degree radicand = .ok (some root) ∧ values = [root, -root] := by
  rw [constant_root_branches] at found
  rw [Root.principal_eq]
  cases root? : Choices.rootOf? (degree, radicand) with
  | none =>
    rw [root?] at found
    cases found
    exact .inl ⟨rfl, rfl⟩
  | some root =>
    simp only [root?] at found
    split at found
    · cases found
    · cases found
      exact .inr ⟨root, rfl, rfl⟩

theorem constant_root_values_of_le (room : 2 ≤ limit) :
    ∃ values, (Node.root (.number degree span) (.number radicand span') false span'').branches limit x =
      .ok values := by
  rw [constant_root_branches]
  cases Choices.rootOf? (degree, radicand) with
  | none => exact ⟨[], rfl⟩
  | some root => exact ⟨[root, -root], if_neg (Int.not_lt.mpr room)⟩

end

/-- A solved power has no value, or the principal root and its negation, under every exponent. An even
exponent gives both the same power, and an odd one opposite powers, as far as doubles tell odd numbers. -/
theorem solve_power_branches {exponent : Nat} (positive : 0 < exponent) {degree : Float}
    (converted : ofInt? exponent = some degree) (radicand : Float)
    (inner outer known whole : Option Span) :
    ∃ solved, solve (.power (.symbol boundName inner) (.number degree known) outer)
        (.number radicand whole) = some solved ∧
      ∀ (limit : Int) (x : Float),
        (2 ≤ limit → ∃ values, solved.branches limit x = .ok values) ∧
        ∀ values, solved.branches limit x = .ok values →
          (Root.principal degree radicand = .ok none ∧ values = [] ∨
            ∃ root, Root.principal degree radicand = .ok (some root) ∧ values = [root, -root]) ∧
          (exponent % 2 = 0 ∨ 2 ^ 53 ≤ exponent → ∀ v ∈ values, ∀ w ∈ values,
            Power.power v degree = Power.power w degree) ∧
          (exponent % 2 = 1 → exponent < 2 ^ 53 → ∀ v ∈ values,
            Power.power (-v) degree = -Power.power v degree) := by
  refine ⟨.root (.number degree known) (.number radicand whole) false (Span.hull? outer whole), rfl, ?_⟩
  intro limit x
  refine ⟨constant_root_values_of_le, fun values found => ?_⟩
  have shape := constant_root_values found
  refine ⟨shape, fun even => ?_, fun odd small v _ => ?_⟩
  · rcases shape with ⟨_, rfl⟩ | ⟨root, _, rfl⟩
    · exact fun v member => absurd member List.not_mem_nil
    · have same : Power.power (-root) degree = Power.power root degree :=
        Power.power_neg_of_even (Power.parity?_of_even positive even converted)
      simp [same]
  · exact Power.power_neg_of_odd (Power.parity?_of_odd odd small converted)

theorem solve_power_branches_square : ∃ solved,
    solve (.power (.symbol "y" none) (.number 2 none) none) (.number 4 none) = some solved ∧
      solved.branches 2 0 = .ok [2, -2] ∧ Power.power 2 2 = Power.power (-2) 2 := by
  have converted : ofInt? (2 : Nat) = some 2 := by decide +kernel
  obtain ⟨solved, found, branched⟩ :=
    solve_power_branches (by decide) converted 4 none none none none
  have values : solved.branches 2 0 = .ok [2, -2] := by
    cases found
    decide +kernel
  obtain ⟨_, same, _⟩ := (branched 2 0).2 [2, -2] values
  exact ⟨solved, found, values, same (.inl rfl) 2 (by simp) (-2) (by simp)⟩

/-- Of the values of `y` in `y ^ 1 = 4`, which are `4` and `-4`, only the first is a solution. -/
theorem spurious_branch_linear : ¬ ∀ (exponent : Nat) (degree radicand : Float) (limit : Int)
    (x : Float) (solved : Node) (values : List Float), 0 < exponent →
      ofInt? exponent = some degree → radicand.isFinite →
      solve (.power (.symbol "y" none) (.number degree none) none) (.number radicand none) =
        some solved →
      solved.branches limit x = .ok values →
        ∀ v ∈ values, ∀ w ∈ values, Power.power v degree == Power.power w degree := by
  intro unambiguous
  have converted : ofInt? (1 : Nat) = some 1 := by decide +kernel
  have values : (Node.root (.number 1 none) (.number 4 none) false none).branches 4096 0 =
      .ok [4, -4] := by decide +kernel
  have same := unambiguous 1 1 4 4096 0 _ [4, -4] (by decide) converted (by decide +kernel) rfl values
    4 (by simp) (-4) (by simp)
  exact absurd same (by decide +kernel)

end Equation

end PlotScript

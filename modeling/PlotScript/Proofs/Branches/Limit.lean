import PlotScript.Proofs.Power.Solution
import PlotScript.Raster.Render

namespace PlotScript

open Branches Outcome

def Failure.IsExcess : Failure → Prop
  | .diagnostic found => found.kind = "BranchLimitError"
  | _ => False

/-- The other outcome is the same, unless the first is that there are too many branches. -/
def Kept {α : Type} (outcome other : Except Failure α) : Prop :=
  (∃ failure, outcome = .error failure ∧ failure.IsExcess) ∨ outcome = other

namespace Kept

variable {α β : Type} {outcome other : Except Failure α}

theorem rfl : Kept outcome outcome := .inr (Eq.refl outcome)

theorem ok {value : α} (kept : Kept outcome other) (found : outcome = .ok value) :
    other = .ok value := by
  rcases kept with ⟨failure, failed, _⟩ | same
  · rw [found] at failed
    cases failed
  · rw [← same, found]

theorem error {failure : Failure} (kept : Kept outcome other) (failed : outcome = .error failure)
    (proper : ¬ failure.IsExcess) : other = .error failure := by
  rcases kept with ⟨excess, failed', isExcess⟩ | same
  · rw [failed] at failed'
    cases failed'
    exact absurd isExcess proper
  · rw [← same, failed]

theorem bind {next next' : α → Except Failure β} (kept : Kept outcome other)
    (later : ∀ value, Kept (next value) (next' value)) :
    Kept (outcome >>= next) (other >>= next') := by
  rcases kept with ⟨failure, failed, isExcess⟩ | same
  · rw [failed]
    exact .inl ⟨failure, Eq.refl _, isExcess⟩
  · rw [← same]
    cases outcome with
    | error failure => exact rfl
    | ok value => exact later value

theorem mapM {f g : α → Except Failure β} (each : ∀ a, Kept (f a) (g a)) (list : List α) :
    Kept (list.mapM f) (list.mapM g) := by
  induction list with
  | nil => exact rfl
  | cons a rest ih =>
    rw [List.mapM_cons, List.mapM_cons]
    exact (each a).bind fun _ => ih.bind fun _ => rfl

theorem collect {f g : Nat → Except Failure α} (each : ∀ i, Kept (f i) (g i)) (total : Nat) :
    Kept (PlotScript.collect total f) (PlotScript.collect total g) := by
  cases outcome : PlotScript.collect total f with
  | ok values =>
    refine .inr (collect_eq_ok_iff.mpr fun i small => ?_).symm
    exact (each i).ok (collect_eq_ok_iff.mp outcome i small)
  | error failure =>
    by_cases isExcess : failure.IsExcess
    · exact .inl ⟨failure, Eq.refl _, isExcess⟩
    · obtain ⟨i, small, failed, earlier⟩ := collect_eq_error_iff.mp outcome
      refine .inr (collect_eq_error_iff.mpr ⟨i, small, (each i).error failed isExcess, ?_⟩).symm
      intro j before
      obtain ⟨value, found⟩ := earlier j before
      exact ⟨value, (each j).ok found⟩

end Kept

section

variable {limit higher : Int} (above : limit ≤ higher)

include above

theorem within_kept (node : Node) (count : Nat) :
    Kept (within limit node count) (within higher node count) := by
  by_cases excess : limit < count
  · rw [within, if_pos excess]
    exact .inl ⟨_, rfl, rfl⟩
  · rw [within, within, if_neg excess, if_neg (by omega)]
    exact .rfl

theorem cross_kept (node : Node) (left right : List Float) :
    Kept (cross limit node left right) (cross higher node left right) :=
  (within_kept above node _).bind fun _ => .rfl

theorem roots_kept (node : Node) (explicit : Bool) (count : Nat) (pairs : List (Float × Float)) :
    Kept (roots limit node explicit count pairs) (roots higher node explicit count pairs) := by
  -- Until one of the runs ends, both compare the same count.
  induction pairs generalizing count with
  | nil => exact .rfl
  | cons pair rest ih =>
    obtain ⟨degree, radicand⟩ := pair
    rw [roots, roots]
    split
    · exact .rfl
    · exact ih count
    · exact (within_kept above node _).bind fun _ => (ih _).bind fun _ => .rfl

theorem Node.branches_kept (node : Node) (x : Float) :
    Kept (node.branches limit x) (node.branches higher x) := by
  induction node with
  | number _ _ | symbol _ _ | directive _ _ => exact .rfl
  | trig function argument span ih => exact ih.bind fun _ => .rfl
  | arithmetic operator left right span ih ih' | power left right span ih ih'
  | equals left right span ih ih' =>
    exact ih.bind fun a => ih'.bind fun b => (cross_kept above _ a b).bind fun _ => .rfl
  | root degree radicand explicit span ih ih' =>
    exact ih.bind fun a => ih'.bind fun b => roots_kept above _ explicit 0 _

theorem Layout.sample_kept (layout : Layout) (i width : Int) :
    Kept (layout.sample limit i width) (layout.sample higher i width) := by
  refine Kept.rfl.bind fun x₁ => Kept.rfl.bind fun x₂ => Kept.mapM (fun equation => ?_) _
  exact (equation.branches_kept above x₁).bind fun _ =>
    (equation.branches_kept above x₂).bind fun _ => .rfl

theorem Layout.render_kept (layout : Layout) :
    Kept (layout.render limit) (layout.render higher) :=
  (Kept.collect (fun i => layout.sample_kept above i _) _).bind fun _ => .rfl

end

/-- A higher limit takes nothing away and changes nothing: an evaluation or a picture that is there
stays as it is, and one that fails for any other reason than the limit fails in the same way. -/
theorem outcomes_above {limit higher : Int} (above : limit ≤ higher) :
    (∀ (node : Node) (x : Float),
      (∀ values, node.branches limit x = .ok values → node.branches higher x = .ok values) ∧
      ∀ failure, node.branches limit x = .error failure → ¬ failure.IsExcess →
        node.branches higher x = .error failure) ∧
    ∀ layout : Layout,
      (∀ raster, layout.render limit = .ok raster → layout.render higher = .ok raster) ∧
      ∀ failure, layout.render limit = .error failure → ¬ failure.IsExcess →
        layout.render higher = .error failure := by
  constructor
  · intro node x
    have kept := node.branches_kept above x
    exact ⟨fun _ => kept.ok, fun _ => kept.error⟩
  · intro layout
    have kept := layout.render_kept above
    exact ⟨fun _ => kept.ok, fun _ => kept.error⟩

theorem outcomes_above_sum :
    let sum : Node := .arithmetic .add (.root (.number 1 none) (.number 4 none) false none)
      (.root (.number 1 none) (.symbol "x" none) false none) none
    let quotient : Node := .arithmetic .div (.number 1 none) (.symbol "x" none) none
    (4 : Int) ≤ 4096 ∧ sum.branches 3 1 = .error (.of (.tooManyBranches sum 4 3) none) ∧
      sum.branches 4096 1 = .ok [5, 3, -3, -5] ∧
        quotient.branches 4096 0 = .error (.of (.divisionByZero quotient 0) none) := by
  intro sum quotient
  have above : (4 : Int) ≤ 4096 := by decide
  have excess : sum.branches 3 1 = .error (.of (.tooManyBranches sum 4 3) none) := by decide +kernel
  have values : sum.branches 4 1 = .ok [5, 3, -3, -5] := by decide +kernel
  have failed : quotient.branches 4 0 = .error (.of (.divisionByZero quotient 0) none) := by
    decide +kernel
  have proper : ¬ (Failure.of (.divisionByZero quotient 0) none).IsExcess := by
    simp [Failure.of, Failure.IsExcess, Diagnostic.kind, Cause.kind]
  exact ⟨above, excess, ((outcomes_above above).1 sum 1).1 _ values,
    ((outcomes_above above).1 quotient 0).2 _ failed proper⟩

end PlotScript

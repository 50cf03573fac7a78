import PlotScript.Proofs.Branches
import PlotScript.Proofs.Drawing.Pixels

/-!
Where a picture fails: at the edges of its columns when the numbers of the frame are too large for
doubles, then at its evaluations, and at the edges of its rows last.
-/

namespace PlotScript

open Outcome

def Fits (origin extent : Int) : Prop :=
  (Binary64.ofInt? origin).isSome ∧ (Binary64.ofInt? extent).isSome

instance (origin extent : Int) : Decidable (Fits origin extent) :=
  inferInstanceAs (Decidable (_ ∧ _))

theorem coordinate_unfit {origin extent pixel resolution : Int} (unfit : ¬ Fits origin extent)
    (least : 0 ≤ pixel) (positive : 0 < resolution) (most : pixel ≤ resolution) :
    Frame.coordinate origin extent pixel resolution = .error .integerOutOfRange := by
  have fraction := Binary64.ofQuotient?_fraction least positive most
  obtain ⟨part, known⟩ := Option.isSome_iff_exists.mp fraction
  rw [Frame.coordinate, if_neg (Int.ne_of_gt positive), known]
  dsimp only
  split
  · next length start found found' => exact absurd (by simp [Fits, found, found']) unfit
  · rfl

namespace Layout

variable {layout : Layout} {limit : Int} {columns : Nat → Float}

theorem render_unfit_across (filled : 0 < layout.pixels.width.toNat)
    (unfit : ¬ Fits layout.frame.x layout.frame.width) :
    layout.render limit = .error (.fault .integerOutOfRange) := by
  let width := layout.pixels.width.toNat
  have positive : (0 : Int) < width := Int.natCast_pos.mpr filled
  have first : layout.sample limit (0 : Nat) width = .error (.fault .integerOutOfRange) := by
    have edge := coordinate_unfit unfit (Int.le_refl 0) positive (Int.le_of_lt positive)
    rw [sample, Int.ofNat_zero, edge]
    rfl
  have failed : collect width (fun i => layout.sample limit i width) =
      .error (.fault .integerOutOfRange) := by
    apply collect_eq_error_iff.mpr
    exact ⟨0, filled, first, fun j before => absurd before (Nat.not_lt_zero j)⟩
  rw [render]
  change collect width (fun i => layout.sample limit i width) >>= _ = _
  rw [failed]
  rfl

theorem settled_render_unfit
    (across : Edges layout.frame.x layout.frame.width layout.pixels.width.toNat columns)
    (filled : 0 < layout.pixels.height.toNat) (unfit : ¬ Fits layout.frame.y layout.frame.height) :
    settled (layout.render limit) =
      visit (evaluate limit) (layout.evaluations columns) >>= fun _ =>
        .error (.fault .integerOutOfRange) := by
  let width := layout.pixels.width.toNat
  let height := layout.pixels.height.toNat
  have first : layout.band (0 : Nat) height = .error (.fault .integerOutOfRange) := by
    have positive : (0 : Int) < height := Int.natCast_pos.mpr filled
    have edge : Frame.coordinate layout.frame.y layout.frame.height (height - (0 : Nat) - 1) height =
        .error .integerOutOfRange :=
      coordinate_unfit unfit (by omega) positive (by omega)
    simp only [band, edge]
    rfl
  have failed : collect height (fun j => layout.band j height) =
      .error (.fault .integerOutOfRange) := by
    apply collect_eq_error_iff.mpr
    exact ⟨0, filled, first, fun j before => absurd before (Nat.not_lt_zero j)⟩
  calc
    settled (layout.render limit) =
        settled (collect width fun i => layout.sample limit i width) >>= fun _ =>
          .error (.fault .integerOutOfRange) := by
      change settled (collect width (fun i => layout.sample limit i width) >>= fun _ =>
        collect height (fun j => layout.band j height) >>= _) = _
      rw [failed]
      cases collect width fun i => layout.sample limit i width <;> rfl
    _ = visit (evaluate limit) (layout.evaluations columns) >>= fun _ =>
          .error (.fault .integerOutOfRange) := by
      rw [settled_collect]
      congr 1
      apply visit_flatMap
      intro i member
      exact settled_sample across (List.mem_range.mp member)

/-- What a picture comes to, by what fits into doubles. -/
inductive Drawing (layout : Layout) (limit : Int) : Prop
  | tooWide : ¬ Fits layout.frame.x layout.frame.width →
      layout.render limit = .error (.fault .integerOutOfRange) → Drawing layout limit
  | tooHigh {columns : Nat → Float} :
      Edges layout.frame.x layout.frame.width layout.pixels.width.toNat columns →
        ¬ Fits layout.frame.y layout.frame.height →
          settled (layout.render limit) =
            (visit (evaluate limit) (layout.evaluations columns) >>= fun _ =>
              .error (.fault .integerOutOfRange)) → Drawing layout limit
  | drawn {columns rows : Nat → Float} :
      Edges layout.frame.x layout.frame.width layout.pixels.width.toNat columns →
        Edges layout.frame.y layout.frame.height layout.pixels.height.toNat rows →
          settled (layout.render limit) =
            visit (evaluate limit) (layout.evaluations columns) → Drawing layout limit

theorem Sized.drawing (sized : layout.Sized) (limit : Int) : layout.Drawing limit := by
  obtain ⟨wide, high⟩ := sized.pixels
  have filled : 0 < layout.pixels.width.toNat := Int.pos_iff_toNat_pos.mp wide
  have filled' : 0 < layout.pixels.height.toNat := Int.pos_iff_toNat_pos.mp high
  by_cases fits : Fits layout.frame.x layout.frame.width
  · obtain ⟨columns, across⟩ := edges_exist filled fits.1 fits.2
    by_cases fits' : Fits layout.frame.y layout.frame.height
    · obtain ⟨rows, up⟩ := edges_exist filled' fits'.1 fits'.2
      exact .drawn across up (settled_render across up)
    · exact .tooHigh across fits' (settled_render_unfit across filled' fits')
  · exact .tooWide fits (render_unfit_across filled fits)

theorem Sized.fails (sized : layout.Sized) {failure : Failure}
    (failed : layout.render limit = .error failure) :
    failure = .fault .integerOutOfRange ∨
      ∃ equation ∈ layout.equations, ∃ x, equation.branches limit x = .error failure := by
  have evaluated {columns : Nat → Float}
      (visited : visit (evaluate limit) (layout.evaluations columns) = .error failure) :
      ∃ equation ∈ layout.equations, ∃ x, equation.branches limit x = .error failure := by
    obtain ⟨before, evaluation, after, split, wrong, _⟩ := visit_eq_error_iff.mp visited
    have filled : 0 < layout.pixels.width.toNat := Int.pos_iff_toNat_pos.mp sized.pixels.1
    have member : evaluation ∈ layout.evaluations columns := by
      rw [split]
      exact List.mem_append_right before List.mem_cons_self
    exact ⟨evaluation.1, ((mem_evaluations filled).mp member).1, evaluation.2, wrong⟩
  have outcome := settled_eq_error_iff.mpr failed
  cases sized.drawing limit with
  | tooWide _ found =>
    rw [found, Except.error.injEq] at failed
    exact .inl failed.symm
  | tooHigh _ _ found =>
    rw [found, bind_eq_error_iff] at outcome
    rcases outcome with visited | ⟨_, _, same⟩
    · exact .inr (evaluated visited)
    · exact .inl (Except.error.inj same).symm
  | drawn _ _ found =>
    rw [found] at outcome
    exact .inr (evaluated outcome)

/-- The frame is too large for doubles, and no evaluation fails before that is found. -/
def TooLarge (layout : Layout) (limit : Int) : Prop :=
  ¬ Fits layout.frame.x layout.frame.width ∨
    ¬ Fits layout.frame.y layout.frame.height ∧
      ∃ columns, Edges layout.frame.x layout.frame.width layout.pixels.width.toNat columns ∧
        ∀ equation ∈ layout.equations, equation.Sampled limit columns layout.pixels.width.toNat

theorem visit_ne_fault {evaluations : List (Node × Float)} {fault : Fault} :
    visit (evaluate limit) evaluations ≠ .error (.fault fault) := by
  intro visited
  obtain ⟨_, evaluation, _, _, wrong, _⟩ := visit_eq_error_iff.mp visited
  obtain ⟨_, _, _, _, same⟩ := (evaluation.1.all_trivial).fails wrong
  cases same

theorem Sized.render_eq_fault_iff (sized : layout.Sized) {fault : Fault} :
    layout.render limit = .error (.fault fault) ↔
      fault = .integerOutOfRange ∧ layout.TooLarge limit := by
  obtain ⟨wide, high⟩ := sized.pixels
  have filled : 0 < layout.pixels.width.toNat := Int.pos_iff_toNat_pos.mp wide
  have filled' : 0 < layout.pixels.height.toNat := Int.pos_iff_toNat_pos.mp high
  constructor
  · intro failed
    have outcome := settled_eq_error_iff.mpr failed
    cases sized.drawing limit with
    | tooWide unfit found =>
      rw [found] at failed
      cases failed
      exact ⟨rfl, .inl unfit⟩
    | @tooHigh columns across unfit found =>
      rw [found, bind_eq_error_iff] at outcome
      rcases outcome with visited | ⟨_, visited, same⟩
      · exact absurd visited visit_ne_fault
      · cases same
        exact ⟨rfl, .inr ⟨unfit, columns, across, (visit_evaluations_iff sized).mp visited⟩⟩
    | drawn _ _ found =>
      rw [found] at outcome
      exact absurd outcome visit_ne_fault
  · rintro ⟨rfl, unfit | ⟨unfit, columns, across, sampled⟩⟩
    · exact render_unfit_across filled unfit
    · have visited := (visit_evaluations_iff sized).mpr sampled
      have outcome : settled (layout.render limit) = _ :=
        settled_render_unfit across filled' unfit
      rw [visited] at outcome
      exact settled_eq_error_iff.mp outcome

end Layout

end PlotScript

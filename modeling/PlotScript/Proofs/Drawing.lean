import PlotScript.Proofs.Layout
import PlotScript.Proofs.Outcome
import PlotScript.Proofs.Quotient
import PlotScript.Raster.Render

namespace PlotScript

open Outcome

def Raster.HasPixel (raster : Raster) (i j : Nat) : Prop :=
  ∃ (across : i < raster.width) (down : j < raster.height), raster.isOn ⟨i, across⟩ ⟨j, down⟩

instance (raster : Raster) (i j : Nat) : Decidable (raster.HasPixel i j) :=
  inferInstanceAs (Decidable (∃ (across : i < raster.width) (down : j < raster.height),
    raster.isOn ⟨i, across⟩ ⟨j, down⟩))

def Edges (origin extent : Int) (count : Nat) (place : Nat → Float) : Prop :=
  ∀ k ≤ count, Frame.coordinate origin extent k count = .ok (place k)

theorem Frame.coordinate_eq_ok_iff {origin extent pixel resolution : Int} {edge : Float} :
    Frame.coordinate origin extent pixel resolution = .ok edge ↔
      resolution ≠ 0 ∧ ∃ part length start, Binary64.ofQuotient? pixel resolution = some part ∧
        Binary64.ofInt? extent = some length ∧ Binary64.ofInt? origin = some start ∧
          edge = start + length * part := by
  rw [Frame.coordinate]
  by_cases zero : resolution = 0
  · simp [zero]
  · cases Binary64.ofQuotient? pixel resolution <;> cases Binary64.ofInt? extent <;>
      cases Binary64.ofInt? origin <;> simp [zero, eq_comm]

theorem Frame.coordinate_exists {origin extent pixel resolution : Int} (filled : 0 < resolution)
    (fits : (Binary64.ofInt? origin).isSome) (fits' : (Binary64.ofInt? extent).isSome)
    (least : 0 ≤ pixel) (most : pixel ≤ resolution) :
    ∃ edge, Frame.coordinate origin extent pixel resolution = .ok edge := by
  obtain ⟨start, begins⟩ := Option.isSome_iff_exists.mp fits
  obtain ⟨length, spans⟩ := Option.isSome_iff_exists.mp fits'
  obtain ⟨part, divided⟩ :=
    Option.isSome_iff_exists.mp (Binary64.ofQuotient?_fraction least filled most)
  exact ⟨_, coordinate_eq_ok_iff.mpr ⟨Int.ne_of_gt filled, _, _, _, divided, spans, begins, rfl⟩⟩

theorem edges_exist {origin extent : Int} {count : Nat} (filled : 0 < count)
    (fits : (Binary64.ofInt? origin).isSome) (fits' : (Binary64.ofInt? extent).isSome) :
    ∃ place, Edges origin extent count place := by
  refine ⟨fun k => (Frame.coordinate origin extent k count).toOption.getD 0, fun k within => ?_⟩
  obtain ⟨value, known⟩ := Frame.coordinate_exists (Int.natCast_pos.mpr filled) fits fits'
    (Int.natCast_nonneg k) (Int.ofNat_le.mpr within)
  simp only [known]
  rfl

theorem fits_of_coordinate {origin extent pixel resolution : Int} {place : Float}
    (computed : Frame.coordinate origin extent pixel resolution = .ok place) :
    (Binary64.ofInt? origin).isSome ∧ (Binary64.ofInt? extent).isSome := by
  obtain ⟨_, _, _, _, _, spans, begins, _⟩ := Frame.coordinate_eq_ok_iff.mp computed
  simp [spans, begins]

namespace Layout

/-- The evaluations that a picture needs, in the order in which they are made. -/
def evaluations (layout : Layout) (place : Nat → Float) : List (Node × Float) :=
  (List.range layout.pixels.width.toNat).flatMap fun i =>
    layout.equations.flatMap fun equation => [(equation, place i), (equation, place (i + 1))]

def evaluate (limit : Int) (evaluation : Node × Float) : Except Failure (List Float) :=
  evaluation.1.branches limit evaluation.2

section

variable {layout : Layout} {limit : Int} {count : Nat} {place : Nat → Float}

theorem sample_eq (edges : Edges layout.frame.x layout.frame.width count place) {i : Nat}
    (small : i < count) :
    layout.sample limit i count = layout.equations.mapM fun equation => do
      return ⟨← equation.branches limit (place i), ← equation.branches limit (place (i + 1))⟩ := by
  have left := edges i (Nat.le_of_lt small)
  have right := edges (i + 1) small
  rw [Int.natCast_succ] at right
  rw [sample, left, right]
  rfl

theorem settled_sample (edges : Edges layout.frame.x layout.frame.width count place) {i : Nat}
    (small : i < count) :
    settled (layout.sample limit i count) = visit (evaluate limit)
      (layout.equations.flatMap fun equation => [(equation, place i), (equation, place (i + 1))]) := by
  rw [sample_eq edges small, settled_mapM]
  apply visit_flatMap
  intro equation _
  simp only [visit, evaluate]
  cases equation.branches limit (place i) with
  | error failure => rfl
  | ok left => cases equation.branches limit (place (i + 1)) <;> rfl

theorem band_eq (edges : Edges layout.frame.y layout.frame.height count place) {j : Nat}
    (small : j < count) :
    layout.band j count = .ok ⟨place (count - j - 1), place (count - j)⟩ := by
  have bottom := edges (count - j - 1) (by omega)
  have top := edges (count - j) (by omega)
  have row : ((count - j : Nat) : Int) = count - j := by omega
  have below : ((count - j - 1 : Nat) : Int) = count - j - 1 := by omega
  rw [row] at top
  rw [below] at bottom
  simp only [band, bottom, top]
  rfl

theorem bands_exist (edges : Edges layout.frame.y layout.frame.height count place) :
    ∃ bands, collect count (fun j => layout.band j count) = .ok bands ∧
      ∀ j (small : j < count), bands[j] = ⟨place (count - j - 1), place (count - j)⟩ := by
  refine ⟨Vector.ofFn fun j => ⟨place (count - j - 1), place (count - j)⟩, ?_, ?_⟩
  · apply collect_eq_ok_iff.mpr
    intro j small
    rw [band_eq edges small, Vector.getElem_ofFn]
  · intro j small
    rw [Vector.getElem_ofFn]

theorem mem_evaluations (filled : 0 < layout.pixels.width.toNat) {evaluation : Node × Float} :
    evaluation ∈ layout.evaluations place ↔ evaluation.1 ∈ layout.equations ∧
      ∃ k ≤ layout.pixels.width.toNat, evaluation.2 = place k := by
  simp only [evaluations, List.mem_flatMap, List.mem_range, List.mem_cons, List.not_mem_nil, or_false]
  constructor
  · intro ⟨i, small, equation, member, side⟩
    rcases side with rfl | rfl
    · exact ⟨member, i, Nat.le_of_lt small, rfl⟩
    · exact ⟨member, i + 1, small, rfl⟩
  · intro ⟨member, k, within, same⟩
    obtain ⟨equation, x⟩ := evaluation
    subst same
    by_cases last : k < layout.pixels.width.toNat
    · exact ⟨k, last, equation, member, .inl rfl⟩
    · obtain ⟨i, rfl⟩ := Nat.exists_eq_add_one_of_ne_zero (by omega : k ≠ 0)
      exact ⟨i, within, equation, member, .inr rfl⟩

theorem isOn_iff (band : Band) (samples : Samples) :
    band.isOn samples ↔ ∃ l ∈ samples.left, ∃ r ∈ samples.right,
      (band.bottom ≤ l ∧ r ≤ band.top) ∨ (l ≤ band.bottom ∧ band.top ≤ r) := by
  simp [Band.isOn, Band.straddledBy]

end

section

variable {layout : Layout} {limit : Int} {columns rows : Nat → Float}
  (across : Edges layout.frame.x layout.frame.width layout.pixels.width.toNat columns)
  (up : Edges layout.frame.y layout.frame.height layout.pixels.height.toNat rows)

include across up

theorem settled_render :
    settled (layout.render limit) = visit (evaluate limit) (layout.evaluations columns) := by
  obtain ⟨bands, banded, _⟩ := bands_exist up
  let width := layout.pixels.width.toNat
  calc
    settled (layout.render limit) = settled (collect width fun i => layout.sample limit i width) := by
      simp only [render, banded]
      cases collect width fun i => layout.sample limit i width <;> rfl
    _ = visit (fun i : Nat => layout.sample limit i width) (List.range width) :=
      settled_collect width _
    _ = visit (evaluate limit) (layout.evaluations columns) := by
      apply visit_flatMap
      intro i member
      exact settled_sample across (List.mem_range.mp member)

theorem render_pixel {raster : Raster} (rendered : layout.render limit = .ok raster) :
    raster.width = layout.pixels.width.toNat ∧ raster.height = layout.pixels.height.toNat ∧
      ∀ (i : Fin raster.width) (j : Fin raster.height), raster.isOn i j ↔
        ∃ equation ∈ layout.equations, ∃ left right,
          equation.branches limit (columns i) = .ok left ∧
          equation.branches limit (columns (i + 1)) = .ok right ∧
          ∃ l ∈ left, ∃ r ∈ right,
            (rows (raster.height - j - 1) ≤ l ∧ r ≤ rows (raster.height - j)) ∨
              (l ≤ rows (raster.height - j - 1) ∧ rows (raster.height - j) ≤ r) := by
  obtain ⟨bands, banded, placed⟩ := bands_exist up
  simp only [render, banded, bind_eq_ok_iff] at rendered
  obtain ⟨samples, sampled, _, found, finished⟩ := rendered
  cases found
  cases finished
  refine ⟨rfl, rfl, fun i j => ?_⟩
  have column := collect_eq_ok_iff.mp sampled i i.isLt
  rw [sample_eq across i.isLt] at column
  have pixel : Raster.isOn ⟨_, _, samples.map fun column => bands.map fun band => column.any band.isOn⟩
      i j = samples[i].any bands[j].isOn := by
    simp [Raster.isOn]
  have band : bands[j] = ⟨rows (_ - j - 1), rows (_ - j)⟩ := placed j j.isLt
  rw [pixel, List.any_eq_true]
  constructor
  · intro ⟨pair, member, on⟩
    obtain ⟨equation, listed, evaluated⟩ := (mem_of_mapM column pair).mp member
    simp only [bind_eq_ok_iff] at evaluated
    obtain ⟨left, first, right, second, paired⟩ := evaluated
    cases paired
    rw [isOn_iff, band] at on
    exact ⟨equation, listed, left, right, first, second, on⟩
  · intro ⟨equation, listed, left, right, first, second, crossed⟩
    refine ⟨⟨left, right⟩, (mem_of_mapM column _).mpr ⟨equation, listed, ?_⟩, ?_⟩
    · rw [first, second]
      rfl
    · rw [isOn_iff, band]
      exact crossed

theorem evaluated_of_render (filled : 0 < layout.pixels.width.toNat) {raster : Raster}
    (rendered : layout.render limit = .ok raster) {equation : Node}
    (listed : equation ∈ layout.equations) {k : Nat} (inside : k ≤ layout.pixels.width.toNat) :
    ∃ values, equation.branches limit (columns k) = .ok values := by
  have outcome : settled (layout.render limit) =
      visit (evaluate limit) (layout.evaluations columns) := settled_render across up
  rw [settled_eq_ok_iff.mpr ⟨raster, rendered⟩] at outcome
  have all := visit_eq_ok_iff.mp outcome.symm
  exact all (equation, columns k) ((mem_evaluations filled).mpr ⟨listed, k, inside, rfl⟩)

end

theorem edges_of_render {layout : Layout} (sized : layout.Sized) {limit : Int} {raster : Raster}
    (rendered : layout.render limit = .ok raster) :
    ∃ columns rows, Edges layout.frame.x layout.frame.width layout.pixels.width.toNat columns ∧
      Edges layout.frame.y layout.frame.height layout.pixels.height.toNat rows := by
  obtain ⟨wide, high⟩ := sized.pixels
  have filled : 0 < layout.pixels.width.toNat := Int.pos_iff_toNat_pos.mp wide
  have filled' : 0 < layout.pixels.height.toNat := Int.pos_iff_toNat_pos.mp high
  simp only [render, bind_eq_ok_iff] at rendered
  obtain ⟨samples, sampled, bands, banded, _⟩ := rendered
  obtain ⟨_, left, _⟩ := mapError_bind_eq_ok (collect_eq_ok_iff.mp sampled 0 filled)
  obtain ⟨_, bottom, _⟩ := mapError_bind_eq_ok (collect_eq_ok_iff.mp banded 0 filled')
  obtain ⟨fits, fits'⟩ := fits_of_coordinate left
  obtain ⟨columns, across⟩ := edges_exist filled fits fits'
  obtain ⟨fits, fits'⟩ := fits_of_coordinate bottom
  obtain ⟨rows, up⟩ := edges_exist filled' fits fits'
  exact ⟨columns, rows, across, up⟩

/-- A layout is drawn just when its equations have values at every edge of a column, and a pixel is
on just when values of one equation straddle its row; otherwise the first evaluation that fails
says how. -/
theorem render_spec (nodes : List Node) {layout : Layout}
    (produced : (Interpretation.ofNodes nodes).layout = layout)
    (fits : ∀ number ∈ [layout.frame.x, layout.frame.y, layout.frame.width, layout.frame.height],
      (Binary64.ofInt? number).isSome) (limit : Int) :
    ∃ columns rows : Nat → Float,
      Edges layout.frame.x layout.frame.width layout.pixels.width.toNat columns ∧
      Edges layout.frame.y layout.frame.height layout.pixels.height.toNat rows ∧
      ((∃ raster, layout.render limit = .ok raster) ↔
        ∀ equation ∈ layout.equations, ∀ k ≤ layout.pixels.width.toNat,
          ∃ values, equation.branches limit (columns k) = .ok values) ∧
      (∀ raster, layout.render limit = .ok raster →
        (raster.width : Int) = layout.pixels.width ∧ (raster.height : Int) = layout.pixels.height ∧
        ∀ (i : Fin raster.width) (j : Fin raster.height), raster.isOn i j ↔
          ∃ equation ∈ layout.equations, ∃ left right,
            equation.branches limit (columns i) = .ok left ∧
            equation.branches limit (columns (i + 1)) = .ok right ∧
            ∃ l ∈ left, ∃ r ∈ right,
              (rows (raster.height - j - 1) ≤ l ∧ r ≤ rows (raster.height - j)) ∨
                (l ≤ rows (raster.height - j - 1) ∧ rows (raster.height - j) ≤ r)) ∧
      ∀ failure, layout.render limit = .error failure ↔
        ∃ before evaluation after, layout.evaluations columns = before ++ evaluation :: after ∧
          evaluate limit evaluation = .error failure ∧
          ∀ earlier ∈ before, ∃ values, evaluate limit earlier = .ok values := by
  have sized : layout.Sized := produced ▸ Interpretation.ofNodes_sized nodes
  obtain ⟨wide, high⟩ := sized.pixels
  obtain ⟨columns, across⟩ := edges_exist (Int.pos_iff_toNat_pos.mp wide)
    (fits layout.frame.x (by simp)) (fits layout.frame.width (by simp))
  obtain ⟨rows, up⟩ := edges_exist (Int.pos_iff_toNat_pos.mp high)
    (fits layout.frame.y (by simp)) (fits layout.frame.height (by simp))
  have outcome : settled (layout.render limit) =
      visit (evaluate limit) (layout.evaluations columns) := settled_render across up
  refine ⟨columns, rows, across, up, ?_, ?_, ?_⟩
  · rw [← settled_eq_ok_iff, outcome, visit_eq_ok_iff]
    have mem := @mem_evaluations layout columns (Int.pos_iff_toNat_pos.mp wide)
    constructor
    · intro all equation listed k within
      exact all (equation, columns k) (mem.mpr ⟨listed, k, within, rfl⟩)
    · intro all evaluation member
      obtain ⟨listed, k, within, same⟩ := mem.mp member
      obtain ⟨values, found⟩ := all evaluation.1 listed k within
      exact ⟨values, by rw [evaluate, same, found]⟩
  · intro raster rendered
    obtain ⟨width, height, pixels⟩ := render_pixel across up rendered
    exact ⟨by omega, by omega, pixels⟩
  · intro failure
    rw [← settled_eq_error_iff, outcome, visit_eq_error_iff]

theorem render_spec_diagonal : ∃ raster, (Interpretation.ofNodes
    [.directive (.frame 0 0 2 2) none, .equals (.symbol "y" none) (.symbol "x" none) none]).layout.render
      1 = .ok raster := by
  obtain ⟨columns, _, _, _, drawn, _⟩ := render_spec [.directive (.frame 0 0 2 2) none,
    .equals (.symbol "y" none) (.symbol "x" none) none] rfl (by decide +kernel) 1
  apply drawn.mpr
  intro equation member k _
  have diagonal : equation = .symbol "x" none := List.mem_singleton.mp member
  exact ⟨[columns k], by rw [diagonal]; rfl⟩

end Layout

end PlotScript

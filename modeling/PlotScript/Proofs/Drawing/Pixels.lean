import PlotScript.Proofs.Drawing

namespace PlotScript

open Outcome

theorem Raster.ext_pixels {raster other : Raster} (width : raster.width = other.width)
    (height : raster.height = other.height)
    (pixels : ∀ i j, raster.HasPixel i j ↔ other.HasPixel i j) : raster = other := by
  obtain ⟨wide, high, columns⟩ := raster
  obtain ⟨wide', high', columns'⟩ := other
  dsimp only at width height
  subst width height
  rw [Raster.mk.injEq]
  refine ⟨rfl, rfl, heq_of_eq ?_⟩
  ext i across j down
  have same := pixels i j
  simpa [Raster.HasPixel, Raster.isOn, across, down] using same

/-- A raster of the size of two others with the pixels of both. -/
structure Raster.IsUnion (whole first second : Raster) : Prop where
  width : first.width = whole.width ∧ second.width = whole.width
  height : first.height = whole.height ∧ second.height = whole.height
  pixels : ∀ i j, whole.HasPixel i j ↔ first.HasPixel i j ∨ second.HasPixel i j

namespace Node

def Sampled (limit : Int) (columns : Nat → Float) (width : Nat) (equation : Node) : Prop :=
  ∀ k ≤ width, ∃ values, equation.branches limit (columns k) = .ok values

/-- Two values at the edges of column `i` straddle row `j` of `height`, counted from the top. -/
def Crosses (limit : Int) (columns rows : Nat → Float) (height i j : Nat) (equation : Node) : Prop :=
  ∃ left right, equation.branches limit (columns i) = .ok left ∧
    equation.branches limit (columns (i + 1)) = .ok right ∧
    ∃ l ∈ left, ∃ r ∈ right,
      (rows (height - j - 1) ≤ l ∧ r ≤ rows (height - j)) ∨
        (l ≤ rows (height - j - 1) ∧ rows (height - j) ≤ r)

end Node

namespace Layout

structure Grid (layout : Layout) (columns rows : Nat → Float) : Prop where
  across : Edges layout.frame.x layout.frame.width layout.pixels.width.toNat columns
  up : Edges layout.frame.y layout.frame.height layout.pixels.height.toNat rows

section

variable {layout : Layout} {limit : Int} {columns rows : Nat → Float}

theorem visit_evaluations_iff (sized : layout.Sized) :
    visit (evaluate limit) (layout.evaluations columns) = .ok () ↔
      ∀ equation ∈ layout.equations, equation.Sampled limit columns layout.pixels.width.toNat := by
  have filled : 0 < layout.pixels.width.toNat := Int.pos_iff_toNat_pos.mp sized.pixels.1
  rw [visit_eq_ok_iff]
  constructor
  · intro all equation listed k within
    exact all (equation, columns k) ((mem_evaluations filled).mpr ⟨listed, k, within, rfl⟩)
  · intro all evaluation member
    obtain ⟨listed, k, within, same⟩ := (mem_evaluations filled).mp member
    obtain ⟨values, found⟩ := all evaluation.1 listed k within
    exact ⟨values, by rw [evaluate, same, found]⟩

theorem Grid.render_ok_iff (grid : layout.Grid columns rows) (sized : layout.Sized) :
    (∃ raster, layout.render limit = .ok raster) ↔
      ∀ equation ∈ layout.equations, equation.Sampled limit columns layout.pixels.width.toNat := by
  have outcome : settled (layout.render limit) =
      visit (evaluate limit) (layout.evaluations columns) := settled_render grid.across grid.up
  rw [← settled_eq_ok_iff, outcome, visit_evaluations_iff sized]

theorem Grid.hasPixel_iff (grid : layout.Grid columns rows) {raster : Raster}
    (rendered : layout.render limit = .ok raster) (i j : Nat) :
    raster.HasPixel i j ↔ i < layout.pixels.width.toNat ∧ j < layout.pixels.height.toNat ∧
      ∃ equation ∈ layout.equations,
        equation.Crosses limit columns rows layout.pixels.height.toNat i j := by
  obtain ⟨width, height, pixels⟩ := render_pixel grid.across grid.up rendered
  rw [← width, ← height]
  constructor
  · intro ⟨across, down, on⟩
    exact ⟨across, down, (pixels ⟨i, across⟩ ⟨j, down⟩).mp on⟩
  · intro ⟨across, down, crossed⟩
    exact ⟨across, down, (pixels ⟨i, across⟩ ⟨j, down⟩).mpr crossed⟩

theorem Grid.size (grid : layout.Grid columns rows) {raster : Raster}
    (rendered : layout.render limit = .ok raster) :
    raster.width = layout.pixels.width.toNat ∧ raster.height = layout.pixels.height.toNat := by
  obtain ⟨width, height, _⟩ := render_pixel grid.across grid.up rendered
  exact ⟨width, height⟩

end

def withEquations (layout : Layout) (more : List Node) : Layout :=
  { layout with equations := layout.equations ++ more }

@[simp] theorem pixels_withEquations (layout : Layout) (more : List Node) :
    (layout.withEquations more).pixels = layout.pixels := rfl

theorem mem_withEquations {layout : Layout} {more : List Node} {equation : Node} :
    equation ∈ (layout.withEquations more).equations ↔
      equation ∈ layout.equations ∨ equation ∈ more :=
  List.mem_append

section

variable {layout : Layout} {limit : Int} {columns rows : Nat → Float} {first second : List Node}

theorem Sized.withEquations (sized : layout.Sized) (more : List Node) :
    (layout.withEquations more).Sized :=
  ⟨sized.frame, sized.resolution⟩

theorem Grid.withEquations (grid : layout.Grid columns rows) (more : List Node) :
    (layout.withEquations more).Grid columns rows :=
  ⟨grid.across, grid.up⟩

theorem grid_of_render (sized : layout.Sized) {more : List Node} {raster : Raster}
    (rendered : (layout.withEquations more).render limit = .ok raster) :
    ∃ columns rows, layout.Grid columns rows := by
  obtain ⟨columns, rows, across, up⟩ := edges_of_render (sized.withEquations more) rendered
  exact ⟨columns, rows, across, up⟩

theorem render_append_ok_iff (sized : layout.Sized) :
    (∃ raster, (layout.withEquations (first ++ second)).render limit = .ok raster) ↔
      (∃ raster, (layout.withEquations first).render limit = .ok raster) ∧
        ∃ raster, (layout.withEquations second).render limit = .ok raster := by
  have on {columns rows : Nat → Float} (grid : layout.Grid columns rows) (more : List Node) :
      (∃ raster, (layout.withEquations more).render limit = .ok raster) ↔
        (∀ equation ∈ layout.equations, equation.Sampled limit columns layout.pixels.width.toNat) ∧
          ∀ equation ∈ more, equation.Sampled limit columns layout.pixels.width.toNat := by
    rw [(grid.withEquations more).render_ok_iff (sized.withEquations more), ← List.forall_mem_append]
    rfl
  constructor
  · intro ⟨raster, rendered⟩
    obtain ⟨columns, rows, grid⟩ := grid_of_render sized rendered
    obtain ⟨own, more⟩ := (on grid _).mp ⟨raster, rendered⟩
    obtain ⟨left, right⟩ := List.forall_mem_append.mp more
    exact ⟨(on grid first).mpr ⟨own, left⟩, (on grid second).mpr ⟨own, right⟩⟩
  · intro ⟨⟨raster, rendered⟩, drawn⟩
    obtain ⟨columns, rows, grid⟩ := grid_of_render sized rendered
    obtain ⟨own, left⟩ := (on grid first).mp ⟨raster, rendered⟩
    obtain ⟨_, right⟩ := (on grid second).mp drawn
    exact (on grid _).mpr ⟨own, List.forall_mem_append.mpr ⟨left, right⟩⟩

theorem render_append_union (sized : layout.Sized) {whole left right : Raster}
    (drawn : (layout.withEquations (first ++ second)).render limit = .ok whole)
    (drawn' : (layout.withEquations first).render limit = .ok left)
    (drawn'' : (layout.withEquations second).render limit = .ok right) :
    whole.IsUnion left right := by
  obtain ⟨columns, rows, grid⟩ := grid_of_render sized drawn
  obtain ⟨width, height⟩ := (grid.withEquations _).size drawn
  obtain ⟨width', height'⟩ := (grid.withEquations _).size drawn'
  obtain ⟨width'', height''⟩ := (grid.withEquations _).size drawn''
  refine ⟨⟨width'.trans width.symm, width''.trans width.symm⟩,
    ⟨height'.trans height.symm, height''.trans height.symm⟩, fun i j => ?_⟩
  have pixels := (grid.withEquations _).hasPixel_iff drawn i j
  have pixels' := (grid.withEquations _).hasPixel_iff drawn' i j
  have pixels'' := (grid.withEquations _).hasPixel_iff drawn'' i j
  simp only [pixels_withEquations] at pixels pixels' pixels''
  rw [pixels, pixels', pixels'', ← and_or_left, ← and_or_left]
  refine and_congr_right fun _ => and_congr_right fun _ => ?_
  simp only [mem_withEquations, List.mem_append, or_and_right, exists_or]
  exact or_or_distrib_left

theorem render_congr (sized : layout.Sized) (same : ∀ equation, equation ∈ first ↔ equation ∈ second)
    {raster : Raster} (drawn : (layout.withEquations first).render limit = .ok raster) :
    (layout.withEquations second).render limit = .ok raster := by
  obtain ⟨columns, rows, grid⟩ := grid_of_render sized drawn
  have alike (equation : Node) : equation ∈ (layout.withEquations first).equations ↔
      equation ∈ (layout.withEquations second).equations := by
    rw [mem_withEquations, mem_withEquations, same]
  have sampled := ((grid.withEquations _).render_ok_iff (sized.withEquations _)).mp ⟨raster, drawn⟩
  obtain ⟨other, drawn'⟩ := ((grid.withEquations second).render_ok_iff (sized.withEquations _)).mpr
    fun equation listed => sampled equation ((alike equation).mpr listed)
  have equal : raster = other := by
    obtain ⟨width, height⟩ := (grid.withEquations _).size drawn
    obtain ⟨width', height'⟩ := (grid.withEquations _).size drawn'
    refine Raster.ext_pixels (width.trans width'.symm) (height.trans height'.symm) fun i j => ?_
    rw [(grid.withEquations _).hasPixel_iff drawn, (grid.withEquations _).hasPixel_iff drawn']
    simp only [alike]
    rfl
  rw [equal]
  exact drawn'

end

end Layout

end PlotScript

import PlotScript.Proofs.Double.Arithmetic
import PlotScript.Proofs.Drawing

namespace PlotScript

open Binary64

theorem Edges.isNumber {origin extent : Int} {count k : Nat} {place : Nat → Float}
    (edges : Edges origin extent count place) (inside : k ≤ count) : IsNumber (place k) := by
  obtain ⟨_, part, length, start, divided, spans, begins, same⟩ :=
    Frame.coordinate_eq_ok_iff.mp (edges k inside)
  rw [same]
  exact isNumber_add (isFinite_ofInt? begins)
    (isNumber_mul (isFinite_ofInt? spans) (isFinite_ofQuotient? divided))

instance (origin extent : Int) (count : Nat) (place : Nat → Float) :
    Decidable (Edges origin extent count place) :=
  inferInstanceAs (Decidable (∀ k ≤ count, Frame.coordinate origin extent k count = .ok (place k)))

namespace Layout

theorem exists_row {rows : Nat → Int} {value : Int} (bottom : rows 0 ≤ value) {height : Nat}
    (filled : 0 < height) :
    ∃ k < height, rows k ≤ value ∧ (k + 1 < height → value < rows (k + 1)) := by
  induction height with
  | zero => exact absurd filled (Nat.lt_irrefl 0)
  | succ height ih =>
    by_cases above : rows height ≤ value
    · exact ⟨height, Nat.lt_succ_self height, above, fun more => absurd more (Nat.lt_irrefl _)⟩
    · have started : 0 < height := by
        apply Nat.pos_of_ne_zero
        rintro rfl
        exact above bottom
      obtain ⟨k, small, below, next⟩ := ih started
      refine ⟨k, Nat.lt_succ_of_lt small, below, fun _ => ?_⟩
      rcases Nat.lt_or_eq_of_le (Nat.succ_le_of_lt small) with more | last
      · exact next more
      · rw [show k + 1 = height from last]
        omega

theorem exists_marked {rows : Nat → Int} {height : Nat} {l r : Int} (filled : 0 < height)
    (bottom : rows 0 ≤ l) (top : r ≤ rows height) :
    (∃ k < height, (rows k ≤ l ∧ r ≤ rows (k + 1)) ∨ (l ≤ rows k ∧ rows (k + 1) ≤ r)) ∨
      ∃ k, k + 1 < height ∧ rows k < l ∧ l < rows (k + 1) ∧ rows (k + 1) < r ∧ r < rows (k + 2) := by
  obtain ⟨k, small, below, next⟩ := exists_row bottom filled
  -- A pair that ends in the row where it starts, or lower, marks that row; so let it end higher.
  by_cases ends : r ≤ rows (k + 1)
  · exact .inl ⟨k, small, .inl ⟨below, ends⟩⟩
  · have more : k + 1 < height := by
      rcases Nat.lt_or_eq_of_le (Nat.succ_le_of_lt small) with more | last
      · exact more
      · rw [show k + 1 = height from last] at ends
        exact absurd top ends
    have above := next more
    by_cases starts : l ≤ rows k
    · exact .inl ⟨k, small, .inr ⟨starts, by omega⟩⟩
    · by_cases passes : rows (k + 2) ≤ r
      · exact .inl ⟨k + 1, more, .inr ⟨by omega, passes⟩⟩
      · exact .inr ⟨k, more, by omega, above, by omega, by omega⟩

theorem not_marked {rows : Nat → Int} {height k j : Nat} {l r : Int}
    (ordered : ∀ m n, m ≤ n → n ≤ height → rows m ≤ rows n) (small : j < height)
    (starts : rows k < l ∧ l < rows (k + 1)) (ends : rows (k + 1) < r ∧ r < rows (k + 2))
    (last : k + 1 < height) :
    ¬ ((rows j ≤ l ∧ r ≤ rows (j + 1)) ∨ (l ≤ rows j ∧ rows (j + 1) ≤ r)) := by
  rintro (⟨low, high⟩ | ⟨low, high⟩)
  · rcases Nat.lt_or_ge k j with later | earlier
    · have bound := ordered (k + 1) j later (Nat.le_of_lt small)
      omega
    · have bound := ordered (j + 1) (k + 1) (Nat.succ_le_succ earlier) (Nat.le_of_lt last)
      omega
  · rcases Nat.lt_or_ge k j with later | earlier
    · have bound := ordered (k + 2) (j + 1) (Nat.succ_le_succ later) small
      omega
    · have bound := ordered j k earlier (by omega)
      omega

/-- A pair of values that starts within a row and ends within the row above. -/
def StepsUp (rows : Nat → Float) (height : Nat) (l r : Float) : Prop :=
  ∃ k, k + 1 < height ∧ rows k < l ∧ l < rows (k + 1) ∧ rows (k + 1) < r ∧ r < rows (k + 2)

theorem StepsUp.rises {rows : Nat → Float} {height : Nat} {l r : Float}
    (steps : StepsUp rows height l r) : l < r := by
  obtain ⟨k, _, _, below, above, _⟩ := steps
  obtain ⟨number, _, less⟩ := lt_iff.mp below
  obtain ⟨_, number', less'⟩ := lt_iff.mp above
  exact lt_iff.mpr ⟨number, number', less.trans less'⟩

section

variable {rows : Nat → Float} {height : Nat} {l r : Float}
  (numbers : ∀ k ≤ height, IsNumber (rows k)) (number : IsNumber l) (number' : IsNumber r)

include numbers number number'

theorem marked_iff {k : Nat} (small : k < height) :
    (rows k ≤ l ∧ r ≤ rows (k + 1)) ∨ (l ≤ rows k ∧ rows (k + 1) ≤ r) ↔
      (place (rows k) ≤ place l ∧ place r ≤ place (rows (k + 1))) ∨
        (place l ≤ place (rows k) ∧ place (rows (k + 1)) ≤ place r) := by
  have known := numbers k (Nat.le_of_lt small)
  have known' := numbers (k + 1) small
  rw [le_iff_place known number, le_iff_place number' known', le_iff_place number known,
    le_iff_place known' number']

theorem stepsUp_iff : StepsUp rows height l r ↔ ∃ k, k + 1 < height ∧
    place (rows k) < place l ∧ place l < place (rows (k + 1)) ∧
      place (rows (k + 1)) < place r ∧ place r < place (rows (k + 2)) := by
  apply exists_congr
  intro k
  apply and_congr_right
  intro small
  have known := numbers k (by omega)
  have known' := numbers (k + 1) (by omega)
  have known'' := numbers (k + 2) small
  rw [lt_iff_place known number, lt_iff_place number known', lt_iff_place known' number',
    lt_iff_place number' known'']

end

/-- A curve with one value at each edge of a column leaves a mark there or steps up, from within a
row to within the next; and no curve that steps up leaves a mark of its own. -/
theorem render_column (nodes : List Node) {layout : Layout}
    (produced : (Interpretation.ofNodes nodes).layout = layout) {columns rows : Nat → Float}
    (across : Edges layout.frame.x layout.frame.width layout.pixels.width.toNat columns)
    (up : Edges layout.frame.y layout.frame.height layout.pixels.height.toNat rows)
    {limit : Int} {raster : Raster} (rendered : layout.render limit = .ok raster) {equation : Node}
    (listed : equation ∈ layout.equations) {i : Fin raster.width} {l r : Float}
    (left : equation.branches limit (columns i) = .ok [l])
    (right : equation.branches limit (columns (i + 1)) = .ok [r])
    (bottom : rows 0 ≤ l) (top : r ≤ rows raster.height) :
    ((∃ j, raster.isOn i j) ∨ l < r ∧ StepsUp rows raster.height l r) ∧
      (layout.equations = [equation] → (∀ k < raster.height, rows k ≤ rows (k + 1)) →
        StepsUp rows raster.height l r → ∀ j, ¬ raster.isOn i j) := by
  obtain ⟨_, high⟩ := Sized.pixels (produced ▸ Interpretation.ofNodes_sized nodes : layout.Sized)
  obtain ⟨_, height, pixels⟩ := render_pixel across up rendered
  rw [← height] at up
  have filled : 0 < raster.height := by omega
  have number : IsNumber l := (le_iff.mp bottom).2.1
  have number' : IsNumber r := (le_iff.mp top).1
  have numbers (k : Nat) (inside : k ≤ raster.height) : IsNumber (rows k) := up.isNumber inside
  let places (k : Nat) : Int := place (rows k)
  have least : places 0 ≤ place l := (le_iff.mp bottom).2.2
  have most : place r ≤ places raster.height := (le_iff.mp top).2.2
  have steps := stepsUp_iff numbers number number'
  constructor
  · -- Rows are counted from below in `rows` and from above in the raster.
    rcases exists_marked filled least most with marked | stepped
    · left
      obtain ⟨k, small, marks⟩ := marked
      refine ⟨⟨raster.height - 1 - k, by omega⟩, (pixels _ _).mpr ?_⟩
      have row' : raster.height - (raster.height - 1 - k) = k + 1 := by omega
      refine ⟨equation, listed, [l], [r], left, right, l, List.mem_singleton_self l, r,
        List.mem_singleton_self r, ?_⟩
      simp only [row']
      exact (marked_iff numbers number number' small).mpr marks
    · right
      exact ⟨(steps.mpr stepped).rises, steps.mpr stepped⟩
  · intro sole ordered stepped j on
    obtain ⟨k, last, starts, starts', ends, ends'⟩ := steps.mp stepped
    obtain ⟨other, listed', ls, rs, left', right', l', isLeft, r', isRight, marks⟩ := (pixels i j).mp on
    rw [sole, List.mem_singleton] at listed'
    subst listed'
    cases left.symm.trans left'
    cases right.symm.trans right'
    rw [List.mem_singleton] at isLeft isRight
    subst isLeft isRight
    have row : raster.height - j = raster.height - j - 1 + 1 := by omega
    have small : raster.height - j - 1 < raster.height := by omega
    rw [row, Nat.add_sub_cancel] at marks
    have increasing (m n : Nat) (later : m ≤ n) (inside : n ≤ raster.height) : places m ≤ places n := by
      induction n, later using Nat.le_induction with
      | base => exact le_refl _
      | succ n later ih =>
        calc
          places m ≤ places n := ih (Nat.le_of_lt inside)
          _ ≤ places (n + 1) := (le_iff.mp (ordered n inside)).2.2
    exact not_marked increasing small ⟨starts, starts'⟩ ⟨ends, ends'⟩ last
      ((marked_iff numbers number number' small).mp marks)

theorem render_column_falling : ∃ raster : Raster, (Interpretation.ofNodes
    [.directive (.frame 0 0 1 2) none, .equals (.symbol "y" none)
      (.arithmetic .sub (.number 1.5 none) (.symbol "x" none) none) none]).layout.render 1 = .ok raster ∧
      ∃ i j, raster.isOn i j := by
  let falling : Node := .arithmetic .sub (.number 1.5 none) (.symbol "x" none) none
  let nodes : List Node := [.directive (.frame 0 0 1 2) none, .equals (.symbol "y" none) falling none]
  let raster : Raster := .ofRows [[true], [true]]
  let steps (k : Nat) : Float := if k = 0 then 0 else if k = 1 then 1 else 2
  let i : Fin raster.width := ⟨0, by decide⟩
  have across : Edges 0 1 1 steps := by decide +kernel
  have up : Edges 0 2 2 steps := by decide +kernel
  have rendered : (Interpretation.ofNodes nodes).layout.render 1 = .ok raster := by decide +kernel
  have left : falling.branches 1 (steps i) = .ok [1.5] := by decide +kernel
  have right : falling.branches 1 (steps (i + 1)) = .ok [0.5] := by decide +kernel
  have bottom : steps 0 ≤ 1.5 := by decide +kernel
  have top : 0.5 ≤ steps raster.height := by decide +kernel
  have drawn := (render_column nodes rfl across up rendered List.mem_cons_self left right bottom top).1
  have falls : ¬ (1.5 : Float) < 0.5 := by decide +kernel
  exact ⟨raster, rendered, i, drawn.resolve_right fun rises => falls rises.1⟩

/-- `y = x + 0.5` over the same rows enters the column within the lower one and leaves it within the
upper one. -/
theorem rising_curve_gap : ¬ ∀ (nodes : List Node) (layout : Layout) (columns rows : Nat → Float)
    (limit : Int) (raster : Raster) (equation : Node) (i : Fin raster.width) (l r : Float),
    (Interpretation.ofNodes nodes).layout = layout →
    Edges layout.frame.x layout.frame.width layout.pixels.width.toNat columns →
    Edges layout.frame.y layout.frame.height layout.pixels.height.toNat rows →
    layout.render limit = .ok raster → equation ∈ layout.equations →
    equation.branches limit (columns i) = .ok [l] →
    equation.branches limit (columns (i + 1)) = .ok [r] →
    (l.isFinite ∧ rows 0 ≤ l ∧ l ≤ rows raster.height) →
    (r.isFinite ∧ rows 0 ≤ r ∧ r ≤ rows raster.height) → ∃ j, raster.isOn i j := by
  intro gapless
  let rising : Node := .arithmetic .add (.symbol "x" none) (.number 0.5 none) none
  let nodes : List Node := [.directive (.frame 0 0 1 2) none, .equals (.symbol "y" none) rising none]
  let raster : Raster := .ofRows [[false], [false]]
  let steps (k : Nat) : Float := if k = 0 then 0 else if k = 1 then 1 else 2
  let i : Fin raster.width := ⟨0, by decide⟩
  have across : Edges 0 1 1 steps := by decide +kernel
  have up : Edges 0 2 2 steps := by decide +kernel
  have rendered : (Interpretation.ofNodes nodes).layout.render 1 = .ok raster := by decide +kernel
  have left : rising.branches 1 (steps i) = .ok [0.5] := by decide +kernel
  have right : rising.branches 1 (steps (i + 1)) = .ok [1.5] := by decide +kernel
  have drawn := gapless nodes _ steps steps 1 raster rising i 0.5 1.5 rfl across up rendered
    List.mem_cons_self left right (by decide +kernel) (by decide +kernel)
  exact absurd drawn (by decide +kernel)

end Layout

end PlotScript

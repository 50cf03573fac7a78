import PlotScript.Proofs.Double.Arithmetic
import PlotScript.Proofs.Drawing
import PlotScript.Proofs.Erasure

/-!
The picture of a solved power, beside the pictures of the principal root and of its negation. It has
their pixels, and those of the rows between the root at one edge of a column and the negated root at
the other.
-/

namespace PlotScript

open Binary64 Choices Outcome

def Node.values (x : Float) (node : Node) : List Float :=
  (choices node.implicitCount).filterMap (node.single x)

theorem Node.values_eraseSpans (x : Float) (node : Node) :
    node.eraseSpans.values x = node.values x := by
  rw [values, values, implicitCount_eraseSpans, single_eraseSpans]

namespace Interpretation

def soleEquation (before behind : List Directive) (left right : Node) : List Node :=
  before.map (.directive · none) ++ .equals left right none :: behind.map (.directive · none)

def directed (commands : List Directive) : Layout :=
  (commands.map (Node.directive · none)).foldl Layout.after {}

theorem foldl_withEquation (commands : List Directive) (layout : Layout) (equation : Node) :
    (commands.map (Node.directive · none)).foldl Layout.after (layout.withEquation equation) =
      ((commands.map (Node.directive · none)).foldl Layout.after layout).withEquation equation := by
  induction commands generalizing layout with
  | nil => rfl
  | cons command commands ih =>
    rw [List.map_cons, List.foldl_cons, Layout.after_withEquation, ih, List.foldl_cons]

theorem equations_directed (commands : List Directive) : (directed commands).equations = [] := by
  have run (layout : Layout) :
      ((commands.map (Node.directive · none)).foldl Layout.after layout).equations =
        layout.equations := by
    induction commands generalizing layout with
    | nil => rfl
    | cons command commands ih =>
      rw [List.map_cons, List.foldl_cons, ih, Layout.equations_after_directive]
  exact run {}

theorem ofNodes_soleEquation {nodes : List Node} {before behind : List Directive}
    {left right solved : Node}
    (written : nodes.map Node.eraseSpans = soleEquation before behind left right)
    (added : ∀ layout : Layout, layout.after (.equals left right none) = layout.withEquation solved) :
    ∃ equation, equation.eraseSpans = solved ∧
      (ofNodes nodes).layout = (directed (before ++ behind)).withEquation equation := by
  have erased : (ofNodes nodes).layout.eraseSpans =
      (directed (before ++ behind)).withEquation solved := by
    rw [← ofNodes_eraseSpans, written, layout_ofNodes, soleEquation, List.foldl_append,
      List.foldl_cons, added, foldl_withEquation, directed, List.map_append, List.foldl_append]
  have listed : (ofNodes nodes).layout.equations.map Node.eraseSpans = [solved] := by
    have same := congrArg Layout.equations erased
    rw [Layout.withEquation, equations_directed] at same
    exact same
  obtain ⟨equation, sole, found⟩ := List.map_eq_singleton_iff.mp listed
  refine ⟨equation, found, ?_⟩
  calc
    (ofNodes nodes).layout =
        { (ofNodes nodes).layout.eraseSpans with equations := (ofNodes nodes).layout.equations } := rfl
    _ = { (directed (before ++ behind)).withEquation solved with equations := [equation] } := by
      rw [erased, sole]
    _ = (directed (before ++ behind)).withEquation equation := by
      rw [Layout.withEquation, Layout.withEquation, equations_directed]
      rfl

end Interpretation

namespace Node

def root? (degree : Float) (known : Node) (x : Float) : Option Float :=
  (known.single x []).bind fun radicand => rootOf? (degree, radicand)

theorem values_of_plain {node : Node} (plain : node.implicitCount = 0) (x : Float) :
    node.values x = (node.single x []).toList := by
  rw [values, plain, choices, List.filterMap_cons]
  cases node.single x [] <;> rfl

section

variable {known : Node} (degree x : Float) (span span' span'' : Option Span)

theorem single_explicit :
    (Node.root (.number degree span) known true span').single x [] = known.root? degree x := by
  simp only [single, root?, beside, implicitCount, List.drop_nil]
  cases known.single x [] <;> rfl

theorem single_implicit (sign : Bool) :
    (Node.root (.number degree span) known false span').single x [sign] =
      (known.root? degree x).map fun root => if sign then root else -root := by
  simp only [single, root?, beside, implicitCount, List.dropLast_singleton,
    List.drop_nil, List.getLast?_singleton]
  cases known.single x [] with
  | none => rfl
  | some radicand =>
    cases found : rootOf? (degree, radicand) with
    | none => simp [found]
    | some root => cases sign <;> simp [found]

theorem single_negated (node : Node) :
    (Node.arithmetic .sub (.number 0 span) node span').single x [] =
      (node.single x []).map (0 - ·) := by
  rw [single]
  cases found : node.single x [] with
  | none => simp [beside, found, single]
  | some value => simp [beside, found, single, Operator.apply]

variable (plain : known.implicitCount = 0)

include plain

theorem values_explicit :
    (Node.root (.number degree span) known true span').values x = (known.root? degree x).toList := by
  rw [values_of_plain, single_explicit]
  simp [implicitCount, plain]

theorem values_negated : (Node.arithmetic .sub (.number 0 span)
    (.root (.number degree span) known true span') span'').values x =
      (known.root? degree x).toList.map (0 - ·) := by
  rw [values_of_plain, single_negated, single_explicit]
  · cases known.root? degree x <;> rfl
  · simp [implicitCount, plain]

theorem values_implicit : (Node.root (.number degree span) known false span').values x =
    (known.root? degree x).toList.flatMap fun root => [root, -root] := by
  have count : (Node.root (.number degree span) known false span').implicitCount = 1 := by
    simp [implicitCount, plain]
  have both : choices 1 = [[true], [false]] := rfl
  rw [values, count, both, List.filterMap_cons, List.filterMap_cons, single_implicit,
    single_implicit]
  cases known.root? degree x <;> rfl

end

end Node

theorem Band.straddledBy_iff {band : Band} {l r : Float} : band.straddledBy l r ↔
    (band.bottom ≤ l ∧ r ≤ band.top) ∨ (l ≤ band.bottom ∧ band.top ≤ r) := by
  simp [Band.straddledBy]

theorem Band.straddledBy_zero_sub {band : Band} {l r : Float} :
    band.straddledBy (0 - l) (0 - r) ↔ band.straddledBy (-l) (-r) := by
  rw [straddledBy_iff, straddledBy_iff, le_zero_sub, zero_sub_le, zero_sub_le, le_zero_sub]

namespace Layout

def rowOf (rows : Nat → Float) (height j : Nat) : Band := ⟨rows (height - j - 1), rows (height - j)⟩

section

variable {layout : Layout} {limit : Int} {columns rows : Nat → Float} {raster : Raster}
  {equation : Node} (sized : layout.Sized)
  (across : Edges layout.frame.x layout.frame.width layout.pixels.width.toNat columns)
  (up : Edges layout.frame.y layout.frame.height layout.pixels.height.toNat rows)
  (rendered : layout.render limit = .ok raster) (sole : layout.equations = [equation])

include sized across up rendered sole

theorem branches_eq_values {k : Nat} (inside : k ≤ raster.width) :
    equation.branches limit (columns k) = .ok (equation.values (columns k)) := by
  have filled : 0 < layout.pixels.width.toNat := Int.pos_iff_toNat_pos.mp sized.pixels.1
  have width := (render_pixel across up rendered).1
  have listed : equation ∈ layout.equations := sole ▸ List.mem_singleton_self equation
  obtain ⟨values, found⟩ := evaluated_of_render across up filled rendered listed (width ▸ inside)
  rw [found, branches_choices found]
  rfl

theorem hasPixel_iff {i j : Nat} (small : i < raster.width) (small' : j < raster.height) :
    raster.HasPixel i j ↔ ∃ l ∈ equation.values (columns i), ∃ r ∈ equation.values (columns (i + 1)),
      (rowOf rows raster.height j).straddledBy l r := by
  have pixels := (render_pixel across up rendered).2.2
  have listed : equation ∈ layout.equations := sole ▸ List.mem_singleton_self equation
  have left := branches_eq_values sized across up rendered sole (Nat.le_of_lt small)
  have right := branches_eq_values sized across up rendered sole small
  simp only [Band.straddledBy_iff]
  constructor
  · rintro ⟨_, _, on⟩
    obtain ⟨other, listed', ls, rs, left', right', crossed⟩ := (pixels _ _).mp on
    rw [sole, List.mem_singleton] at listed'
    subst listed'
    cases left.symm.trans left'
    cases right.symm.trans right'
    exact crossed
  · intro crossed
    exact ⟨small, small', (pixels _ _).mpr ⟨equation, listed, _, _, left, right, crossed⟩⟩

end

theorem equations_withEquation {base : Layout} (empty : base.equations = []) (equation : Node) :
    (base.withEquation equation).equations = [equation] := by
  rw [withEquation, empty]
  rfl

theorem hasPixel_signs {base : Layout} (empty : base.equations = []) (sized : base.Sized) {limit : Int}
    {columns rows : Nat → Float}
    (across : Edges base.frame.x base.frame.width base.pixels.width.toNat columns)
    (up : Edges base.frame.y base.frame.height base.pixels.height.toNat rows)
    {both root negated : Node} {root? : Float → Option Float}
    (values : ∀ x, both.values x = (root? x).toList.flatMap fun root => [root, -root])
    (values' : ∀ x, root.values x = (root? x).toList)
    (values'' : ∀ x, negated.values x = (root? x).toList.map (0 - ·)) {whole upper lower : Raster}
    (rendered : (base.withEquation both).render limit = .ok whole)
    (rendered' : (base.withEquation root).render limit = .ok upper)
    (rendered'' : (base.withEquation negated).render limit = .ok lower)
    (same : upper.width = whole.width ∧ upper.height = whole.height)
    (same' : lower.width = whole.width ∧ lower.height = whole.height) {i j : Nat}
    (small : i < whole.width) (small' : j < whole.height) :
    whole.HasPixel i j ↔ upper.HasPixel i j ∨ lower.HasPixel i j ∨
      ∃ p q, root.branches limit (columns i) = .ok [p] ∧
        root.branches limit (columns (i + 1)) = .ok [q] ∧
        ((rowOf rows whole.height j).straddledBy p (-q) ∨
          (rowOf rows whole.height j).straddledBy (-p) q) := by
  have ready (equation : Node) : (base.withEquation equation).Sized := ⟨sized.frame, sized.resolution⟩
  have sole := equations_withEquation empty
  rw [hasPixel_iff (ready both) across up rendered (sole both) small small',
    hasPixel_iff (ready root) across up rendered' (sole root) (same.1 ▸ small) (same.2 ▸ small'),
    hasPixel_iff (ready negated) across up rendered'' (sole negated) (same'.1 ▸ small)
      (same'.2 ▸ small'),
    branches_eq_values (ready root) across up rendered' (sole root) (by omega),
    branches_eq_values (ready root) across up rendered' (sole root) (by omega), same.2, same'.2,
    values, values, values', values', values'', values'']
  cases root? (columns i) with
  | none => simp
  | some p =>
    cases root? (columns (i + 1)) with
    | none => simp
    | some q =>
      simp only [Option.toList_some, List.flatMap_cons, List.flatMap_nil, List.append_nil,
        List.map_cons, List.map_nil, List.mem_cons, List.not_mem_nil, or_false, exists_eq_or_imp,
        exists_eq_left, Band.straddledBy_zero_sub, Except.ok.injEq, List.cons.injEq, and_true,
        exists_and_left, exists_eq_left']
      tauto

end Layout

theorem Layout.after_power {known : Node} (free : known.boundCount = 0) (degree : Float)
    (layout : Layout) :
    layout.after (.equals (.power (.symbol boundName none) (.number degree none) none) known none) =
      layout.withEquation (.root (.number degree none) known false known.span) := by
  have solved : Equation.solve (.power (.symbol boundName none) (.number degree none) none) known =
      some (.root (.number degree none) known false known.span) := by
    rw [Equation.solve, if_pos ⟨rfl, free⟩]
    rfl
  simp only [after, apply, equate, solved]
  rfl

open Interpretation in
/-- A solved power has the pixels of the principal root, those of its negation, and those of the rows
between the root at one edge of a column and the negated root at the other edge. -/
theorem render_solved_power {before behind : List Directive} {degree : Float} {known : Node}
    (free : known.boundCount = 0) (plain : known.implicitCount = 0) {script script' script'' : List Node}
    (solved : script.map Node.eraseSpans = soleEquation before behind
      (.power (.symbol boundName none) (.number degree none) none) known)
    (principal : script'.map Node.eraseSpans = soleEquation before behind (.symbol boundName none)
      (.root (.number degree none) known true none))
    (negated : script''.map Node.eraseSpans = soleEquation before behind (.symbol boundName none)
      (.arithmetic .sub (.number 0 none) (.root (.number degree none) known true none) none))
    {limit : Int} {whole upper lower : Raster}
    (rendered : (ofNodes script).layout.render limit = .ok whole)
    (rendered' : (ofNodes script').layout.render limit = .ok upper)
    (rendered'' : (ofNodes script'').layout.render limit = .ok lower) :
    let layout := (ofNodes script').layout
    ∃ columns rows, Edges layout.frame.x layout.frame.width layout.pixels.width.toNat columns ∧
      Edges layout.frame.y layout.frame.height layout.pixels.height.toNat rows ∧
      upper.width = whole.width ∧ lower.width = whole.width ∧
      upper.height = whole.height ∧ lower.height = whole.height ∧
      ∀ i < whole.width, ∀ j < whole.height, (whole.HasPixel i j ↔
        upper.HasPixel i j ∨ lower.HasPixel i j ∨
          ∃ root ∈ layout.equations, ∃ p q, root.branches limit (columns i) = .ok [p] ∧
            root.branches limit (columns (i + 1)) = .ok [q] ∧
            ((Layout.rowOf rows whole.height j).straddledBy p (-q) ∨
              (Layout.rowOf rows whole.height j).straddledBy (-p) q)) := by
  obtain ⟨equation, erased, written⟩ := ofNodes_soleEquation solved (Layout.after_power free degree)
  obtain ⟨equation', erased', written'⟩ := ofNodes_soleEquation principal fun layout => rfl
  obtain ⟨equation'', erased'', written''⟩ := ofNodes_soleEquation negated fun layout => rfl
  have sized := ofNodes_sized script'
  rw [written] at rendered
  rw [written'] at rendered' sized ⊢
  rw [written''] at rendered''
  have empty := equations_directed (before ++ behind)
  generalize directed (before ++ behind) = base at *
  obtain ⟨columns, rows, across, up⟩ := Layout.edges_of_render sized rendered'
  have size (added : Node) {raster : Raster}
      (drawn : (base.withEquation added).render limit = .ok raster) :
      raster.width = base.pixels.width.toNat ∧ raster.height = base.pixels.height.toNat := by
    have across' : Edges (base.withEquation added).frame.x (base.withEquation added).frame.width
        (base.withEquation added).pixels.width.toNat columns := across
    obtain ⟨width, height, _⟩ := Layout.render_pixel across' up drawn
    exact ⟨width, height⟩
  obtain ⟨width, height⟩ := size equation rendered
  obtain ⟨width', height'⟩ := size equation' rendered'
  obtain ⟨width'', height''⟩ := size equation'' rendered''
  have same : upper.width = whole.width ∧ upper.height = whole.height := ⟨by omega, by omega⟩
  have same' : lower.width = whole.width ∧ lower.height = whole.height := ⟨by omega, by omega⟩
  have values (x : Float) : equation.values x =
      (known.root? degree x).toList.flatMap fun root => [root, -root] := by
    rw [← Node.values_eraseSpans, erased, Node.values_implicit degree x none known.span plain]
  have values' (x : Float) : equation'.values x = (known.root? degree x).toList := by
    rw [← Node.values_eraseSpans, erased', Node.values_explicit degree x none none plain]
  have values'' (x : Float) : equation''.values x = (known.root? degree x).toList.map (0 - ·) := by
    rw [← Node.values_eraseSpans, erased'', Node.values_negated degree x none none none plain]
  refine ⟨columns, rows, across, up, same.1, same'.1, same.2, same'.2, ?_⟩
  intro i small j small'
  rw [Layout.equations_withEquation empty]
  simp only [List.mem_singleton, exists_eq_left]
  exact Layout.hasPixel_signs empty ⟨sized.frame, sized.resolution⟩ across up values values' values''
    rendered rendered' rendered'' same same' small small'

open Interpretation in
theorem render_parabola :
    let before : List Directive := [.frame 4 (-3) 5 6, .resolution 1 6]
    let root : Node := .root (.number 2 none) (.symbol "x" none) true none
    (ofNodes (soleEquation before [] (.power (.symbol "y" none) (.number 2 none) none)
      (.symbol "x" none))).layout.render 2 =
        .ok (.ofRows [[true], [true], [true], [true], [true], [true]]) ∧
    (ofNodes (soleEquation before [] (.symbol "y" none) root)).layout.render 2 =
      .ok (.ofRows [[true], [false], [false], [false], [false], [false]]) ∧
    (ofNodes (soleEquation before [] (.symbol "y" none)
      (.arithmetic .sub (.number 0 none) root none))).layout.render 2 =
        .ok (.ofRows [[false], [false], [false], [false], [true], [true]]) := by
  decide +kernel

open Interpretation in
theorem render_solved_power_parabola :
    let before : List Directive := [.frame 4 (-3) 5 6, .resolution 1 6]
    let layout := (ofNodes (soleEquation before [] (.symbol "y" none)
      (.root (.number 2 none) (.symbol "x" none) true none))).layout
    ∃ columns rows : Nat → Float, ∃ root ∈ layout.equations, ∃ p q,
      root.branches 2 (columns 0) = .ok [p] ∧ root.branches 2 (columns 1) = .ok [q] ∧
        ((Layout.rowOf rows 6 2).straddledBy p (-q) ∨ (Layout.rowOf rows 6 2).straddledBy (-p) q) := by
  intro before layout
  let root : Node := .root (.number 2 none) (.symbol "x" none) true none
  let solved := soleEquation before [] (.power (.symbol "y" none) (.number 2 none) none)
    (.symbol "x" none)
  let principal := soleEquation before [] (.symbol "y" none) root
  let negated := soleEquation before [] (.symbol "y" none)
    (.arithmetic .sub (.number 0 none) root none)
  have written : solved.map Node.eraseSpans = solved := rfl
  have written' : principal.map Node.eraseSpans = principal := rfl
  have written'' : negated.map Node.eraseSpans = negated := rfl
  obtain ⟨rendered, rendered', rendered''⟩ := render_parabola
  obtain ⟨columns, rows, _, _, _, _, _, _, pixels⟩ :=
    render_solved_power rfl rfl written written' written'' rendered rendered' rendered''
  have crossed := (pixels 0 (by decide) 2 (by decide)).mp (by decide)
  rcases crossed with on | on | between
  · exact absurd on (by decide)
  · exact absurd on (by decide)
  · exact ⟨columns, rows, between⟩

open Interpretation in
/-- The first of the three pictures has pixels that neither of the others has. -/
theorem solved_power_extra_pixels : ¬ ∀ (before behind : List Directive) (exponent : Nat)
    (degree : Float) (known : Node) (limit : Int) (whole upper lower : Raster),
    0 < exponent → exponent % 2 = 0 → ofInt? exponent = some degree →
    known.boundCount = 0 → known.implicitCount = 0 →
    (ofNodes (soleEquation before behind (.power (.symbol "y" none) (.number degree none) none)
      known)).layout.render limit = .ok whole →
    (ofNodes (soleEquation before behind (.symbol "y" none)
      (.root (.number degree none) known true none))).layout.render limit = .ok upper →
    (ofNodes (soleEquation before behind (.symbol "y" none) (.arithmetic .sub (.number 0 none)
      (.root (.number degree none) known true none) none))).layout.render limit = .ok lower →
    ∀ i j, whole.HasPixel i j ↔ upper.HasPixel i j ∨ lower.HasPixel i j := by
  intro nothing
  obtain ⟨rendered, rendered', rendered''⟩ := render_parabola
  have even : ofInt? (2 : Nat) = some 2 := by decide +kernel
  have pixels := nothing _ [] 2 2 (.symbol "x" none) 2 _ _ _ (by decide) rfl even rfl rfl rendered
    rendered' rendered'' 0 2
  exact absurd pixels (by decide)

end PlotScript

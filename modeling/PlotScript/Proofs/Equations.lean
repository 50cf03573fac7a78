import PlotScript.Proofs.Drawing.Pixels
import PlotScript.Proofs.Erasure.Drawing
import PlotScript.Proofs.Interpretation
import PlotScript.Proofs.Printing.Trees
import PlotScript.Proofs.Run

/-!
Equations one below the other. A line with an equation adds its solution to what the script above asks
for and changes nothing else, so the picture of a script with such lines below it is made of the pictures
with some of them, in whatever order they stand.
-/

namespace PlotScript

open Outcome

theorem Grammar.ofScript_append {source first second : String} {nodes others : List Node}
    (read : Node.ofScript source first = .ok nodes) (read' : Node.ofScript source second = .ok others) :
    Node.ofScript source (first ++ "\n" ++ second) =
      .ok (nodes ++ others.map (Node.mapSpans (.shift (first.length + 1)))) := by
  obtain ⟨tokens, scanned, read⟩ := ofScript_eq_ok_iff.mp read
  obtain ⟨tokens', scanned', read'⟩ := ofScript_eq_ok_iff.mp read'
  obtain ⟨front, line, last, rfl⟩ := scan_closes scanned
  have closed : (front ++ [line, last]).dropLast.dropLast = front := by simp
  rw [Node.ofScript, Lexis.scan_below scanned second, scanned', closed]
  exact (ofTokens_below scanned read rfl scanned' _).trans (by rw [read']; rfl)

namespace Node

def IsEquationLine (source line : String) : Prop :=
  ∃ left right span, ofScript source line = .ok [.equals left right span]

def solutions (source text : String) : List Node :=
  match ofScript source text with
  | .ok nodes => nodes.filterMap fun node => node.solution?.map eraseSpans
  | .error _ => []

theorem solutions_of_ofScript {source line : String} {node : Node}
    (read : ofScript source line = .ok [node]) :
    solutions source line = (node.solution?.map eraseSpans).toList := by
  rw [solutions, read]
  cases solved : node.solution? <;> simp [solved]

theorem solution?_eraseSpans (node : Node) :
    node.eraseSpans.solution? = node.solution?.map eraseSpans := by
  cases node with
  | equals left right span =>
    rw [eraseSpans, solution?, solution?, isBound_eraseSpans, Equation.solve_eraseSpans]
    split <;> rfl
  | _ => rfl

theorem solution?_mapSpans (move : Span → Span) (node : Node) :
    (node.mapSpans move).solution?.map eraseSpans = node.solution?.map eraseSpans := by
  rw [← solution?_eraseSpans, eraseSpans_mapSpans, solution?_eraseSpans]

end Node

namespace Layout

theorem withEquations_nil (layout : Layout) : layout.withEquations [] = layout := by
  rw [withEquations, List.append_nil]

theorem withEquations_append (layout : Layout) (first second : List Node) :
    (layout.withEquations first).withEquations second = layout.withEquations (first ++ second) := by
  simp only [withEquations, List.append_assoc]

theorem withEquations_eraseSpans (layout : Layout) (more : List Node) :
    (layout.withEquations more).eraseSpans =
      layout.eraseSpans.withEquations (more.map Node.eraseSpans) := by
  simp only [withEquations, eraseSpans, List.map_append]

theorem withEquations_toList (layout : Layout) (solved? : Option Node) :
    layout.withEquations solved?.toList = (solved?.map layout.withEquation).getD layout := by
  cases solved? with
  | none => exact layout.withEquations_nil
  | some solved => rfl

end Layout

theorem Layout.ofScript_equation {source text line : String} {layout : Layout}
    (compiled : (Layout.ofScript source text).outcome.1 = .ok layout)
    (equation : Node.IsEquationLine source line) :
    ∃ next, (Layout.ofScript source (text ++ "\n" ++ line)).outcome.1 = .ok next ∧
      next.eraseSpans = layout.eraseSpans.withEquations (Node.solutions source line) := by
  obtain ⟨nodes, read, valid, rfl⟩ := ofScript_eq_ok_iff.mp compiled
  obtain ⟨left, right, span, read'⟩ := equation
  let move : Span → Span := .shift (text.length + 1)
  let node : Node := .equals (left.mapSpans move) (right.mapSpans move) (span.map move)
  have together : Node.ofScript source (text ++ "\n" ++ line) = .ok (nodes ++ [node]) :=
    Grammar.ofScript_append read read'
  have solved : node.solution?.toList.map Node.eraseSpans = Node.solutions source line := by
    rw [Node.solutions_of_ofScript read', ← Option.toList_map]
    exact congrArg Option.toList (Node.solution?_mapSpans move (.equals left right span))
  refine ⟨_, ofScript_eq_ok_iff.mpr ⟨_, together, ?_, rfl⟩, ?_⟩
  · rw [Interpretation.ofNodes_append, Interpretation.errors_step, valid]
    rfl
  · rw [Interpretation.ofNodes_append, Interpretation.layout_step, after_equals,
      ← withEquations_toList, withEquations_eraseSpans, solved]

theorem Layout.ofScript_equations {source text : String} {layout : Layout} {lines : List String}
    (compiled : (Layout.ofScript source text).outcome.1 = .ok layout)
    (equations : ∀ line ∈ lines, Node.IsEquationLine source line) :
    ∃ whole, (Layout.ofScript source ("\n".intercalate (text :: lines))).outcome.1 = .ok whole ∧
      whole.eraseSpans = layout.eraseSpans.withEquations (lines.flatMap (Node.solutions source)) := by
  induction lines generalizing text layout with
  | nil => exact ⟨layout, compiled, (withEquations_nil _).symm⟩
  | cons line lines ih =>
    obtain ⟨first, rest⟩ := List.forall_mem_cons.mp equations
    obtain ⟨next, compiled', added⟩ := ofScript_equation compiled first
    obtain ⟨whole, compiled'', added'⟩ := ih compiled' rest
    refine ⟨whole, compiled'', ?_⟩
    rw [added', added, withEquations_append, List.flatMap_cons]

def Raster.ofLines (source text : String) (lines : List String) (limit : Int) :
    Except Failure Raster :=
  Raster.ofScript source ("\n".intercalate (text :: lines)) limit

theorem Raster.ofLines_eq_ok_iff {source text : String} {layout : Layout} {lines : List String}
    {limit : Int} {raster : Raster} (compiled : (Layout.ofScript source text).outcome.1 = .ok layout)
    (equations : ∀ line ∈ lines, Node.IsEquationLine source line) :
    Raster.ofLines source text lines limit = .ok raster ↔
      (layout.eraseSpans.withEquations (lines.flatMap (Node.solutions source))).render limit =
        .ok raster := by
  obtain ⟨whole, compiled', added⟩ := Layout.ofScript_equations compiled equations
  rw [ofLines, ofScript, compiled', ok_bind, ← added, Layout.render_eraseSpans_ok]

/-- Lines with equations do not depend on each other, nor on their order. Below a script that compiles
two lists of them have a picture when each of the two has one alone. It is then the union of those
pictures, and the same when the lists change places. -/
theorem Raster.ofLines_independent {source text : String} {layout : Layout}
    {first second : List String} (limit : Int)
    (compiled : (Layout.ofScript source text).outcome.1 = .ok layout)
    (equations : ∀ line ∈ first ++ second, Node.IsEquationLine source line) :
    ((∃ whole, ofLines source text (first ++ second) limit = .ok whole) ↔
      (∃ left, ofLines source text first limit = .ok left) ∧
        ∃ right, ofLines source text second limit = .ok right) ∧
    (∀ whole left right, ofLines source text (first ++ second) limit = .ok whole →
      ofLines source text first limit = .ok left → ofLines source text second limit = .ok right →
        whole.IsUnion left right) ∧
    ∀ whole, ofLines source text (first ++ second) limit = .ok whole ↔
      ofLines source text (second ++ first) limit = .ok whole := by
  have sized : layout.eraseSpans.Sized := by
    have own := Layout.sized_of_ofScript compiled
    exact ⟨own.frame, own.resolution⟩
  obtain ⟨firsts, seconds⟩ := List.forall_mem_append.mp equations
  have turned : ∀ line ∈ second ++ first, Node.IsEquationLine source line :=
    List.forall_mem_append.mpr ⟨seconds, firsts⟩
  simp only [ofLines_eq_ok_iff compiled equations, ofLines_eq_ok_iff compiled firsts,
    ofLines_eq_ok_iff compiled seconds, ofLines_eq_ok_iff compiled turned, List.flatMap_append]
  refine ⟨Layout.render_append_ok_iff sized, ?_, ?_⟩
  · intro whole left right drawn drawn' drawn''
    exact Layout.render_append_union sized drawn drawn' drawn''
  · intro whole
    exact ⟨Layout.render_congr sized fun equation => by simp [or_comm],
      Layout.render_congr sized fun equation => by simp [or_comm]⟩

theorem Raster.ofLines_independent_diagonal : ∃ whole left right : Raster,
    ofLines "curve" "#frame(0,0,2,2)" ["y=x", "x=1", "y=0"] 1 = .ok whole ∧
      ofLines "curve" "#frame(0,0,2,2)" ["y=x", "x=1"] 1 = .ok left ∧
      ofLines "curve" "#frame(0,0,2,2)" ["y=0"] 1 = .ok right ∧
      whole.IsUnion left right ∧
      ofLines "curve" "#frame(0,0,2,2)" ["y=0", "y=x", "x=1"] 1 = .ok whole := by
  let layout : Layout := { frame? := some ⟨0, 0, 2, 2⟩ }
  let symbol (name : String) : Node := .symbol name (some ⟨"curve", 0, 1⟩)
  let line : Span := ⟨"curve", 0, 3⟩
  have compiled : (Layout.ofScript "curve" "#frame(0,0,2,2)").outcome.1 = .ok layout := by
    decide +kernel
  have diagonal : Node.ofScript "curve" "y=x" =
      .ok [.equals (symbol "y") (.symbol "x" (some ⟨"curve", 2, 3⟩)) (some line)] := by
    decide +kernel
  have upright : Node.ofScript "curve" "x=1" =
      .ok [.equals (symbol "x") (.number 1 (some ⟨"curve", 2, 3⟩)) (some line)] := by
    decide +kernel
  have level : Node.ofScript "curve" "y=0" =
      .ok [.equals (symbol "y") (.number 0 (some ⟨"curve", 2, 3⟩)) (some line)] := by
    decide +kernel
  have equations : ∀ line ∈ ["y=x", "x=1"] ++ ["y=0"], Node.IsEquationLine "curve" line := by
    simp only [List.cons_append, List.nil_append, List.forall_mem_cons]
    exact ⟨⟨_, _, _, diagonal⟩, ⟨_, _, _, upright⟩, ⟨_, _, _, level⟩, by simp⟩
  have left : ofLines "curve" "#frame(0,0,2,2)" ["y=x", "x=1"] 1 =
      .ok (.ofRows [[false, true], [true, false]]) := by
    decide +kernel
  have right : ofLines "curve" "#frame(0,0,2,2)" ["y=0"] 1 =
      .ok (.ofRows [[false, false], [true, true]]) := by
    decide +kernel
  obtain ⟨succeeds, union, turned⟩ := ofLines_independent 1 compiled equations
  obtain ⟨whole, drawn⟩ := succeeds.mpr ⟨⟨_, left⟩, ⟨_, right⟩⟩
  exact ⟨whole, _, _, drawn, left, right, union _ _ _ drawn left right, (turned whole).mp drawn⟩

end PlotScript

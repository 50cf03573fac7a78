import PlotScript.Proofs.Choices
import PlotScript.Proofs.Layout

namespace PlotScript

def Node.eraseSpans : Node → Node
  | .number value _ => .number value none
  | .symbol name _ => .symbol name none
  | .equals left right _ => .equals left.eraseSpans right.eraseSpans none
  | .arithmetic operator left right _ => .arithmetic operator left.eraseSpans right.eraseSpans none
  | .trig function argument _ => .trig function argument.eraseSpans none
  | .power base exponent _ => .power base.eraseSpans exponent.eraseSpans none
  | .root degree radicand explicit _ => .root degree.eraseSpans radicand.eraseSpans explicit none
  | .directive command _ => .directive command none

namespace Node

@[simp] theorem span_eraseSpans (node : Node) : node.eraseSpans.span = none := by
  cases node <;> rfl

@[simp] theorem isBound_eraseSpans (node : Node) : node.eraseSpans.isBound = node.isBound := by
  cases node <;> rfl

@[simp] theorem boundCount_eraseSpans (node : Node) : node.eraseSpans.boundCount = node.boundCount := by
  induction node <;> simp_all [eraseSpans, boundCount]

@[simp] theorem implicitCount_eraseSpans (node : Node) :
    node.eraseSpans.implicitCount = node.implicitCount := by
  induction node <;> simp_all [eraseSpans, implicitCount]

theorem agrees_eraseSpans (node other : Node) :
    node.eraseSpans.agrees other.eraseSpans = node.agrees other := by
  induction node generalizing other <;> cases other <;> simp_all [eraseSpans, agrees]

@[simp] theorem text_eraseSpans (node : Node) : node.eraseSpans.text = node.text := by
  induction node <;> simp_all [eraseSpans, text]

theorem single_eraseSpans (node : Node) (x : Float) : node.eraseSpans.single x = node.single x := by
  induction node with
  | root degree radicand explicit span ih ih' =>
    funext signs
    cases explicit <;> simp [eraseSpans, single, ih, ih']
  | _ =>
    funext signs
    simp_all [eraseSpans, single]

end Node

def Cause.eraseSpans : Cause → Cause
  | .divisionByZero node x => .divisionByZero node.eraseSpans x
  | .tooManyBranches node count limit => .tooManyBranches node.eraseSpans count limit
  | .notAnExpression node => .notAnExpression node.eraseSpans
  | cause => cause

def Diagnostic.eraseSpans (diagnostic : Diagnostic) : Diagnostic := ⟨diagnostic.cause.eraseSpans, none⟩

def Failure.eraseSpans : Failure → Failure
  | .diagnostic found => .diagnostic found.eraseSpans
  | .interpretation found => .interpretation (found.map Diagnostic.eraseSpans)
  | .fault found => .fault found

theorem Diagnostic.kind_eraseSpans (diagnostic : Diagnostic) :
    diagnostic.eraseSpans.kind = diagnostic.kind := by
  obtain ⟨cause, span⟩ := diagnostic
  cases cause <;> rfl

theorem Diagnostic.message_eraseSpans (diagnostic : Diagnostic) :
    diagnostic.eraseSpans.message = diagnostic.message := by
  obtain ⟨cause, span⟩ := diagnostic
  cases cause with
  | divisionByZero _ _ | tooManyBranches _ _ _ | notAnExpression _ =>
    unfold message Cause.message
    simp only [eraseSpans, Cause.eraseSpans, Node.text_eraseSpans]
  | _ => rfl

namespace Equation

theorem undoRight_eraseSpans (operator : Operator) (known right : Node) (span : Option Span) :
    undoRight operator known.eraseSpans right.eraseSpans none =
      (undoRight operator known right span).eraseSpans := by
  cases operator <;> rfl

theorem isolate_eraseSpans (left right : Node) :
    isolate left.eraseSpans right.eraseSpans = (isolate left right).map Node.eraseSpans := by
  induction left generalizing right with
  | symbol name span =>
    rw [Node.eraseSpans, isolate, isolate]
    split <;> rfl
  | arithmetic operator a b span ih ih' =>
    have across (span : Option Span) :
        Node.arithmetic (inverse operator) right.eraseSpans b.eraseSpans none =
          (Node.arithmetic (inverse operator) right b span).eraseSpans := rfl
    simp only [Node.eraseSpans, isolate, Node.span_eraseSpans, Node.boundCount_eraseSpans, Span.hull?]
    split
    · rw [← ih]
      rfl
    · rw [← ih', undoRight_eraseSpans]
  | power base exponent span ih ih' =>
    simp only [Node.eraseSpans, isolate, Node.span_eraseSpans, Node.boundCount_eraseSpans, Span.hull?]
    split
    · rw [← ih]
      rfl
    · rfl
  | root degree radicand explicit span ih ih' =>
    simp only [Node.eraseSpans, isolate, Node.span_eraseSpans, Node.boundCount_eraseSpans, Span.hull?]
    split
    · rw [← ih']
      rfl
    · rfl
  | _ => rfl

theorem solve_eraseSpans (left right : Node) :
    solve left.eraseSpans right.eraseSpans = (solve left right).map Node.eraseSpans := by
  rw [solve, solve, Node.boundCount_eraseSpans, Node.boundCount_eraseSpans, isolate_eraseSpans]
  split <;> rfl

end Equation

namespace Layout

def eraseSpans (layout : Layout) : Layout :=
  { layout with equations := layout.equations.map Node.eraseSpans }

theorem withEquation_eraseSpans (layout : Layout) (equation : Node) :
    (layout.withEquation equation).eraseSpans =
      layout.eraseSpans.withEquation equation.eraseSpans := by
  simp [withEquation, eraseSpans]

theorem equate_eraseSpans (layout : Layout) (node left right : Node) :
    layout.eraseSpans.equate node.eraseSpans left.eraseSpans right.eraseSpans =
      (layout.equate node left right).map eraseSpans id := by
  rw [equate, equate, Node.isBound_eraseSpans, Equation.solve_eraseSpans, ← withEquation_eraseSpans]
  split
  · rfl
  · cases Equation.solve left right with
    | none => simp
    | some solved => simp [← withEquation_eraseSpans]

theorem once_eraseSpans (used : Bool) (name : DirectiveName) (span : Option Span) (next : Layout) :
    once used name none next.eraseSpans =
      ((once used name span next).map eraseSpans).mapError Diagnostic.eraseSpans := by
  cases used <;> rfl

theorem direct_eraseSpans (layout : Layout) (span : Option Span) (command : Directive) :
    layout.eraseSpans.direct none command =
      ((layout.direct span command).map eraseSpans).mapError Diagnostic.eraseSpans := by
  cases command with
  | frame x y width height =>
    rw [direct, direct]
    split
    · rfl
    · exact once_eraseSpans _ _ span { layout with frame? := some ⟨x, y, width, height⟩ }
  | resolution width height =>
    rw [direct, direct]
    split
    · rfl
    · exact once_eraseSpans _ _ span { layout with resolution? := some ⟨width, height⟩ }
  | output path => exact once_eraseSpans _ _ span { layout with path? := some path }
  | printNow => exact once_eraseSpans _ _ span { layout with printNow := true }

theorem apply_eraseSpans (layout : Layout) (node : Node) :
    layout.eraseSpans.apply node.eraseSpans =
      ((layout.apply node).map (Prod.map eraseSpans id)).mapError Diagnostic.eraseSpans := by
  cases node with
  | directive command span =>
    rw [Node.eraseSpans, apply, apply, direct_eraseSpans layout span]
    cases layout.direct span command <;> rfl
  | equals left right span =>
    exact congrArg Except.ok (equate_eraseSpans layout (.equals left right span) left right)
  | _ => simp [Node.eraseSpans, apply, Node.text, Except.map, Except.mapError]

end Layout

namespace Interpretation

def eraseSpans (state : Interpretation) : Interpretation :=
  { state with
    layout := state.layout.eraseSpans
    errors := state.errors.map Diagnostic.eraseSpans }

theorem step_eraseSpans (state : Interpretation) (node : Node) :
    state.eraseSpans.step node.eraseSpans = (state.step node).eraseSpans := by
  have applied := Layout.apply_eraseSpans state.layout node
  rw [step, step, eraseSpans, applied]
  cases state.layout.apply node with
  | error diagnostic => simp [eraseSpans, Except.map, Except.mapError]
  | ok next => rfl

theorem run_eraseSpans (nodes : List Node) :
    ofNodes (nodes.map Node.eraseSpans) = (ofNodes nodes).eraseSpans := by
  have run (state : Interpretation) : (nodes.map Node.eraseSpans).foldl step state.eraseSpans =
      (nodes.foldl step state).eraseSpans := by
    induction nodes generalizing state with
    | nil => rfl
    | cons node nodes ih => rw [List.map_cons, List.foldl_cons, step_eraseSpans, ih, List.foldl_cons]
  exact run {}

theorem ofNodes_eraseSpans (nodes : List Node) :
    (ofNodes (nodes.map Node.eraseSpans)).layout = (ofNodes nodes).layout.eraseSpans := by
  rw [run_eraseSpans]
  rfl

end Interpretation

end PlotScript

import Mathlib.Data.List.Basic
import Mathlib.Data.List.Induction
import PlotScript.Proofs.Layout

/-!
What a whole script means, said at once for all of its statements: of each kind of directive the
first valid one counts, every equation that can be solved counts, and what is wrong with a statement
depends on nothing but that statement and the directives before it.
-/

namespace PlotScript

namespace Directive

def name : Directive → DirectiveName
  | frame _ _ _ _ => .frame
  | resolution _ _ => .resolution
  | output _ => .output
  | printNow => .printNow

/-- What is wrong with a directive wherever it stands; a valid one has no flaw. -/
def flaw? : Directive → Option Cause
  | frame _ _ width height => if 0 < width ∧ 0 < height then none else some .emptyFrame
  | resolution width height => if 0 ≤ width ∧ 0 ≤ height then none else some .negativeResolution
  | output _ => none
  | printNow => none

def frame? : Directive → Option Frame
  | frame x y width height => some ⟨x, y, width, height⟩
  | _ => none

def resolution? : Directive → Option Resolution
  | resolution width height => some ⟨width, height⟩
  | _ => none

def path? : Directive → Option String
  | output path => some path
  | _ => none

theorem kind_flaw {command : Directive} {cause : Cause} (flaw : command.flaw? = some cause) :
    cause.kind = "InvalidValueError" := by
  cases command with
  | frame x y width height =>
    obtain ⟨_, same⟩ := Option.ite_none_left_eq_some.mp flaw
    cases same
    rfl
  | resolution width height =>
    obtain ⟨_, same⟩ := Option.ite_none_left_eq_some.mp flaw
    cases same
    rfl
  | output path => cases flaw
  | printNow => cases flaw

end Directive

namespace Node

def directive? (name : DirectiveName) : Node → Option Directive
  | .directive command _ => if command.name = name ∧ command.flaw? = none then some command else none
  | _ => none

def first? (name : DirectiveName) (nodes : List Node) : Option Directive :=
  nodes.findSome? (directive? name)

def error? (earlier : List Node) : Node → Option Diagnostic
  | .directive command span =>
    match command.flaw? with
    | some cause => some ⟨cause, span⟩
    | none =>
      if (first? command.name earlier).isSome then some ⟨.repeatedDirective command.name, span⟩
      else none
  | _ => none

def warning? (node : Node) : Option LogLine :=
  match node with
  | .directive _ _ => none
  | .equals _ _ _ =>
    if node.solution?.isSome then none
    else some ⟨.warning, .layout, "Can not solve " ++ Cause.ticked node.text ++
      " for y; equation ignored"⟩
  | _ => some ⟨.warning, .layout, "Ignoring unsupported top-level node " ++ Cause.ticked node.text⟩

end Node

namespace Layout

def used? (layout : Layout) : DirectiveName → Option Directive
  | .frame => layout.frame?.map fun frame => .frame frame.x frame.y frame.width frame.height
  | .resolution => layout.resolution?.map fun size => .resolution size.width size.height
  | .output => layout.path?.map .output
  | .printNow => if layout.printNow then some .printNow else none

def assign (layout : Layout) : Directive → Layout
  | .frame x y width height => { layout with frame? := some ⟨x, y, width, height⟩ }
  | .resolution width height => { layout with resolution? := some ⟨width, height⟩ }
  | .output path => { layout with path? := some path }
  | .printNow => { layout with printNow := true }

theorem used?_assign (layout : Layout) (command : Directive) (name : DirectiveName) :
    (layout.assign command).used? name =
      if command.name = name then some command else layout.used? name := by
  cases command <;> cases name <;> rfl

theorem used?_withEquation (layout : Layout) (equation : Node) (name : DirectiveName) :
    (layout.withEquation equation).used? name = layout.used? name := by
  cases name <;> rfl

theorem frame_eq (layout : Layout) :
    layout.frame = ((layout.used? .frame).bind Directive.frame?).getD .default := by
  rw [frame, used?]
  cases layout.frame? <;> rfl

theorem resolution_eq (layout : Layout) :
    layout.resolution = ((layout.used? .resolution).bind Directive.resolution?).getD .default := by
  rw [resolution, used?]
  cases layout.resolution? <;> rfl

theorem path_eq (layout : Layout) :
    layout.path = ((layout.used? .output).bind Directive.path?).getD defaultPath := by
  rw [path, used?]
  cases layout.path? <;> rfl

theorem flags_eq (layout : Layout) :
    layout.flags = DirectiveName.all.map fun name => (layout.used? name).isSome := by
  cases printed : layout.printNow <;> simp [flags, DirectiveName.all, used?, printed]

theorem direct_eq (layout : Layout) (span : Option Span) (command : Directive) :
    layout.direct span command =
      match command.flaw? with
      | some cause => .error ⟨cause, span⟩
      | none =>
        if (layout.used? command.name).isSome then .error ⟨.repeatedDirective command.name, span⟩
        else .ok (layout.assign command) := by
  cases command with
  | frame x y width height =>
    rw [direct, Directive.flaw?, Directive.name, used?, Option.isSome_map]
    by_cases valid : 0 < width ∧ 0 < height
    · rw [if_neg (by omega), if_pos valid]
      rfl
    · rw [if_pos (by omega), if_neg valid]
  | resolution width height =>
    rw [direct, Directive.flaw?, Directive.name, used?, Option.isSome_map]
    by_cases valid : 0 ≤ width ∧ 0 ≤ height
    · rw [if_neg (by omega), if_pos valid]
      rfl
    · rw [if_pos (by omega), if_neg valid]
  | output path =>
    rw [direct, Directive.flaw?, Directive.name, used?, Option.isSome_map]
    rfl
  | printNow =>
    rw [direct, Directive.flaw?, Directive.name, used?]
    cases layout.printNow <;> rfl

theorem direct_error {layout : Layout} {span : Option Span} {command : Directive} {error : Diagnostic}
    (refused : layout.direct span command = .error error) :
    error.span = span ∧
      (error.kind = "InvalidValueError" ∨ error.kind = "HeaderAlreadyAccessedError") := by
  rw [direct_eq] at refused
  split at refused
  · next cause flaw =>
    cases refused
    exact ⟨rfl, .inl (Directive.kind_flaw flaw)⟩
  split at refused
  · cases refused
    exact ⟨rfl, .inr rfl⟩
  · cases refused

theorem used?_after (layout : Layout) (node : Node) (name : DirectiveName) :
    (layout.after node).used? name = (layout.used? name).or (node.directive? name) := by
  cases node with
  | directive command span =>
    rw [after, apply, direct_eq, Node.directive?]
    cases flaw : command.flaw? with
    | some cause => simp [Except.map, Except.toOption]
    | none =>
      cases used : layout.used? command.name with
      | some other =>
        by_cases same : command.name = name
        · simp [Except.map, Except.toOption, ← same, used]
        · simp [Except.map, Except.toOption, same]
      | none =>
        by_cases same : command.name = name
        · simp [Except.map, Except.toOption, used?_assign, ← same, used]
        · simp [Except.map, Except.toOption, used?_assign, same]
  | equals left right span =>
    have free : (Node.equals left right span).directive? name = none := rfl
    rw [after_equals, free, Option.or_none]
    cases (Node.equals left right span).solution? with
    | none => rfl
    | some solved => exact used?_withEquation layout solved name
  | _ => simp [after, apply, Except.toOption, Node.directive?]

theorem equations_after (layout : Layout) (node : Node) :
    (layout.after node).equations = layout.equations ++ node.solution?.toList := by
  cases node with
  | directive command span =>
    rw [equations_after_directive]
    exact (List.append_nil _).symm
  | equals left right span =>
    rw [after_equals]
    cases (Node.equals left right span).solution? with
    | none => exact (List.append_nil _).symm
    | some solved => rfl
  | _ => exact (List.append_nil _).symm

end Layout

namespace Interpretation

theorem ofNodes_append (nodes : List Node) (node : Node) :
    ofNodes (nodes ++ [node]) = (ofNodes nodes).step node := by
  rw [ofNodes, List.foldl_append]
  rfl

theorem used?_ofNodes (nodes : List Node) (name : DirectiveName) :
    (ofNodes nodes).layout.used? name = Node.first? name nodes := by
  -- From the end, as for errors below: a statement looks back at all that stand before it.
  induction nodes using List.reverseRecOn with
  | nil => cases name <;> rfl
  | append_singleton nodes node ih =>
    rw [ofNodes_append, layout_step, Layout.used?_after, ih, Node.first?, Node.first?,
      List.findSome?_append]
    cases found : node.directive? name with
    | none => rw [List.findSome?_cons, found, List.findSome?_nil]
    | some command => rw [List.findSome?_cons, found]

theorem equations_ofNodes (nodes : List Node) :
    (ofNodes nodes).layout.equations = nodes.filterMap Node.solution? := by
  induction nodes using List.reverseRecOn with
  | nil => rfl
  | append_singleton nodes node ih =>
    rw [ofNodes_append, layout_step, Layout.equations_after, ih, List.filterMap_append,
      List.filterMap_cons, List.filterMap_nil]
    cases node.solution? <;> rfl

theorem errors_step (nodes : List Node) (node : Node) :
    ((ofNodes nodes).step node).errors =
      (ofNodes nodes).errors ++ (Node.error? nodes node).toList := by
  cases node with
  | directive command span =>
    rw [step, Layout.apply, Layout.direct_eq, used?_ofNodes, Node.error?]
    cases command.flaw? with
    | some cause => rfl
    | none =>
      cases (Node.first? command.name nodes).isSome with
      | true => rfl
      | false => exact (List.append_nil _).symm
  | _ => exact (List.append_nil _).symm

theorem errors_ofNodes (nodes : List Node) :
    (ofNodes nodes).errors =
      (List.range nodes.length).filterMap fun i => nodes[i]?.bind (Node.error? (nodes.take i)) := by
  induction nodes using List.reverseRecOn with
  | nil => rfl
  | append_singleton nodes node ih =>
    have earlier : ∀ i ∈ List.range nodes.length,
        (nodes ++ [node])[i]?.bind (Node.error? ((nodes ++ [node]).take i)) =
          nodes[i]?.bind (Node.error? (nodes.take i)) := by
      intro i member
      have small := List.mem_range.mp member
      rw [List.getElem?_append_left small, List.take_append_of_le_length (Nat.le_of_lt small)]
    rw [ofNodes_append, errors_step, ih, List.length_append, List.length_singleton,
      List.range_succ, List.filterMap_append, List.filterMap_congr earlier, List.filterMap_cons,
      List.filterMap_nil, List.getElem?_concat_length, List.take_left, Option.bind_some]
    cases Node.error? nodes node <;> rfl

theorem directive_of_error {nodes : List Node} {error : Diagnostic}
    (member : error ∈ (ofNodes nodes).errors) :
    ∃ before command span after, nodes = before ++ .directive command span :: after ∧
      (ofNodes before).layout.direct span command = .error error := by
  induction nodes using List.reverseRecOn with
  | nil => cases member
  | append_singleton nodes node ih =>
    have earlier (member : error ∈ (ofNodes nodes).errors) :
        ∃ before command span after, nodes ++ [node] = before ++ .directive command span :: after ∧
          (ofNodes before).layout.direct span command = .error error := by
      obtain ⟨before, command, span, after, split, refused⟩ := ih member
      exact ⟨before, command, span, after ++ [node], by rw [split]; simp, refused⟩
    rw [ofNodes_append, step] at member
    split at member
    · next found refused =>
      rcases List.mem_append.mp member with member | member
      · exact earlier member
      · rw [List.mem_singleton.mp member]
        cases node with
        | directive command span =>
          refine ⟨nodes, command, span, [], rfl, ?_⟩
          rw [Layout.apply] at refused
          cases directed : (ofNodes nodes).layout.direct span command with
          | error other =>
            rw [directed] at refused
            cases refused
            rfl
          | ok next =>
            rw [directed] at refused
            cases refused
        | _ => cases refused
    · exact earlier member

def warnings (state : Interpretation) : List LogLine :=
  state.log.filter (·.level = .warning)

theorem warnings_equate (layout : Layout) (left right : Node) (span : Option Span) :
    (layout.equate (.equals left right span) left right).2.filter (·.level = .warning) =
      (Node.equals left right span).warning?.toList := by
  rw [Layout.equate, Node.warning?, Node.solution?]
  by_cases bound : left.isBound
  · rw [if_pos bound, if_pos bound]
    rfl
  · rw [if_neg bound, if_neg bound]
    cases Equation.solve left right with
    | none => simp [Layout.note, boundName, String.append_assoc]
    | some solved => simp [Layout.note]

theorem warnings_step (state : Interpretation) (node : Node) :
    (state.step node).warnings = state.warnings ++ node.warning?.toList := by
  cases node with
  | directive command span =>
    rw [step, Layout.apply]
    cases state.layout.direct span command with
    | error diagnostic => exact (List.append_nil _).symm
    | ok next => simp [warnings, Except.map, Node.warning?]
  | equals left right span =>
    rw [warnings, step, Layout.apply, List.filter_append, warnings_equate]
    rfl
  | _ => simp [step, Layout.apply, warnings, List.filter_append, Node.warning?, Layout.note]

theorem warnings_ofNodes (nodes : List Node) :
    (ofNodes nodes).warnings = nodes.filterMap Node.warning? := by
  induction nodes using List.reverseRecOn with
  | nil => rfl
  | append_singleton nodes node ih =>
    rw [ofNodes_append, warnings_step, ih, List.filterMap_append, List.filterMap_cons,
      List.filterMap_nil]
    cases node.warning? <;> rfl

/-- What a run over statements comes to. -/
structure Means (state : Interpretation) (nodes : List Node) : Prop where
  frame : state.layout.frame =
    ((Node.first? .frame nodes).bind Directive.frame?).getD ⟨0, 0, 100, 100⟩
  resolution : state.layout.resolution =
    ((Node.first? .resolution nodes).bind Directive.resolution?).getD ⟨0, 0⟩
  path : state.layout.path = ((Node.first? .output nodes).bind Directive.path?).getD "export.png"
  flags : state.layout.flags =
    [.frame, .resolution, .output, .printNow].map fun name => (Node.first? name nodes).isSome
  equations : state.layout.equations = nodes.filterMap Node.solution?
  errors : state.errors =
    (List.range nodes.length).filterMap fun i => nodes[i]?.bind (Node.error? (nodes.take i))
  warnings : state.warnings = nodes.filterMap Node.warning?
  failed : state.errors ≠ [] → state.result = .error (.interpretation state.errors)
  finished : state.errors = [] → state.result = .ok state.layout

/-- A run over statements gives every kind of directive, every equation, every error and every
warning its due, whatever else stands between them. Errors are of two kinds, and each has the place
of its directive. -/
theorem ofNodes_means (nodes : List Node) :
    (ofNodes nodes).Means nodes ∧
      ∀ earlier command span,
        (Node.error? earlier (.directive command span)).map (fun error => (error.kind, error.span)) =
          if command.flaw?.isSome then some ("InvalidValueError", span)
          else if (Node.first? command.name earlier).isSome then
            some ("HeaderAlreadyAccessedError", span)
          else none := by
  constructor
  · exact {
      frame := by rw [Layout.frame_eq, used?_ofNodes]; rfl
      resolution := by rw [Layout.resolution_eq, used?_ofNodes]; rfl
      path := by rw [Layout.path_eq, used?_ofNodes]; rfl
      flags := by simp only [Layout.flags_eq, used?_ofNodes, DirectiveName.all]
      equations := equations_ofNodes nodes
      errors := errors_ofNodes nodes
      warnings := warnings_ofNodes nodes
      failed := fun some => by rw [result, if_neg (by simpa using some)]
      finished := fun none => by rw [result, if_pos (by simpa using none)] }
  · intro earlier command span
    rw [Node.error?]
    cases flaw : command.flaw? with
    | some cause =>
      have kind : cause.kind = "InvalidValueError" := Directive.kind_flaw flaw
      simp [Diagnostic.kind, kind]
    | none =>
      cases (Node.first? command.name earlier).isSome <;> simp [Diagnostic.kind, Cause.kind]

end Interpretation

end PlotScript

import PlotScript.Layout

namespace PlotScript

def Node.solution? : Node → Option Node
  | .equals left right _ => if left.isBound then some right else Equation.solve left right
  | _ => none

end PlotScript

namespace PlotScript.Layout

theorem once_eq_ok_iff {used : Bool} {name : DirectiveName} {span : Option Span}
    {layout next : Layout} :
    once used name span layout = .ok next ↔ ¬ used ∧ layout = next := by
  cases used <;> simp [once]

/-- What a statement does to a layout, unless it is in error. -/
inductive Step (layout : Layout) : Node → Layout → Prop
  | frame {x y width height : Int} {span : Option Span} :
      0 < width → 0 < height → layout.frame? = none →
        Step layout (.directive (.frame x y width height) span)
          { layout with frame? := some ⟨x, y, width, height⟩ }
  | resolution {width height : Int} {span : Option Span} :
      0 ≤ width → 0 ≤ height → layout.resolution? = none →
        Step layout (.directive (.resolution width height) span)
          { layout with resolution? := some ⟨width, height⟩ }
  | output {path : String} {span : Option Span} :
      layout.path? = none →
        Step layout (.directive (.output path) span) { layout with path? := some path }
  | printNow {span : Option Span} :
      layout.printNow = false →
        Step layout (.directive .printNow span) { layout with printNow := true }
  | equation {node solved : Node} :
      node.solution? = some solved → Step layout node (layout.withEquation solved)
  | ignored {node : Node} :
      node.solution? = none → (∀ command span, node ≠ .directive command span) →
        Step layout node layout

theorem step_of_direct {layout next : Layout} {span : Option Span} {command : Directive}
    (directed : layout.direct span command = .ok next) :
    layout.Step (.directive command span) next := by
  cases command with
  | frame x y width height =>
    rw [direct] at directed
    split at directed
    · cases directed
    · next sized =>
      obtain ⟨unused, rfl⟩ := once_eq_ok_iff.mp directed
      exact .frame (by omega) (by omega) (Option.not_isSome_iff_eq_none.mp unused)
  | resolution width height =>
    rw [direct] at directed
    split at directed
    · cases directed
    · next sized =>
      obtain ⟨unused, rfl⟩ := once_eq_ok_iff.mp directed
      exact .resolution (by omega) (by omega) (Option.not_isSome_iff_eq_none.mp unused)
  | output path =>
    obtain ⟨unused, rfl⟩ := once_eq_ok_iff.mp directed
    exact .output (Option.not_isSome_iff_eq_none.mp unused)
  | printNow =>
    obtain ⟨unused, rfl⟩ := once_eq_ok_iff.mp directed
    exact .printNow (Bool.not_eq_true _ |>.mp unused)

theorem equate_eq (layout : Layout) (node left right : Node) (span : Option Span) :
    (layout.equate node left right).1 =
      ((Node.equals left right span).solution?.map layout.withEquation).getD layout := by
  rw [equate, Node.solution?]
  split
  · rfl
  · cases Equation.solve left right <;> rfl

theorem step_of_apply {layout next : Layout} {node : Node} {log : List LogLine}
    (applied : layout.apply node = .ok (next, log)) : layout.Step node next := by
  cases node with
  | directive command span =>
    rw [apply] at applied
    cases directed : layout.direct span command with
    | error diagnostic =>
      rw [directed] at applied
      cases applied
    | ok other =>
      rw [directed] at applied
      cases applied
      exact step_of_direct directed
  | equals left right span =>
    rw [apply, Except.ok.injEq] at applied
    have equated := layout.equate_eq (.equals left right span) left right span
    rw [applied] at equated
    cases solved : (Node.equals left right span).solution? with
    | none =>
      rw [solved] at equated
      cases equated
      exact .ignored solved (by simp)
    | some solution =>
      rw [solved] at equated
      cases equated
      exact .equation solved
  | _ =>
    cases applied
    exact .ignored rfl (by simp)

/-- Sizes that can be drawn: no empty frame, and no negative resolution. -/
structure Sized (layout : Layout) : Prop where
  frame : 0 < layout.frame.width ∧ 0 < layout.frame.height
  resolution : 0 ≤ layout.resolution.width ∧ 0 ≤ layout.resolution.height

theorem sized_empty : Sized {} := ⟨by decide, by decide⟩

theorem Sized.step {layout next : Layout} {node : Node} (sized : layout.Sized)
    (step : layout.Step node next) : next.Sized := by
  cases step with
  | frame wide high _ => exact ⟨⟨wide, high⟩, sized.resolution⟩
  | resolution wide high _ => exact ⟨sized.frame, ⟨wide, high⟩⟩
  | ignored _ _ => exact sized
  | _ => exact ⟨sized.frame, sized.resolution⟩

theorem Sized.pixels {layout : Layout} (sized : layout.Sized) :
    0 < layout.pixels.width ∧ 0 < layout.pixels.height := by
  have frame := sized.frame
  have resolution := sized.resolution
  simp only [Layout.pixels, orElse]
  constructor <;> split <;> omega

def after (layout : Layout) (node : Node) : Layout :=
  ((layout.apply node).toOption.map Prod.fst).getD layout

theorem after_equals (layout : Layout) (left right : Node) (span : Option Span) :
    layout.after (.equals left right span) =
      ((Node.equals left right span).solution?.map layout.withEquation).getD layout :=
  layout.equate_eq (.equals left right span) left right span

theorem after_directive (layout : Layout) (equations : List Node) (command : Directive)
    (span span' : Option Span) :
    ({ layout with equations } : Layout).after (.directive command span') =
      { layout.after (.directive command span) with equations } := by
  cases command with
  | frame x y width height =>
    simp only [after, apply, direct, once]
    split
    · rfl
    · split <;> rfl
  | resolution width height =>
    simp only [after, apply, direct, once]
    split
    · rfl
    · split <;> rfl
  | output path =>
    simp only [after, apply, direct, once]
    split <;> rfl
  | printNow =>
    simp only [after, apply, direct, once]
    split <;> rfl

theorem equations_after_directive (layout : Layout) (command : Directive) (span : Option Span) :
    (layout.after (.directive command span)).equations = layout.equations := by
  have same : layout.after (.directive command span) =
      { layout.after (.directive command span) with equations := layout.equations } :=
    after_directive layout layout.equations command span span
  rw [same]

theorem after_withEquation (layout : Layout) (equation : Node) (command : Directive)
    (span : Option Span) :
    (layout.withEquation equation).after (.directive command span) =
      (layout.after (.directive command span)).withEquation equation := by
  rw [withEquation, after_directive, withEquation, equations_after_directive]

end PlotScript.Layout

namespace PlotScript.Interpretation

theorem layout_step (state : Interpretation) (node : Node) :
    (state.step node).layout = state.layout.after node := by
  rw [step, Layout.after]
  cases state.layout.apply node <;> rfl

theorem layout_ofNodes (nodes : List Node) :
    (ofNodes nodes).layout = nodes.foldl Layout.after {} := by
  have run (state : Interpretation) :
      (nodes.foldl step state).layout = nodes.foldl Layout.after state.layout := by
    induction nodes generalizing state with
    | nil => rfl
    | cons node nodes ih => rw [List.foldl_cons, ih, layout_step, List.foldl_cons]
  exact run {}

theorem step_sized {state : Interpretation} (sized : state.layout.Sized) (node : Node) :
    (state.step node).layout.Sized := by
  rw [step]
  split
  · exact sized
  · next applied => exact sized.step (Layout.step_of_apply applied)

theorem ofNodes_sized (nodes : List Node) : (ofNodes nodes).layout.Sized := by
  have run : ∀ state : Interpretation, state.layout.Sized →
      (nodes.foldl step state).layout.Sized := by
    induction nodes with
    | nil =>
      intro state sized
      exact sized
    | cons node nodes ih =>
      intro state sized
      exact ih (state.step node) (step_sized sized node)
  exact run {} Layout.sized_empty

end PlotScript.Interpretation

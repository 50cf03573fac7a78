import PlotScript.Proofs.Layout
import PlotScript.Session

/-!
One interpreter over a long time. Whatever it is given, and whatever fails, its layout can be drawn,
and what a directive has set stays set until the next script.
-/

namespace PlotScript

namespace Layout

/-- Sizes that can be drawn, and the values of an empty layout wherever no directive has been used. -/
structure Drawable (layout : Layout) : Prop where
  size : 1 ≤ layout.frame.width ∧ 1 ≤ layout.frame.height
  resolution : 0 ≤ layout.resolution.width ∧ 0 ≤ layout.resolution.height
  pixels : 1 ≤ layout.pixels.width ∧ 1 ≤ layout.pixels.height
  plainFrame : layout.frame? = none → layout.frame = ⟨0, 0, 100, 100⟩
  plainResolution : layout.resolution? = none → layout.resolution = ⟨0, 0⟩
  plainPath : layout.path? = none → layout.path = "export.png"

theorem Sized.drawable {layout : Layout} (sized : layout.Sized) : layout.Drawable where
  size := sized.frame
  resolution := sized.resolution
  pixels := sized.pixels
  plainFrame := fun unused => by rw [Layout.frame, unused]; rfl
  plainResolution := fun unused => by rw [Layout.resolution, unused]; rfl
  plainPath := fun unused => by rw [Layout.path, unused]; rfl

structure Keeps (layout later : Layout) : Prop where
  frame : layout.frame?.isSome → later.frame? = layout.frame?
  resolution : layout.resolution?.isSome → later.resolution? = layout.resolution?
  path : layout.path?.isSome → later.path? = layout.path?
  printNow : layout.printNow → later.printNow

theorem Keeps.rfl {layout : Layout} : layout.Keeps layout :=
  ⟨fun _ => Eq.refl _, fun _ => Eq.refl _, fun _ => Eq.refl _, id⟩

theorem Keeps.trans {layout later last : Layout} (first : layout.Keeps later)
    (second : later.Keeps last) : layout.Keeps last where
  frame := fun used => by rw [second.frame (first.frame used ▸ used), first.frame used]
  resolution := fun used => by
    rw [second.resolution (first.resolution used ▸ used), first.resolution used]
  path := fun used => by rw [second.path (first.path used ▸ used), first.path used]
  printNow := second.printNow ∘ first.printNow

theorem Step.keeps {layout next : Layout} {node : Node} (step : layout.Step node next) :
    layout.Keeps next := by
  cases step with
  | frame _ _ unused => exact { Keeps.rfl with frame := by simp [unused] }
  | resolution _ _ unused => exact { Keeps.rfl with resolution := by simp [unused] }
  | output unused => exact { Keeps.rfl with path := by simp [unused] }
  | printNow unused => exact { Keeps.rfl with printNow := by simp [unused] }
  | equation _ => exact ⟨fun _ => Eq.refl _, fun _ => Eq.refl _, fun _ => Eq.refl _, id⟩
  | ignored _ _ => exact .rfl

theorem after_cases (layout : Layout) (node : Node) :
    layout.after node = layout ∨ layout.Step node (layout.after node) := by
  rw [after]
  cases applied : layout.apply node with
  | error diagnostic => exact .inl (Eq.refl _)
  | ok result => exact .inr (step_of_apply applied)

theorem keeps_after (layout : Layout) (node : Node) : layout.Keeps (layout.after node) := by
  rcases layout.after_cases node with same | step
  · rw [same]
    exact .rfl
  · exact step.keeps

theorem keeps_foldl (layout : Layout) (nodes : List Node) :
    layout.Keeps (nodes.foldl after layout) := by
  induction nodes generalizing layout with
  | nil => exact .rfl
  | cons node nodes ih => exact (layout.keeps_after node).trans (ih (layout.after node))

end Layout

namespace Session

inductive Move
  | apply (node : Node)
  | interpret (nodes : List Node)

def move (session : Session) : Move → Reply
  | .apply node => session.apply [node]
  | .interpret nodes => session.interpret nodes

def after (session : Session) (moves : List Move) : Session :=
  moves.foldl (fun session next => (session.move next).session) session

theorem layout_apply (session : Session) (node : Node) :
    (session.move (.apply node)).session.state.layout = session.state.layout.after node := by
  rw [move, apply, applyAll, Layout.after]
  cases session.state.layout.apply node <;> rfl

theorem layout_interpret (session : Session) (nodes : List Node) :
    (session.move (.interpret nodes)).session.state.layout = nodes.foldl Layout.after {} :=
  Interpretation.layout_ofNodes nodes

theorem layout_applied (session : Session) (nodes : List Node) :
    (session.after (nodes.map .apply)).state.layout =
      nodes.foldl Layout.after session.state.layout := by
  induction nodes generalizing session with
  | nil => rfl
  | cons node nodes ih =>
    rw [List.foldl_cons, ← layout_apply]
    exact ih (session.move (.apply node)).session

theorem sized_move {session : Session} (sized : session.state.layout.Sized) (next : Move) :
    (session.move next).session.state.layout.Sized := by
  cases next with
  | apply node =>
    rw [layout_apply]
    rcases session.state.layout.after_cases node with same | step
    · rw [same]
      exact sized
    · exact sized.step step
  | interpret nodes => exact Interpretation.ofNodes_sized nodes

theorem sized_after {session : Session} (sized : session.state.layout.Sized) (moves : List Move) :
    (session.after moves).state.layout.Sized := by
  induction moves generalizing session with
  | nil => exact sized
  | cons next moves ih => exact ih (sized_move sized next)

/-- What holds of a session at any time: its layout can be drawn, statements applied from then on keep
what has been set, and a script is an empty layout with its statements applied; a statement in error
changes nothing at all, and any other takes one step. -/
structure Steady (session : Session) : Prop where
  drawable : session.state.layout.Drawable
  kept : ∀ nodes : List Node,
    session.state.layout.Keeps (session.after (nodes.map .apply)).state.layout
  emptied : (session.move (.interpret [])).session.state.layout = {}
  interpreted : ∀ nodes : List Node, (session.move (.interpret nodes)).session.state.layout =
    ((session.move (.interpret [])).session.after (nodes.map .apply)).state.layout
  refused : ∀ node failure, (session.move (.apply node)).answer = .error failure →
    (session.move (.apply node)).session = session
  applied : ∀ node answer, (session.move (.apply node)).answer = .ok answer →
    ∃ next, session.state.layout.Step node next ∧ (session.move (.apply node)).session =
      { session with state := { session.state with layout := next } }

theorem refused_apply {session : Session} {node : Node} {failure : Failure}
    (failed : (session.move (.apply node)).answer = .error failure) :
    (session.move (.apply node)).session = session := by
  cases result : session.state.layout.apply node with
  | error diagnostic => simp [move, apply, applyAll, result]
  | ok found =>
    have done : (session.move (.apply node)).answer = .ok .done := by
      simp only [move, apply, applyAll, result]
      rfl
    rw [done] at failed
    cases failed

theorem applied_apply {session : Session} {node : Node} {answer : Answer}
    (finished : (session.move (.apply node)).answer = .ok answer) :
    ∃ next, session.state.layout.Step node next ∧ (session.move (.apply node)).session =
      { session with state := { session.state with layout := next } } := by
  cases result : session.state.layout.apply node with
  | error diagnostic =>
    have refused : (session.move (.apply node)).answer = .error (.diagnostic diagnostic) := by
      simp only [move, apply, applyAll, result]
      rfl
    rw [refused] at finished
    cases finished
  | ok found =>
    have step := Layout.step_of_apply result
    exact ⟨found.1, step, by simp [move, apply, applyAll, result]⟩

/-- Moves of any kind, failing or not, lead to nothing else. -/
theorem steady_after (moves : List Move) : (after {} moves).Steady where
  drawable := (sized_after Layout.sized_empty moves).drawable
  -- Only scripts forget, so what was set is compared along statements alone.
  kept := fun nodes => by
    rw [layout_applied]
    exact (after {} moves).state.layout.keeps_foldl nodes
  emptied := rfl
  interpreted := fun nodes => by
    rw [layout_applied, layout_interpret]
    rfl
  refused := fun _ _ failed => refused_apply failed
  applied := fun _ _ finished => applied_apply finished

end Session

end PlotScript

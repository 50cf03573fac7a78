import PlotScript.Ledger
import PlotScript.Proofs.Interpretation
import PlotScript.Proofs.Session

/-!
The layout that is kept with flags and values apart. Nothing is written before the last check, so what
it goes through is that of a layout whose directives are set or not.
-/

namespace PlotScript

namespace Ledger

def write (ledger : Ledger) : Directive → Ledger
  | .frame x y width height => { ledger with position := (x, y), size := (width, height) }
  | .resolution width height => { ledger with resolution := (width, height) }
  | .output path => { ledger with path }
  | .printNow => ledger

def values (ledger : Ledger) : DirectiveName → Directive
  | .frame => .frame ledger.position.1 ledger.position.2 ledger.size.1 ledger.size.2
  | .resolution => .resolution ledger.resolution.1 ledger.resolution.2
  | .output => .output ledger.path
  | .printNow => .printNow

variable (ledger : Ledger)

theorem claim_run (name : DirectiveName) (span : Option Span) (next : Unit → Update Unit) :
    (claim name span >>= next).run.run ledger =
      if ledger.flag name then (.error ⟨.repeatedDirective name, span⟩, ledger)
      else (next ()).run.run (ledger.withFlag name) := by
  change ((if ledger.flag name then _ else _ : Update Unit) >>= next).run.run ledger = _
  split <;> rfl

theorem outcome_directive (command : Directive) (span : Option Span) :
    ledger.outcome (.directive command span) =
      match command.flaw? with
      | some cause => (.error ⟨cause, span⟩, ledger)
      | none =>
        if ledger.flag command.name then (.error ⟨.repeatedDirective command.name, span⟩, ledger)
        else (.ok (), (ledger.withFlag command.name).write command) := by
  cases command with
  | frame x y width height =>
    rw [outcome, apply, direct, Directive.flaw?]
    by_cases valid : 0 < width ∧ 0 < height
    · rw [if_neg (by omega), if_pos valid]
      exact claim_run ledger .frame span _
    · rw [if_pos (by omega), if_neg valid]
      rfl
  | resolution width height =>
    rw [outcome, apply, direct, Directive.flaw?]
    by_cases valid : 0 ≤ width ∧ 0 ≤ height
    · rw [if_neg (by omega), if_pos valid]
      exact claim_run ledger .resolution span _
    · rw [if_pos (by omega), if_neg valid]
      rfl
  | output path => exact claim_run ledger .output span _
  | printNow =>
    have claimed := claim_run ledger .printNow span pure
    rw [bind_pure] at claimed
    exact claimed

theorem outcome_of_not_directive {node : Node} (other : ∀ command span, node ≠ .directive command span) :
    ledger.outcome node = (.ok (), (node.solution?.map ledger.withEquation).getD ledger) := by
  cases node with
  | equals left right span =>
    change (equate left right).run.run ledger = _
    rw [equate, Node.solution?]
    split
    · rfl
    · cases Equation.solve left right <;> rfl
  | directive command span => exact absurd rfl (other command span)
  | _ => rfl

/-- What a statement changes that does not fail: one directive, or no more than one equation. -/
inductive Change : Node → Ledger → Prop
  | set {command : Directive} {span : Option Span} : ledger.flag command.name = false →
      Change (.directive command span) ((ledger.withFlag command.name).write command)
  | added {node solved : Node} : node.solution? = some solved →
      Change node (ledger.withEquation solved)
  | nothing {node : Node} : Change node ledger

theorem outcome_cases (node : Node) :
    (∃ diagnostic, ledger.outcome node = (.error diagnostic, ledger)) ∨
      ∃ later, ledger.outcome node = (.ok (), later) ∧ ledger.Change node later := by
  by_cases command : ∃ command span, node = .directive command span
  · obtain ⟨command, span, rfl⟩ := command
    rw [outcome_directive]
    cases command.flaw? with
    | some cause => exact .inl ⟨_, rfl⟩
    | none =>
      dsimp only
      cases used : ledger.flag command.name with
      | true => exact .inl ⟨_, if_pos rfl⟩
      | false => exact .inr ⟨_, if_neg Bool.false_ne_true, .set used⟩
  · rw [outcome_of_not_directive ledger fun found span same => command ⟨found, span, same⟩]
    cases solved : node.solution? with
    | none => exact .inr ⟨_, rfl, .nothing⟩
    | some solution => exact .inr ⟨_, rfl, .added solved⟩

theorem after_change (node : Node) :
    ledger.after node = ledger ∨ ledger.Change node (ledger.after node) := by
  rw [after]
  rcases ledger.outcome_cases node with ⟨diagnostic, ended⟩ | ⟨later, ended, change⟩
  · rw [ended]
    exact .inl rfl
  · rw [ended]
    exact .inr change

variable {ledger} {node : Node} {name : DirectiveName}

theorem after_of_error {diagnostic : Diagnostic} (failed : (ledger.outcome node).1 = .error diagnostic) :
    ledger.after node = ledger := by
  rw [after]
  rcases ledger.outcome_cases node with ⟨found, ended⟩ | ⟨later, ended, _⟩
  · rw [ended]
  · rw [ended] at failed
    cases failed

theorem change_of_ok (done : (ledger.outcome node).1 = .ok ()) :
    ledger.Change node (ledger.after node) := by
  rw [after]
  rcases ledger.outcome_cases node with ⟨found, ended⟩ | ⟨later, ended, change⟩
  · rw [ended] at done
    cases done
  · rw [ended]
    exact change

theorem flag_write (command : Directive) :
    ((ledger.withFlag command.name).write command).flag name =
      (decide (command.name = name) || ledger.flag name) := by
  cases command <;> cases name <;> rfl

theorem values_write (command : Directive) :
    ((ledger.withFlag command.name).write command).values name =
      if command.name = name then command else ledger.values name := by
  cases command <;> cases name <;> rfl

theorem flag_withEquation (right : Node) :
    (ledger.withEquation right).flag name = ledger.flag name := by
  cases name <;> rfl

theorem values_withEquation (right : Node) :
    (ledger.withEquation right).values name = ledger.values name := by
  cases name <;> rfl

theorem Change.kept {later : Ledger} (change : ledger.Change node later) (used : ledger.flag name) :
    later.flag name ∧ later.values name = ledger.values name := by
  cases change with
  | @set command span unused =>
    have other : command.name ≠ name := by
      rintro rfl
      rw [unused] at used
      cases used
    rw [flag_write, values_write, if_neg other, used, Bool.or_true]
    exact ⟨rfl, rfl⟩
  | added _ => exact ⟨(flag_withEquation _).trans used, values_withEquation _⟩
  | nothing => exact ⟨used, rfl⟩

theorem kept_after (used : ledger.flag name) (node : Node) :
    (ledger.after node).flag name ∧ (ledger.after node).values name = ledger.values name := by
  rcases ledger.after_change node with same | change
  · rw [same]
    exact ⟨used, rfl⟩
  · exact change.kept used

theorem kept_foldl (used : ledger.flag name) (nodes : List Node) :
    (nodes.foldl after ledger).flag name ∧
      (nodes.foldl after ledger).values name = ledger.values name := by
  induction nodes generalizing ledger with
  | nil => exact ⟨used, rfl⟩
  | cons node nodes ih =>
    obtain ⟨used', same⟩ := kept_after used node
    obtain ⟨used'', same'⟩ := ih used'
    exact ⟨used'', same'.trans same⟩

def Plain (ledger : Ledger) : Prop :=
  ∀ name, ledger.flag name = false → ledger.values name = ({} : Ledger).values name

theorem Change.plain {later : Ledger} (change : ledger.Change node later) (plain : ledger.Plain) :
    later.Plain := by
  intro name unused
  cases change with
  | @set command span _ =>
    rw [flag_write, Bool.or_eq_false_iff] at unused
    rw [values_write, if_neg (of_decide_eq_false unused.1)]
    exact plain name unused.2
  | added _ =>
    rw [flag_withEquation] at unused
    rw [values_withEquation]
    exact plain name unused
  | nothing => exact plain name unused

theorem plain_foldl (plain : ledger.Plain) (nodes : List Node) : (nodes.foldl after ledger).Plain := by
  induction nodes generalizing ledger with
  | nil => exact plain
  | cons node nodes ih =>
    refine ih ?_
    rcases ledger.after_change node with same | change
    · rwa [same]
    · exact change.plain plain

end Ledger

def Layout.ledger (layout : Layout) : Ledger where
  setFrame := layout.frame?.isSome
  setResolution := layout.resolution?.isSome
  setPath := layout.path?.isSome
  printNow := layout.printNow
  position := (layout.frame.x, layout.frame.y)
  size := (layout.frame.width, layout.frame.height)
  resolution := (layout.resolution.width, layout.resolution.height)
  path := layout.path
  equations := layout.equations

namespace Layout

theorem flag_ledger (layout : Layout) (name : DirectiveName) :
    layout.ledger.flag name = (layout.used? name).isSome := by
  cases name with
  | printNow => cases printed : layout.printNow <;> simp [ledger, Ledger.flag, used?, printed]
  | _ => exact Option.isSome_map.symm

theorem ledger_assign (layout : Layout) (command : Directive) :
    (layout.assign command).ledger = (layout.ledger.withFlag command.name).write command := by
  cases command <;> rfl

/-- With flags and values apart a statement ends as it does on the layout, and leaves what is left
there. -/
theorem outcome_ledger (layout : Layout) (node : Node) :
    layout.ledger.outcome node =
      ((layout.apply node).map fun _ => (), (layout.after node).ledger) := by
  cases node with
  | directive command span =>
    rw [Ledger.outcome_directive, after, apply, direct_eq, flag_ledger]
    cases command.flaw? with
    | some cause => rfl
    | none =>
      dsimp only
      split
      · rfl
      · rw [← ledger_assign]
        rfl
  | equals left right span =>
    rw [Ledger.outcome_of_not_directive _ (by simp), after_equals]
    cases (Node.equals left right span).solution? <;> rfl
  | _ => rfl

end Layout

namespace Ledger

def move (ledger : Ledger) : Session.Move → Ledger
  | .apply node => ledger.after node
  | .interpret nodes => nodes.foldl after {}

variable {ledger : Ledger}

theorem after_ledger (layout : Layout) (node : Node) :
    layout.ledger.after node = (layout.after node).ledger := by
  rw [after, layout.outcome_ledger]

theorem foldl_ledger (layout : Layout) (nodes : List Node) :
    nodes.foldl after layout.ledger = (nodes.foldl Layout.after layout).ledger := by
  induction nodes generalizing layout with
  | nil => rfl
  | cons node nodes ih => rw [List.foldl_cons, after_ledger, ih, List.foldl_cons]

theorem move_ledger (session : Session) (next : Session.Move) :
    session.state.layout.ledger.move next = (session.move next).session.state.layout.ledger := by
  cases next with
  | apply node =>
    rw [Session.layout_apply]
    exact after_ledger _ node
  | interpret nodes =>
    rw [Session.layout_interpret]
    exact foldl_ledger {} nodes

theorem moves_ledger (session : Session) (moves : List Session.Move) :
    moves.foldl move session.state.layout.ledger = (session.after moves).state.layout.ledger := by
  induction moves generalizing session with
  | nil => rfl
  | cons next moves ih =>
    rw [List.foldl_cons, move_ledger, ih]
    rfl

theorem plain_empty : ({} : Ledger).Plain := fun _ _ => rfl

theorem Plain.move (plain : ledger.Plain) (next : Session.Move) : (ledger.move next).Plain := by
  cases next with
  | apply node => exact plain_foldl plain [node]
  | interpret nodes => exact plain_foldl plain_empty nodes

theorem Plain.moves (plain : ledger.Plain) (moves : List Session.Move) :
    (moves.foldl Ledger.move ledger).Plain := by
  induction moves generalizing ledger with
  | nil => exact plain
  | cons next moves ih => exact ih (plain.move next)

/-- What holds of a ledger at any time: sizes that can be drawn, plain values below every flag that is
not up, and the same values below one that is for as long as statements are applied; a statement that
fails leaves every field, and any other sets one directive or adds one equation at most. -/
structure Steady (ledger : Ledger) : Prop where
  size : 1 ≤ ledger.size.1 ∧ 1 ≤ ledger.size.2
  resolution : 0 ≤ ledger.resolution.1 ∧ 0 ≤ ledger.resolution.2
  plain : ledger.Plain
  kept : ∀ (nodes : List Node) name, ledger.flag name →
    (nodes.foldl after ledger).flag name ∧
      (nodes.foldl after ledger).values name = ledger.values name
  refused : ∀ node diagnostic, (ledger.outcome node).1 = .error diagnostic →
    ledger.after node = ledger
  applied : ∀ node, (ledger.outcome node).1 = .ok () → ledger.Change node (ledger.after node)

theorem steady_moves (moves : List Session.Move) : (moves.foldl move {}).Steady := by
  have sized : (Session.after {} moves).state.layout.Sized :=
    Session.sized_after Layout.sized_empty moves
  have same : moves.foldl move {} = (Session.after {} moves).state.layout.ledger :=
    moves_ledger {} moves
  exact {
    size := same ▸ sized.frame
    resolution := same ▸ sized.resolution
    plain := plain_empty.moves moves
    kept := fun nodes _ used => kept_foldl used nodes
    refused := fun _ _ => after_of_error
    applied := fun _ => change_of_ok }

end Ledger

end PlotScript

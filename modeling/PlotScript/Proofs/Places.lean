import PlotScript.Proofs.Drawing.Failure
import PlotScript.Proofs.Grammar.Places
import PlotScript.Proofs.Grammar.Refusal
import PlotScript.Proofs.Interpretation
import PlotScript.Proofs.Lexis.Misfit

namespace PlotScript

open PlotScript.Span (Inside)

namespace Node

theorem Placed.solution {outer span : Span} {node solved : Node} (placed : Placed outer node)
    (found : node.span = some span) (solution : node.solution? = some solved) :
    solved.All fun part => Inside part.span span := by
  obtain ⟨same, found', within⟩ := placed.inside
  cases found.symm.trans found'
  have own : Placed span node := ⟨placed.nested, span, found, within.itself⟩
  have joined {left right node : Node} (first : Inside left.span span) (second : Inside right.span span)
      (joins : Joins left right node) : Inside node.span span := by
    rw [joins.2]
    exact first.hull? second
  cases node with
  | equals left right _ => exact own.all.2.1.solution joined own.all.2.2 solution
  | _ => cases solution

end Node

theorem Grammar.Refusal.inside {tokens : List Token} {found : Diagnostic} {outer : Span}
    (refusal : Refusal tokens (.diagnostic found)) (spread : Spread outer tokens) :
    Inside found.span outer := by
  generalize same : Failure.diagnostic found = failure at refusal
  cases refusal with
  | @illegal token member =>
    cases same
    exact ⟨token.span, rfl, spread.within token member⟩
  | @missing token _ member =>
    cases same
    exact ⟨token.span, rfl, spread.within token member⟩
  | long => cases same

theorem inside_of_ofScript {source text : String} {found : Diagnostic}
    (refused : Node.ofScript source text = .error (.diagnostic found)) :
    Inside found.span ⟨source, 0, text.length⟩ := by
  rw [Node.ofScript] at refused
  cases scanned : Token.scan source text with
  | error diagnostic =>
    rw [scanned] at refused
    cases refused
    exact (Lexis.scan_misfits scanned).2
  | ok tokens =>
    rw [scanned] at refused
    exact (Grammar.refusal_of_ofTokens scanned refused).inside (Grammar.spread_of_scan scanned)

theorem placed_of_ofScript {source text : String} {nodes : List Node}
    (read : Node.ofScript source text = .ok nodes) :
    (∀ node ∈ nodes, Node.Placed ⟨source, 0, text.length⟩ node) ∧ nodes.Pairwise Node.Before := by
  obtain ⟨tokens, scanned, read⟩ := Grammar.ofScript_eq_ok_iff.mp read
  obtain ⟨program, _⟩ := (Grammar.scanned_of_scan scanned).program read
  exact program.placed (Grammar.spread_of_scan scanned)

/-- Every diagnostic points at the right place. That of a script which can not be read lies within the
script; in one that is read, nodes lie within each other as trees and statements lie apart; that of a
directive has the very span of it; and that of a picture lies within the equation whose solution it
comes from. -/
theorem diagnostics_in_place (source text : String) :
    (∀ found, Node.ofScript source text = .error (.diagnostic found) →
      Inside found.span ⟨source, 0, text.length⟩) ∧
    ∀ nodes, Node.ofScript source text = .ok nodes →
      (∀ node ∈ nodes, Node.Placed ⟨source, 0, text.length⟩ node) ∧
      nodes.Pairwise Node.Before ∧
      (∀ error ∈ (Interpretation.ofNodes nodes).errors, ∃ before command span after,
        nodes = before ++ .directive command span :: after ∧
          (Interpretation.ofNodes before).layout.direct span command = .error error ∧
            error.span = span) ∧
      ∀ limit found,
        (Interpretation.ofNodes nodes).layout.render limit = .error (.diagnostic found) →
          ∃ node ∈ nodes, ∃ equation x span, node.solution? = some equation ∧
            equation.branches limit x = .error (.diagnostic found) ∧ node.span = some span ∧
              Inside found.span span := by
  refine ⟨fun found => inside_of_ofScript, ?_⟩
  intro nodes read
  obtain ⟨placed, apart⟩ := placed_of_ofScript read
  refine ⟨placed, apart, ?_, ?_⟩
  · intro error member
    obtain ⟨before, command, span, after, split, refused⟩ := Interpretation.directive_of_error member
    exact ⟨before, command, span, after, split, refused, (Layout.direct_error refused).1⟩
  · intro limit found failed
    have sized : (Interpretation.ofNodes nodes).layout.Sized := Interpretation.ofNodes_sized nodes
    rcases sized.fails failed with unfit | ⟨equation, listed, x, wrong⟩
    · cases unfit
    rw [Interpretation.equations_ofNodes] at listed
    obtain ⟨node, member, solution⟩ := List.mem_filterMap.mp listed
    obtain ⟨span, known, _⟩ := (placed node member).inside
    have inside := (placed node member).solution known solution
    obtain ⟨part, within, cause, _, same⟩ := inside.fails wrong
    cases same
    exact ⟨node, member, equation, x, span, solution, wrong, known, within⟩

end PlotScript

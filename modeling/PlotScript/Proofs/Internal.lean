import PlotScript.Proofs.Drawing.Failure
import PlotScript.Proofs.Grammar.Refusal
import PlotScript.Proofs.Interpretation
import PlotScript.Proofs.Lexis.Misfit
import PlotScript.Proofs.Printing.RoundTrip

/-!
Failures that no script meets. Each stage makes only what the next one knows: the tables of keywords
have every keyword of a scan, an expression stays one when its equation is solved, and what is divided
by is checked before.
-/

namespace PlotScript

/-- A failure of the program and not of the script: a word or a node that is not known where it
stands, or a division by zero that is not reported as such. -/
def Failure.Internal : Failure → Prop
  | .diagnostic found => found.kind = "InternalError"
  | .interpretation found => ∃ error ∈ found, error.kind = "InternalError"
  | .fault found => found = .dividedByZero ∨ found = .floatDividedByZero

def Node.IsTerm : Node → Prop
  | .equals _ _ _ | .directive _ _ => False
  | _ => True

theorem Lexis.Unlexable.known {cause : Cause} (unlexable : Unlexable cause) :
    cause.kind ≠ "InternalError" := by
  cases unlexable <;> simp [Cause.kind]

theorem Grammar.Refusal.not_internal {tokens : List Token} {failure : Failure}
    (refusal : Refusal tokens failure) : ¬ failure.Internal := by
  cases refusal <;> simp [Failure.Internal, Failure.of, Diagnostic.kind, Cause.kind]

theorem Interpretation.error_known {nodes : List Node} {error : Diagnostic}
    (member : error ∈ (ofNodes nodes).errors) : error.kind ≠ "InternalError" := by
  obtain ⟨_, _, _, _, _, refused⟩ := directive_of_error member
  rcases (Layout.direct_error refused).2 with kind | kind
  · simp [kind]
  · simp [kind]

theorem Interpretation.result_not_internal {nodes : List Node} {failure : Failure}
    (failed : (ofNodes nodes).result = .error failure) : ¬ failure.Internal := by
  rw [result] at failed
  split at failed
  · cases failed
  · cases failed
    rintro ⟨error, member, kind⟩
    exact error_known member kind

theorem Printing.Expression.terms {node : Node} (expression : Expression node) :
    node.All Node.IsTerm := by
  induction expression with
  | number _ | symbol _ => trivial
  | trig _ ih => exact ⟨trivial, ih⟩
  | arithmetic _ _ ih ih' | power _ _ ih ih' | root _ _ ih ih' => exact ⟨trivial, ih, ih'⟩

theorem Printing.Sentence.terms {node solved : Node} (sentence : Sentence node)
    (found : node.solution? = some solved) : solved.All Node.IsTerm := by
  have joined {left right node : Node} (_ : left.IsTerm) (_ : right.IsTerm)
      (joins : Node.Joins left right node) : node.IsTerm := by
    have operation := joins.1
    cases node <;> first | exact operation | trivial
  cases sentence with
  | equals left right => exact left.terms.solution joined right.terms found
  | directive _ _ => cases found

theorem Node.Fails.not_internal {limit : Int} {x : Float} {part : Node} {failure : Failure}
    (fails : part.Fails limit x failure) (isTerm : part.IsTerm) : ¬ failure.Internal := by
  obtain ⟨cause, refused, rfl⟩ := fails
  cases refused with
  | command => exact isTerm.elim
  | _ => simp [Failure.Internal, Failure.of, Diagnostic.kind, Cause.kind]

/-- Whatever the text and the limit, no stage ends with an internal failure: every keyword of a scan is
known to the parser, no equation of the layout has a directive or an equation in it, no coordinate is
divided by zero, and what an evaluation divides by is checked before. -/
theorem never_internal (source text : String) (limit : Int) :
    (∀ diagnostic, Token.scan source text = .error diagnostic →
      ¬ (Failure.diagnostic diagnostic).Internal) ∧
    ∀ tokens, Token.scan source text = .ok tokens →
      (∀ token ∈ tokens, Grammar.Keyword token) ∧
      (∀ failure, Node.ofTokens tokens = .error failure → ¬ failure.Internal) ∧
      ∀ nodes, Node.ofTokens tokens = .ok nodes →
        let state := Interpretation.ofNodes nodes
        (∀ failure, state.result = .error failure → ¬ failure.Internal) ∧
        (0 < state.layout.pixels.width ∧ 0 < state.layout.pixels.height) ∧
        (∀ equation ∈ state.layout.equations, equation.All Node.IsTerm ∧
          ∀ x failure, equation.branches limit x = .error failure → ¬ failure.Internal) ∧
        ∀ failure, state.layout.render limit = .error failure → ¬ failure.Internal := by
  refine ⟨fun diagnostic refused => (Lexis.scan_misfits refused).1.known, ?_⟩
  intro tokens scanned
  refine ⟨Grammar.keyword_of_scan scanned, ?_, ?_⟩
  · intro failure refused
    exact (Grammar.refusal_of_ofTokens scanned refused).not_internal
  intro nodes read state
  have sized : state.layout.Sized := Interpretation.ofNodes_sized nodes
  have script : Node.ofScript source text = .ok nodes :=
    Grammar.ofScript_eq_ok_iff.mpr ⟨tokens, scanned, read⟩
  have terms : ∀ equation ∈ state.layout.equations, equation.All Node.IsTerm := by
    intro equation listed
    rw [Interpretation.equations_ofNodes] at listed
    obtain ⟨node, member, solved⟩ := List.mem_filterMap.mp listed
    exact (Printing.sentence_of_ofScript script member).terms solved
  have evaluation : ∀ equation ∈ state.layout.equations, ∀ x failure,
      equation.branches limit x = .error failure → ¬ failure.Internal := by
    intro equation listed x failure failed
    obtain ⟨part, isTerm, fails⟩ := (terms equation listed).fails failed
    exact fails.not_internal isTerm
  refine ⟨fun failure => Interpretation.result_not_internal, sized.pixels, ?_, ?_⟩
  · intro equation listed
    exact ⟨terms equation listed, evaluation equation listed⟩
  · intro failure failed
    rcases sized.fails failed with rfl | ⟨equation, listed, x, wrong⟩
    · simp [Failure.Internal]
    · exact evaluation equation listed x failure wrong

end PlotScript

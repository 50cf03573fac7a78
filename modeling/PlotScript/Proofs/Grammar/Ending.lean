import PlotScript.Proofs.Grammar.Bound

/-!
Readings that end, and readings that never do. The tokens need not be those of a script: behind the last
one it is seen again and again, and a reading ends unless that token begins an operand.
-/

namespace PlotScript

open Reader

/-- The outcome of a reading without a bound: every bound from some one on leads to it, and what it ends
with is not the bound. -/
def Stream.ComesTo (stream : Stream) (outcome : Except Failure (List Node)) : Prop :=
  outcome ≠ .error (.fault .endless) ∧
    ∃ least, ∀ bound ≥ least, statements bound stream = outcome

theorem Stream.Ends.comesTo {first : Token} {rest : List Token} (ends : Stream.Ends ⟨first, rest⟩) :
    Stream.ComesTo ⟨first, rest⟩ (Node.ofTokens (first :: rest)) := by
  have enough := Nat.le_refl (Stream.bound ⟨first, rest⟩)
  refine ⟨(Grammar.statements_bound ends enough enough).2, Stream.bound ⟨first, rest⟩, fun bound large => ?_⟩
  exact ((Grammar.statements_bound ends enough large).1).symm

namespace Grammar

/-- Every list of tokens is read to an end, in whatever order they stand and wherever the ends of lines
and of the text are or are missing, unless the last token, which is read again and again, can begin an
operand. -/
theorem ofTokens_finishes (tokens : List Token)
    (last : ∀ token ∈ tokens.getLast?, token.kind ∉ [TokenKind.number, .symbol, .leftParen]) :
    Node.ofTokens tokens ≠ .error (.fault .endless) ∧ ∀ first rest, tokens = first :: rest →
      Stream.ComesTo ⟨first, rest⟩ (Node.ofTokens tokens) := by
  cases tokens with
  | nil => exact ⟨by simp [Node.ofTokens], by simp⟩
  | cons first rest =>
    have ends : Stream.Ends ⟨first, rest⟩ := last _ (by simp [Stream.last, List.getLast?_cons])
    refine ⟨ends.comesTo.1, fun head tail split => ?_⟩
    cases split
    exact ends.comesTo

theorem ofTokens_finishes_groups :
    let opening : Token := ⟨.leftParen, "", "curve", 0, 1⟩
    let tokens : List Token := [opening, opening, ⟨.symbol, "x", "curve", 1, 2⟩,
      ⟨.rightParen, "", "curve", 2, 3⟩]
    let refused := Failure.of (.missingToken .endOfLine) (some ⟨"curve", 2, 3⟩)
    (∀ token ∈ tokens.getLast?, token.kind ∉ [TokenKind.number, .symbol, .leftParen]) ∧
      Node.ofTokens tokens = .error refused ∧
      Stream.ComesTo ⟨opening, tokens.tail⟩ (.error refused) := by
  intro opening tokens refused
  have last : ∀ token ∈ tokens.getLast?, token.kind ∉ [TokenKind.number, .symbol, .leftParen] := by
    decide +kernel
  have read : Node.ofTokens tokens = .error refused := rfl
  have finishes := (ofTokens_finishes tokens last).2 opening tokens.tail rfl
  exact ⟨last, read, read ▸ finishes⟩

section

variable {token : Token}

theorem juxtaposition_endless {operand : Reader Node} {node : Node} {stream : Stream}
    (stays : operand stream = .ok (node, stream)) (starts : stream.current.kind.startsOperand)
    (bound : Nat) : juxtaposition operand bound stream = .error (.fault .endless) := by
  induction bound with
  | zero => rfl
  | succ bound ih =>
    simp only [juxtaposition, stays, Outcome.ok_bind, starts, if_true, ih]
    rfl

theorem term_endless (begins : token.kind = .symbol ∨ token.kind = .leftParen) (bound : Nat) :
    term bound ⟨token, []⟩ = .error (.fault .endless) := by
  induction bound with
  | zero => rfl
  | succ bound ih =>
    have factor : juxtaposition (operand (term bound)) bound ⟨token, []⟩ =
        .error (.fault .endless) := by
      rcases begins with kind | kind
      · have stays : operand (term bound) ⟨token, []⟩ =
            .ok (.symbol token.value token.span, ⟨token, []⟩) := by
          simp only [operand, kind]
          rfl
        exact juxtaposition_endless stays (by simp [kind, TokenKind.startsOperand]) bound
      · have inside : operand (term bound) ⟨token, []⟩ = .error (.fault .endless) := by
          simp only [operand, kind, group, Stream.advance, ih]
          rfl
        cases bound with
        | zero => rfl
        | succ bound =>
          rw [juxtaposition, inside]
          rfl
    simp only [term, row, factor]
    rfl

theorem lone_endless (begins : token.kind = .symbol ∨ token.kind = .leftParen)
    (outcome : Except Failure (List Node)) : ¬ Stream.ComesTo ⟨token, []⟩ outcome := by
  rintro ⟨ended, least, comes⟩
  have expression := term_endless begins least
  have endless : statements (least + 1) ⟨token, []⟩ = .error (.fault .endless) := by
    rcases begins with kind | kind <;>
      simp only [statements, statement, kind, equation, expression] <;> rfl
  exact ended ((comes (least + 1) (Nat.le_succ least)).symm.trans endless)

end

end Grammar

end PlotScript

import PlotScript.Proofs.Lexis.Blanks
import PlotScript.Proofs.Printing.RoundTrip

namespace PlotScript.Grammar

open Lexis

def placed (span : Span) (outcome : Except Failure (List Node)) : Except Failure (List Node) :=
  (outcome.map (List.map (Node.mapSpans fun _ => span))).mapError (Failure.mapSpans fun _ => span)

theorem placed_ofTokens (span : Span) (move : Span → Span) (tokens : List Token) :
    placed span (Node.ofTokens (tokens.map (Token.mapSpan move))) =
      placed span (Node.ofTokens tokens) := by
  -- The move need not keep hulls, but putting all tokens in one place does.
  have hulls (first second : Span) :
      (fun _ => span) (first.hull second) = Span.hull ((fun _ => span) first) ((fun _ => span) second) :=
    span.hull_self.symm
  rw [placed, placed, ← ofTokens_mapSpans hulls, ← ofTokens_mapSpans hulls, List.map_map]
  rfl

theorem listAgrees_of_eraseSpans {nodes others : List Node}
    (same : others.map Node.eraseSpans = nodes.map Node.eraseSpans)
    (numbers : ∀ node ∈ nodes, ∀ value ∈ node.numbers, value == value) :
    Node.listAgrees others nodes := by
  induction nodes generalizing others with
  | nil =>
    rw [List.map_nil, List.map_eq_nil_iff] at same
    rw [same]
    rfl
  | cons node nodes ih =>
    obtain ⟨other, rest, rfl, head, tail⟩ := List.map_eq_cons_iff.mp same
    have alike : other.agrees node := by
      rw [← Node.agrees_eraseSpans, head, Node.agrees_eraseSpans]
      exact Node.agrees_self (numbers node List.mem_cons_self)
    have later := ih tail fun node member => numbers node (List.mem_cons_of_mem _ member)
    simp [Node.listAgrees, alike, later]

/-- Blanks put into a script that is scanned, at a place within no token and not between two letters,
leave every token its kind and its text. A token that begins at the place or behind it moves by as
many characters as there are blanks, also the two that close the script, and every other token ends
at the place or before it and stays. The script is then read as equal statements, or refused for the
same cause. -/
theorem scan_blanks {source before after blanks : String} {tokens : List Token}
    (scanned : Token.scan source (before ++ after) = .ok tokens)
    (outside : ∀ token ∈ tokens, ¬ token.span.Around before.length)
    (apart : ¬ AmidLetters before.toList after.toList)
    (blank : ∀ c ∈ blanks.toList, c = ' ' ∨ c = '\t') :
    Token.scan source (before ++ blanks ++ after) =
        .ok (tokens.map (Token.mapSpan (.makeRoom before.length blanks.length))) ∧
      (∀ nodes, Node.ofScript source (before ++ after) = .ok nodes →
        ∃ again, Node.ofScript source (before ++ blanks ++ after) = .ok again ∧
          Node.listAgrees again nodes ∧
            again.map Node.eraseSpans = nodes.map Node.eraseSpans) ∧
      ∀ failure, Node.ofScript source (before ++ after) = .error failure →
        ∃ moved, Node.ofScript source (before ++ blanks ++ after) = .error moved ∧
          ∀ span, moved.mapSpans (fun _ => span) = failure.mapSpans fun _ => span := by
  have spaced := scan_spaced scanned outside apart blank
  have same (span : Span) : placed span (Node.ofScript source (before ++ blanks ++ after)) =
      placed span (Node.ofScript source (before ++ after)) := by
    rw [Node.ofScript, Node.ofScript, spaced, scanned]
    exact placed_ofTokens span _ tokens
  refine ⟨spaced, fun nodes read => ?_, fun failure failed => ?_⟩
  · rw [read] at same
    cases found : Node.ofScript source (before ++ blanks ++ after) with
    | error failure =>
      rw [found] at same
      cases same ⟨source, 0, 0⟩
    | ok again =>
      rw [found] at same
      have alike : again.map Node.eraseSpans = nodes.map Node.eraseSpans := by
        have erased := congrArg (List.map Node.eraseSpans) (Except.ok.inj (same ⟨source, 0, 0⟩))
        simpa [Function.comp_def, Node.eraseSpans_mapSpans] using erased
      refine ⟨again, rfl, listAgrees_of_eraseSpans alike fun node member value inside => ?_, alike⟩
      exact (Printing.sentence_of_ofScript read member).beq_self inside
  · rw [failed] at same
    cases found : Node.ofScript source (before ++ blanks ++ after) with
    | ok again =>
      rw [found] at same
      cases same ⟨source, 0, 0⟩
    | error moved =>
      rw [found] at same
      exact ⟨moved, rfl, fun span => Except.error.inj (same span)⟩

theorem scan_blanks_inside : ∃ tokens nodes again,
    Token.scan "curve" ("y=" ++ "xx") = .ok tokens ∧
      Token.scan "curve" ("y=" ++ " \t" ++ "xx") =
        .ok (tokens.map (Token.mapSpan (.makeRoom "y=".length " \t".length))) ∧
      Node.ofScript "curve" ("y=" ++ "xx") = .ok nodes ∧
      Node.ofScript "curve" ("y=" ++ " \t" ++ "xx") = .ok again ∧ Node.listAgrees again nodes := by
  have scanned : Token.scan "curve" ("y=" ++ "xx") = .ok
      [⟨.symbol, "y", "curve", 0, 1⟩, ⟨.equals, "", "curve", 1, 2⟩, ⟨.symbol, "x", "curve", 2, 3⟩,
        ⟨.symbol, "x", "curve", 3, 4⟩, ⟨.endOfLine, "", "curve", 4, 4⟩,
        ⟨.endOfText, "", "curve", 4, 4⟩] := by decide +kernel
  let x (start : Int) : Node := .symbol "x" (some ⟨"curve", start, start + 1⟩)
  have read : Node.ofScript "curve" ("y=" ++ "xx") =
      .ok [.equals (.symbol "y" (some ⟨"curve", 0, 1⟩))
        (.arithmetic .mul (x 2) (x 3) (some ⟨"curve", 2, 4⟩)) (some ⟨"curve", 0, 4⟩)] := by
    decide +kernel
  obtain ⟨spaced, same, _⟩ := @scan_blanks "curve" "y=" "xx" " \t" _ scanned
    (by decide +kernel) (by decide +kernel) (by simp)
  obtain ⟨again, found, agrees, _⟩ := same _ read
  exact ⟨_, _, again, scanned, spaced, read, found, agrees⟩

/-- The two tokens that close a script end and begin at its end, and move when blanks are put there. -/
theorem closing_moves_at_end : ∃ tokens spaced,
    Token.scan "curve" ("x" ++ "") = .ok tokens ∧
      Token.scan "curve" ("x" ++ " " ++ "") = .ok spaced ∧
      (∀ token ∈ tokens, ¬ token.span.Around "x".length) ∧ ¬ AmidLetters "x".toList "".toList ∧
      ∃ token ∈ tokens, token.span.stop ≤ "x".length ∧ token ∉ spaced := by
  refine ⟨[⟨.symbol, "x", "curve", 0, 1⟩, ⟨.endOfLine, "", "curve", 1, 1⟩,
    ⟨.endOfText, "", "curve", 1, 1⟩], [⟨.symbol, "x", "curve", 0, 1⟩,
    ⟨.endOfLine, "", "curve", 2, 2⟩, ⟨.endOfText, "", "curve", 2, 2⟩], ?_⟩
  decide +kernel

end PlotScript.Grammar

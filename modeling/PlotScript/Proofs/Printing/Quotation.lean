import PlotScript.Proofs.Printing.RoundTrip

namespace PlotScript

namespace Lexis

open Lexeme (quotationRun next)

theorem quotationRun_append {inside value : List Char} (quoted : Quoted inside value) (offset : Nat)
    (more : List Char) :
    quotationRun offset (inside ++ more) = (quotationRun (offset + inside.length) more).map
      fun (later, meaning, after) => (inside ++ later, value ++ meaning, after) := by
  induction quoted generalizing offset with
  | nil =>
    simp only [List.nil_append, List.length_nil, Nat.add_zero]
    cases quotationRun offset more <;> rfl
  | @plain c inside value plain _ ih =>
    simp only [List.mem_cons, List.not_mem_nil, or_false, not_or] at plain
    obtain ⟨notLine, notReturn, notQuote, notEscape⟩ := plain
    have further : offset + (c :: inside).length = offset + 1 + inside.length := by
      rw [List.length_cons]
      omega
    rw [List.cons_append, quotationRun_cons offset _ notEscape, if_neg notQuote,
      if_neg (not_or.mpr ⟨notLine, notReturn⟩), ih (offset + 1), further]
    cases quotationRun (offset + 1 + inside.length) more <;> rfl
  | @escaped c meaning inside value known _ ih =>
    have further : offset + ('\\' :: c :: inside).length = offset + 2 + inside.length := by
      simp only [List.length_cons]
      omega
    rw [List.cons_append, List.cons_append, quotationRun, unescape?_eq_some_iff.mpr known, further]
    simp only [ih (offset + 2)]
    cases quotationRun (offset + 2 + inside.length) more <;> rfl

theorem next_quote (rest : List Char) :
    next '"' rest = (quotationRun 1 rest).map
      fun (inside, value, after) => (.quotation inside value, after) := rfl

end Lexis

namespace Printing

open Lexis

/-- The characters whose visible form is not read back between quotes. -/
def isLost (c : Char) : Bool := c == '`' || c == '\r'

theorem quotationRun_lost {kept : List Char} (noTick : '`' ∉ kept) (noReturn : '\r' ∉ kept) {c : Char}
    (lost : isLost c) (offset : Nat) (rest after : List Char) :
    ∃ misfit, Lexeme.quotationRun offset ((kept ++ c :: rest).flatMap Text.visibleChar ++ after) =
      .error misfit := by
  have through := quotationRun_append (quoted_visible noReturn noTick) offset
  simp only [List.flatMap_append, List.flatMap_cons, List.append_assoc, through]
  generalize offset + (kept.flatMap Text.visibleChar).length = reached
  simp only [isLost, Bool.or_eq_true, beq_iff_eq] at lost
  rcases lost with rfl | rfl
  · exact ⟨⟨.badEscape '`', reached + 1, 1⟩, rfl⟩
  · exact ⟨⟨.lineEndsInText, reached, 1⟩, rfl⟩

theorem scan_quoted {text : String} (noTick : '`' ∉ text.toList) (noReturn : '\r' ∉ text.toList)
    (source : String) :
    ∃ stop, Token.scan source ("\"" ++ Text.visible text ++ "\"") =
      .ok (⟨.string, text, source, 0, (stop : Nat)⟩ :: Token.closing source stop) := by
  have scanned := scanFrom_of_decomposition (path_decomposition noReturn noTick) source 0
  refine ⟨("\"" ++ Text.visible text ++ "\"").toList.length, ?_⟩
  rw [Token.scan, scanned]
  simp [tokensFrom, tokensAt, pathLexeme, Text.visible]
  omega

theorem scan_lost {text : String} {c : Char} (lost : isLost c) (member : c ∈ text.toList)
    (source : String) :
    ∃ diagnostic, Token.scan source ("\"" ++ Text.visible text ++ "\"") = .error diagnostic := by
  -- Up to the first lost character the text is read as it should be.
  obtain ⟨first, found⟩ := Option.isSome_iff_exists.mp (List.find?_isSome.mpr ⟨c, member, lost⟩)
  obtain ⟨lost', kept, rest, split, before⟩ := List.find?_eq_some_iff_append.mp found
  have noTick : '`' ∉ kept := fun inside => by cases before '`' inside
  have noReturn : '\r' ∉ kept := fun inside => by cases before '\r' inside
  obtain ⟨misfit, refused⟩ := quotationRun_lost noTick noReturn lost' 1 rest ['"']
  have characters : ("\"" ++ Text.visible text ++ "\"").toList =
      '"' :: ((kept ++ first :: rest).flatMap Text.visibleChar ++ ['"']) := by
    simp [Text.visible, split]
  have failed : Lexeme.next '"' ((kept ++ first :: rest).flatMap Text.visibleChar ++ ['"']) =
      .error misfit := by
    rw [next_quote, refused]
    rfl
  exact ⟨misfit.at source 0, by rw [Token.scan, characters, Token.scanFrom, failed]⟩

/-- Making a text visible and reading it between quotes are inverse just where no backtick and no
carriage return is in the text; and no text that a script can write has a carriage return. -/
theorem scan_visible_iff (source : String) :
    (∀ text : String,
      (∃ tokens, Token.scan source ("\"" ++ Text.visible text ++ "\"") = .ok tokens ∧
        tokens.map (fun token => (token.kind, token.value)) =
          [(.string, text), (.endOfLine, ""), (.endOfText, "")]) ↔
        '`' ∉ text.toList ∧ '\r' ∉ text.toList) ∧
    ∀ script tokens, Token.scan source script = .ok tokens →
      ∀ token ∈ tokens, token.kind = .string → '\r' ∉ token.value.toList := by
  refine ⟨fun text => ⟨?_, ?_⟩, ?_⟩
  · intro ⟨tokens, scanned, _⟩
    have kept {c : Char} (lost : isLost c) : c ∉ text.toList := by
      intro member
      obtain ⟨diagnostic, failed⟩ := scan_lost lost member source
      rw [failed] at scanned
      cases scanned
    exact ⟨kept rfl, kept rfl⟩
  · intro ⟨noTick, noReturn⟩
    obtain ⟨stop, scanned⟩ := scan_quoted noTick noReturn source
    exact ⟨_, scanned, rfl⟩
  · intro script tokens scanned token member
    exact (worded_of_scan scanned token member).string

end Printing

end PlotScript

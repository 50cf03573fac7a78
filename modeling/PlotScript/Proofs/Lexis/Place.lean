import PlotScript.Proofs.Lexis.Munch

namespace PlotScript.Lexis

open Lexeme (isLetter isDigit isWordChar)

theorem Stands.bounds {source : String} {start : Nat} {text : List Char} {token : Token}
    (stands : Stands source start text token) :
    token.span.source = source ∧ start ≤ token.span.start ∧ token.span.start < token.span.stop ∧
      token.span.stop ≤ (start + text.length : Nat) := by
  obtain ⟨before, spelling, after, rfl, filled, place, _⟩ := stands
  have positive := List.length_pos_iff.mpr filled
  rw [place]
  simp only [List.length_append]
  refine ⟨trivial, ?_, ?_, ?_⟩ <;> omega

theorem Stands.append_right {source : String} {start : Nat} {text : List Char} {token : Token}
    (stands : Stands source start text token) (more : List Char) :
    Stands source start (text ++ more) token := by
  obtain ⟨before, spelling, after, rfl, rest⟩ := stands
  exact ⟨before, spelling, after ++ more, by simp, rest⟩

theorem Stands.append_left {source : String} {start : Nat} {more text : List Char} {token : Token}
    (stands : Stands source (start + more.length) text token) :
    Stands source start (more ++ text) token := by
  obtain ⟨before, spelling, after, rfl, filled, place, spelled⟩ := stands
  refine ⟨more ++ before, spelling, after, by simp, filled, ?_, spelled⟩
  rw [place, List.length_append, ← Nat.add_assoc]

theorem Laid.append {source : String} {start : Nat} {text more : List Char}
    {tokens others : List Token} (first : Laid source start text tokens)
    (second : Laid source (start + text.length) more others) :
    Laid source start (text ++ more) (tokens ++ others) where
  stands := by
    intro token member
    rcases List.mem_append.mp member with member | member
    · exact (first.stands token member).append_right more
    · exact (second.stands token member).append_left
  ordered := by
    refine List.pairwise_append.mpr ⟨first.ordered, second.ordered, ?_⟩
    intro token member other otherMember
    have left := (first.stands token member).bounds
    have right := (second.stands other otherMember).bounds
    omega
  blanks := by
    intro before c after split bare
    rcases List.append_eq_append_iff.mp split with ⟨shared, rfl, back⟩ | ⟨shared, rfl, back⟩
    · refine second.blanks shared c after back ?_
      intro token member
      have outside := bare token (List.mem_append_right tokens member)
      rwa [List.length_append, ← Nat.add_assoc] at outside
    · cases shared with
      | nil =>
        refine second.blanks [] c after back.symm ?_
        intro token member
        have outside := bare token (List.mem_append_right tokens member)
        simpa using outside
      | cons head shared =>
        rw [List.cons_append, List.cons.injEq] at back
        obtain ⟨rfl, _⟩ := back
        refine first.blanks before c shared rfl ?_
        intro token member
        exact bare token (List.mem_append_left others member)

theorem Laid.whole {source : String} {chars : List Char} {kind : TokenKind} {value : String}
    (spelled : Spells chars kind value) (filled : chars ≠ []) (start : Nat) :
    Laid source start chars [⟨kind, value, source, start, start + chars.length⟩] where
  stands := by
    intro token member
    rw [List.mem_singleton] at member
    subst member
    exact ⟨[], chars, [], by simp, filled, by simp, spelled⟩
  ordered := List.pairwise_singleton _ _
  blanks := by
    intro before c after split bare
    have outside := bare _ (List.mem_singleton.mpr rfl)
    exfalso
    apply outside
    simp only [Covers, split, List.length_append, List.length_cons]
    omega

theorem Laid.blank {source : String} {c : Char} (isBlank : c = ' ' ∨ c = '\t') (start : Nat) :
    Laid source start [c] [] where
  stands := by
    intro token member
    cases member
  ordered := List.Pairwise.nil
  blanks := by
    intro before other after split _
    cases before with
    | nil =>
      cases split
      exact isBlank
    | cons head rest => simp at split

theorem laid_letterTokens (source : String) (start : Nat) {letters : List Char}
    (all : ∀ c ∈ letters, isLetter c) :
    Laid source start letters (letterTokens source start letters) := by
  induction letters generalizing start with
  | nil => exact ⟨by simp [letterTokens], List.Pairwise.nil, by simp⟩
  | cons c rest ih =>
    have head : Laid source start [c] [⟨.symbol, c.toString, source, start, start + 1⟩] :=
      Laid.whole (.letter (all c List.mem_cons_self)) (List.cons_ne_nil c []) start
    exact head.append (ih (start + 1) fun c member => all c (List.mem_cons_of_mem _ member))

theorem NumeralTail.digits {tail : List Char} (shape : NumeralTail 0 tail) :
    ∀ c ∈ tail.filter (· ≠ '_'), isDigit c := by
  intro c member
  obtain ⟨inside, notUnderscore⟩ := List.mem_filter.mp member
  have notPoint : '.' ∉ tail := List.count_eq_zero.mp (Nat.le_zero.mp shape.2)
  rcases shape.1 c inside with digit | underscore | point
  · exact digit
  · simp [underscore] at notUnderscore
  · exact absurd (point ▸ inside) notPoint

theorem isDecimal_of_numeralTail {whole tail : List Char} (filled : whole ≠ [])
    (digits : ∀ c ∈ whole, isDigit c) (shape : NumeralTail 1 tail) :
    IsDecimal (whole ++ tail.filter (· ≠ '_')) := by
  induction tail generalizing whole with
  | nil => exact ⟨whole, filled, digits, .inl (List.append_nil whole)⟩
  | cons c rest ih =>
    have later : ∀ other ∈ rest, isDigit other ∨ other = '_' ∨ other = '.' :=
      fun other member => shape.1 other (List.mem_cons_of_mem c member)
    have count := shape.2
    by_cases isPoint : c = '.'
    · subst isPoint
      rw [List.count_cons_self] at count
      have fraction : NumeralTail 0 rest := ⟨later, by omega⟩
      exact ⟨whole, filled, digits, .inr ⟨_, fraction.digits, by simp⟩⟩
    · rw [List.count_cons_of_ne isPoint] at count
      by_cases underscore : c = '_'
      · subst underscore
        exact ih filled digits ⟨later, count⟩
      · have digit : isDigit c := by simpa [isPoint, underscore] using shape.1 c List.mem_cons_self
        have grown := @ih (whole ++ [c]) (by simp) (by simpa [or_imp, forall_and] using ⟨digits, digit⟩)
          ⟨later, count⟩
        simpa [underscore] using grown

theorem isDecimal_of_numeralRun {chars : List Char} (shape : NumeralRun chars) :
    IsDecimal (chars.filter (· ≠ '_')) := by
  obtain ⟨first, rest, rfl, digit, tail⟩ := shape
  have plain := isDigit_ne_underscore digit
  have found := isDecimal_of_numeralTail (List.cons_ne_nil first []) (by simpa using digit) tail
  simpa [plain] using found

theorem WordRun.letters {letters : List Char} (run : WordRun letters) (plain : '_' ∉ letters) :
    ∀ c ∈ letters, isLetter c := by
  obtain ⟨first, rest, rfl, letter, inside⟩ := run
  intro c member
  rcases List.mem_cons.mp member with rfl | later
  · exact letter
  · have different : c ≠ '_' := fun same => plain (same ▸ member)
    simpa [isWordChar, different] using inside c later

theorem Fits.laid {piece : Lexeme} {after : List Char} (fits : Fits piece after) (source : String)
    (start : Nat) : Laid source start piece.chars (tokensAt source start piece) := by
  cases fits with
  | blank isBlank => exact .blank isBlank start
  | lineEnd isEnd => exact .whole (.lineEnd isEnd) (List.cons_ne_nil _ _) start
  | @word letters _ longest allowed =>
    obtain ⟨first, rest, shape, _⟩ := longest.1
    have filled : letters ≠ [] := shape ▸ List.cons_ne_nil first rest
    simp only [tokensAt]
    split
    · next directive =>
      obtain ⟨name, rfl⟩ := directive
      rw [String.ofList_toList]
      exact .whole (.directive name) filled start
    split
    · next function =>
      obtain ⟨name, rfl⟩ := function
      rw [String.ofList_toList]
      exact .whole (.function name) filled start
    · next notDirective notFunction =>
      have plain : '_' ∉ letters := (allowed.resolve_left notDirective).resolve_left notFunction
      exact laid_letterTokens source start (longest.1.letters plain)
  | @numeral chars _ longest =>
    obtain ⟨first, rest, shape, _⟩ := longest.1
    exact .whole (.number longest.1 (by simp) (by simpa using isDecimal_of_numeralRun longest.1))
      (shape ▸ List.cons_ne_nil first rest) start
  | @quotation inside value _ quoted =>
    have spelled : Spells ('"' :: inside ++ ['"']) .string (String.ofList value) :=
      .string (by simpa using quoted)
    have whole : Laid source start _ _ := .whole spelled (by simp) start
    simpa [tokensAt, Lexeme.chars, Int.add_assoc] using whole
  | sign known => exact .whole (.sign known) (List.cons_ne_nil _ _) start

theorem laid_tokensFrom {pieces : List Lexeme} {text : List Char}
    (decomposed : Decomposition pieces text) (source : String) (start : Nat) :
    Laid source start text (tokensFrom source start pieces) := by
  induction decomposed generalizing start with
  | nil => exact ⟨by simp [tokensFrom], List.Pairwise.nil, by simp⟩
  | @cons piece pieces after fits _ ih => exact (fits.laid source start).append (ih _)

theorem forall_of_scan {source text : String} {tokens : List Token}
    (scanned : Token.scan source text = .ok tokens) {P : Token → Prop}
    (spelled : ∀ chars token, Spells chars token.kind token.value → P token)
    (closing : ∀ token ∈ Token.closing source text.length, P token) : ∀ token ∈ tokens, P token := by
  obtain ⟨pieces, decomposed, rfl⟩ := tokens_of_scan scanned
  have laid := laid_tokensFrom decomposed source 0
  intro token member
  rcases List.mem_append.mp member with member | member
  · obtain ⟨_, chars, _, _, _, _, spells⟩ := laid.stands token member
    exact spelled chars token spells
  · exact closing token member

theorem Longest.at_end {Shape : List Char → Prop} {run : List Char} (shape : Shape run) :
    Longest Shape run [] := by
  refine ⟨shape, ?_⟩
  intro more rest split _
  exact (List.append_eq_nil_iff.mp split.symm).1

theorem wordRun_directive (name : DirectiveName) : WordRun name.word.toList := by
  cases name <;> exact ⟨_, _, rfl, rfl, List.all_eq_true.mp rfl⟩

theorem wordRun_function (name : FunctionName) : WordRun name.word.toList := by
  cases name <;> exact ⟨_, _, rfl, rfl, List.all_eq_true.mp rfl⟩

theorem not_isDirective_function (name : FunctionName) : ¬ IsDirective name.word.toList := by
  cases name <;> decide

theorem not_keyword_letter (c : Char) : ¬ IsDirective [c] ∧ ¬ IsFunction [c] := by
  constructor <;> intro ⟨name, same⟩ <;> have lengths := congrArg List.length same <;>
    rw [List.length_singleton] at lengths <;> cases name <;> revert lengths <;> decide

theorem Decomposition.single {piece : Lexeme} (fits : Fits piece []) :
    Decomposition [piece] piece.chars := by
  have decomposed := Decomposition.cons fits .nil
  rwa [List.append_nil] at decomposed

theorem Decomposition.letter {c : Char} (letter : isLetter c) : Decomposition [.word [c]] [c] := by
  have run : WordRun [c] := ⟨c, [], rfl, letter, by simp⟩
  have plain : '_' ∉ [c] := by
    intro member
    rw [← List.mem_singleton.mp member] at letter
    cases letter
  exact .single (.word (.at_end run) (.inr (.inr plain)))

theorem Spells.alone {chars : List Char} {kind : TokenKind} {value : String}
    (spelled : Spells chars kind value) :
    ∃ piece, Decomposition [piece] chars ∧ ∀ source start,
      tokensAt source start piece = [⟨kind, value, source, start, start + chars.length⟩] := by
  cases spelled with
  | sign known => exact ⟨_, .single (.sign known), fun source start => rfl⟩
  | lineEnd isEnd => exact ⟨_, .single (.lineEnd isEnd), fun source start => rfl⟩
  | directive name =>
    have known : IsDirective name.word.toList := ⟨name, rfl⟩
    refine ⟨_, .single (.word (.at_end (wordRun_directive name)) (.inl known)), ?_⟩
    intro source start
    simp only [tokensAt, if_pos known, String.ofList_toList]
  | function name =>
    have known : IsFunction name.word.toList := ⟨name, rfl⟩
    refine ⟨_, .single (.word (.at_end (wordRun_function name)) (.inr (.inl known))), ?_⟩
    intro source start
    simp only [tokensAt, if_neg (not_isDirective_function name), if_pos known, String.ofList_toList]
  | @letter c letter =>
    refine ⟨_, .letter letter, ?_⟩
    intro source start
    simp only [tokensAt, if_neg (not_keyword_letter c).1, if_neg (not_keyword_letter c).2]
    rfl
  | @number chars value run digits _ =>
    refine ⟨_, .single (.numeral (.at_end run)), ?_⟩
    intro source start
    simp only [tokensAt, ← digits, String.ofList_toList]
  | @string inside value quoted =>
    refine ⟨_, .single (.quotation quoted), ?_⟩
    intro source start
    simp [tokensAt, Int.add_assoc]

theorem Spells.unique {chars : List Char} {kind other : TokenKind} {value text : String}
    (spelled : Spells chars kind value) (too : Spells chars other text) :
    kind = other ∧ value = text := by
  obtain ⟨piece, decomposed, tokens⟩ := spelled.alone
  obtain ⟨piece', decomposed', tokens'⟩ := too.alone
  have same := decomposed.unique decomposed'
  rw [List.cons.injEq] at same
  have alike := (tokens "" 0).symm.trans (same.1 ▸ tokens' "" 0)
  rw [List.cons.injEq, Token.mk.injEq] at alike
  exact ⟨alike.1.1, alike.1.2.1⟩

/-- A scan succeeds on just the scripts that the lexical grammar takes apart, and then gives the
tokens of their only decomposition: they lie on the script in order, each spelled by the characters
below it, with blanks alone between them, and a line end and the end of the script close them. -/
theorem scan_eq_ok_iff_decomposition (source text : String) :
    (∀ tokens, Token.scan source text = .ok tokens ↔
      ∃ pieces, Decomposition pieces text.toList ∧
        (∀ others, Decomposition others text.toList → others = pieces) ∧
        tokens = tokensFrom source 0 pieces ++
          [⟨.endOfLine, "", source, text.length, text.length⟩,
            ⟨.endOfText, "", source, text.length, text.length⟩]) ∧
    (∀ pieces, Decomposition pieces text.toList →
      Laid source 0 text.toList (tokensFrom source 0 pieces)) ∧
    ∀ chars kind other value meaning, Spells chars kind value → Spells chars other meaning →
      kind = other ∧ value = meaning := by
  refine ⟨fun tokens => ⟨fun scanned => ?_, ?_⟩, ?_, ?_⟩
  · obtain ⟨pieces, decomposed⟩ := decomposition_of_scanFrom source scanned
    refine ⟨pieces, decomposed, fun others too => too.unique decomposed, ?_⟩
    have found := scanFrom_of_decomposition decomposed source 0
    rw [← Token.scan, scanned] at found
    simpa [Token.closing, String.length_toList] using found
  · intro ⟨pieces, decomposed, _, listed⟩
    rw [listed, Token.scan, scanFrom_of_decomposition decomposed source 0]
    simp [Token.closing, String.length_toList]
  · intro pieces decomposed
    exact laid_tokensFrom decomposed source 0
  · intro chars kind other value meaning spelled too
    exact spelled.unique too

end PlotScript.Lexis

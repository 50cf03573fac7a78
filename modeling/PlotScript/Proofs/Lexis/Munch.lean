import PlotScript.Proofs.Lexis

namespace PlotScript.Lexis

open Lexeme (isLetter isDigit isWordChar numeralRun quotationRun next)

theorem unescape?_eq_some_iff {c meaning : Char} :
    Text.unescape? c = some meaning ↔ (c, meaning) ∈ escapes := by
  unfold Text.unescape?
  split <;> simp_all [escapes, eq_comm]

theorem signKind?_eq_some_iff {c : Char} {kind : TokenKind} :
    Lexeme.signKind? c = some kind ↔ (c, kind) ∈ signs := by
  unfold Lexeme.signKind?
  split <;> simp_all [signs, eq_comm]

theorem Longest.unique {Shape : List Char → Prop} {run other after rest : List Char}
    (longest : Longest Shape run after) (too : Longest Shape other rest)
    (same : run ++ after = other ++ rest) : run = other ∧ after = rest := by
  rcases List.append_eq_append_iff.mp same with ⟨more, rfl, back⟩ | ⟨more, rfl, back⟩
  · have nothing := longest.2 more rest back too.1
    subst nothing
    exact ⟨(List.append_nil run).symm, back⟩
  · have nothing := too.2 more after back longest.1
    subst nothing
    exact ⟨List.append_nil other, back.symm⟩

theorem head_dropWhile {α : Type} {p : α → Bool} {list rest : List α} {head : α}
    (found : list.dropWhile p = head :: rest) : p head = false := by
  have some := List.head?_dropWhile_not p list
  simpa [found] using some

theorem longest_wordRun {first : Char} (letter : isLetter first) (rest : List Char) :
    Longest WordRun (first :: rest.takeWhile isWordChar) (rest.dropWhile isWordChar) := by
  refine ⟨⟨first, _, rfl, letter, fun c member => List.all_eq_true.mp List.all_takeWhile c member⟩, ?_⟩
  intro more after split shape
  cases more with
  | nil => rfl
  | cons c more =>
    obtain ⟨_, tail, whole, _, inside⟩ := shape
    rw [List.cons_append, List.cons.injEq] at whole
    have stops := head_dropWhile split
    rw [inside c (by simp [← whole.2])] at stops
    cases stops

theorem isDigit_ne_underscore {c : Char} (digit : isDigit c) : c ≠ '_' := by
  rintro rfl
  cases digit

theorem numeralRun_longest (pointAllowed : Bool) (text : List Char) :
    NumeralTail pointAllowed.toNat (numeralRun pointAllowed text).1 ∧
      ∀ c more, (numeralRun pointAllowed text).2 = c :: more →
        ¬ NumeralTail pointAllowed.toNat ((numeralRun pointAllowed text).1 ++ [c]) := by
  induction text generalizing pointAllowed with
  | nil => simp [numeralRun, NumeralTail]
  | cons head rest ih =>
    unfold numeralRun
    split
    · next isPoint =>
      subst isPoint
      split
      · next allowed =>
        subst allowed
        obtain ⟨shape, stops⟩ := ih false
        simp only [NumeralTail, Bool.toNat_false, Bool.toNat_true, List.cons_append,
          List.mem_cons, List.count_cons_self, forall_eq_or_imp] at shape stops ⊢
        refine ⟨⟨⟨by simp, shape.1⟩, by omega⟩, fun c more found too => ?_⟩
        exact stops c more found ⟨too.1.2, by omega⟩
      · next refused =>
        simp only [Bool.not_eq_true] at refused
        subst refused
        simp [NumeralTail]
    · next notPoint =>
      split
      · next inside =>
        obtain ⟨shape, stops⟩ := ih pointAllowed
        simp only [Bool.or_eq_true, beq_iff_eq] at inside
        simp only [NumeralTail, List.cons_append, List.mem_cons, forall_eq_or_imp,
          List.count_cons_of_ne notPoint] at shape stops ⊢
        refine ⟨⟨⟨or_assoc.mp (.inl inside), shape.1⟩, shape.2⟩, fun c more found too => ?_⟩
        exact stops c more found ⟨too.1.2, too.2⟩
      · next outside =>
        simp only [Bool.or_eq_true, beq_iff_eq, not_or] at outside
        simp [NumeralTail, outside, notPoint]

theorem NumeralTail.of_append {points : Nat} {chars more : List Char}
    (tail : NumeralTail points (chars ++ more)) : NumeralTail points chars := by
  refine ⟨fun c member => tail.1 c (List.mem_append_left more member), ?_⟩
  have count := tail.2
  rw [List.count_append] at count
  omega

theorem longest_numeralRun {first : Char} (digit : isDigit first) (rest : List Char) :
    Longest NumeralRun (first :: (numeralRun true rest).1) (numeralRun true rest).2 := by
  obtain ⟨shape, stops⟩ := numeralRun_longest true rest
  refine ⟨⟨first, _, rfl, digit, shape⟩, ?_⟩
  intro more after split extended
  cases more with
  | nil => rfl
  | cons c more =>
    obtain ⟨_, tail, whole, _, longer⟩ := extended
    rw [List.cons_append, List.cons.injEq] at whole
    rw [← whole.2, List.append_cons] at longer
    exact absurd longer.of_append (stops c _ split)

theorem quoted_of_quotationRun {offset : Nat} {text inside value after : List Char}
    (read : quotationRun offset text = .ok (inside, value, after)) : Quoted inside value := by
  fun_induction quotationRun offset text generalizing inside value after with
  | case1 => cases read
  | case2 => cases read
  | case3 => cases read
  | case4 offset c rest meaning known ih =>
    cases inner : quotationRun (offset + 2) rest with
    | error misfit => rw [inner] at read; cases read
    | ok found =>
      rw [inner] at read
      cases read
      exact .escaped (unescape?_eq_some_iff.mp known) (ih inner)
  | case5 => cases read; exact .nil
  | case6 => cases read
  | case7 offset c rest notLast notBefore notQuote notEnd ih =>
    cases inner : quotationRun (offset + 1) rest with
    | error misfit => rw [inner] at read; cases read
    | ok found =>
      rw [inner] at read
      cases read
      have notEscape : c ≠ '\\' := by
        intro escape
        cases rest with
        | nil => exact notLast escape rfl
        | cons next rest => exact notBefore next rest escape rfl
      simp only [not_or] at notEnd
      exact .plain (by simp [notEscape, notQuote, notEnd]) (ih inner)

theorem quotationRun_cons (offset : Nat) {c : Char} (rest : List Char) (plain : c ≠ '\\') :
    quotationRun offset (c :: rest) =
      if c = '"' then .ok ([], [], rest)
      else if c = '\n' ∨ c = '\r' then .error ⟨.lineEndsInText, offset, 1⟩
      else do
        let (inside, value, after) ← quotationRun (offset + 1) rest
        return (c :: inside, c :: value, after) := by
  rw [Lexeme.quotationRun.eq_def]
  split
  · contradiction
  · simp_all
  · simp_all
  · simp_all

theorem quotationRun_of_quoted {inside value : List Char} (quoted : Quoted inside value)
    (offset : Nat) (after : List Char) :
    quotationRun offset (inside ++ '"' :: after) = .ok (inside, value, after) := by
  induction quoted generalizing offset with
  | nil => rw [List.nil_append, quotationRun_cons offset after (by decide), if_pos rfl]
  | @plain c inside value plain _ ih =>
    simp only [List.mem_cons, List.not_mem_nil, or_false, not_or] at plain
    obtain ⟨notLine, notReturn, notQuote, notEscape⟩ := plain
    rw [List.cons_append, quotationRun_cons offset _ notEscape, if_neg notQuote,
      if_neg (not_or.mpr ⟨notLine, notReturn⟩), ih (offset + 1)]
    rfl
  | @escaped c meaning inside value known _ ih =>
    rw [List.cons_append, List.cons_append, quotationRun, unescape?_eq_some_iff.mpr known]
    simp only [ih (offset + 2)]
    rfl

theorem isSome_ofWord?_directive {letters : List Char} :
    (DirectiveName.ofWord? (String.ofList letters)).isSome ↔ IsDirective letters := by
  simp only [DirectiveName.ofWord?, List.find?_isSome, beq_iff_eq, IsDirective]
  constructor
  · rintro ⟨name, _, same⟩
    exact ⟨name, by rw [same, String.toList_ofList]⟩
  · rintro ⟨name, same⟩
    exact ⟨name, by cases name <;> decide, by rw [same, String.ofList_toList]⟩

theorem isSome_ofWord?_function {letters : List Char} :
    (FunctionName.ofWord? (String.ofList letters)).isSome ↔ IsFunction letters := by
  simp only [FunctionName.ofWord?, List.find?_isSome, beq_iff_eq, IsFunction]
  constructor
  · rintro ⟨name, _, same⟩
    exact ⟨name, by rw [same, String.toList_ofList]⟩
  · rintro ⟨name, same⟩
    exact ⟨name, by cases name <;> decide, by rw [same, String.ofList_toList]⟩

theorem letterMarks_at (source : String) (start offset : Nat) (letters : List Char) :
    (Lexeme.letterMarks offset letters).map (Mark.at source start) =
      letterTokens source (start + offset) letters := by
  induction letters generalizing offset with
  | nil => rfl
  | cons c rest ih =>
    simp only [Lexeme.letterMarks, List.map_cons, letterTokens, ih]
    simp [Mark.at, Nat.add_assoc]

theorem wordMarks_allowed {letters : List Char} {marks : List Mark}
    (marked : Lexeme.wordMarks letters = .ok marks) :
    IsDirective letters ∨ IsFunction letters ∨ '_' ∉ letters := by
  by_cases directive : IsDirective letters
  · exact .inl directive
  by_cases function : IsFunction letters
  · exact .inr (.inl function)
  refine .inr (.inr fun underscore => ?_)
  simp only [Lexeme.wordMarks, isSome_ofWord?_directive, isSome_ofWord?_function, directive,
    function, if_false] at marked
  split at marked
  · cases marked
  · next none => exact absurd (List.findIdx?_eq_none_iff.mp none '_' underscore) (by simp)

theorem wordMarks_of_allowed {letters : List Char}
    (allowed : IsDirective letters ∨ IsFunction letters ∨ '_' ∉ letters) :
    ∃ marks, Lexeme.wordMarks letters = .ok marks ∧ ∀ source start,
      marks.map (Mark.at source start) = tokensAt source start (.word letters) := by
  unfold Lexeme.wordMarks tokensAt
  simp only [isSome_ofWord?_directive, isSome_ofWord?_function]
  split
  · exact ⟨_, rfl, fun source start => by simp [Mark.at]⟩
  · next notDirective =>
    split
    · exact ⟨_, rfl, fun source start => by simp [Mark.at]⟩
    · next notFunction =>
      have plain : '_' ∉ letters := (allowed.resolve_left notDirective).resolve_left notFunction
      have none : letters.findIdx? (· = '_') = none := by
        refine List.findIdx?_eq_none_iff.mpr fun c member => ?_
        simp only [decide_eq_false_iff_not]
        rintro rfl
        exact plain member
      rw [none]
      exact ⟨_, rfl, fun source start => letterMarks_at source start 0 letters⟩

theorem fits_of_next {first : Char} {rest after : List Char} {piece : Lexeme} {marks : List Mark}
    (found : next first rest = .ok (piece, after)) (marked : piece.marks = .ok marks) :
    Fits piece after := by
  unfold next at found
  split at found
  · next isBlank => cases found; exact .blank isBlank
  split at found
  · next isEnd => cases found; exact .lineEnd isEnd
  split at found
  · next letter => cases found; exact .word (longest_wordRun letter rest) (wordMarks_allowed marked)
  split at found
  · next digit => cases found; exact .numeral (longest_numeralRun digit rest)
  split at found
  · cases inner : quotationRun 1 rest with
    | error misfit => rw [inner] at found; cases found
    | ok read =>
      rw [inner] at found
      cases found
      exact .quotation (quoted_of_quotationRun inner)
  split at found
  · next known => cases found; exact .sign (signKind?_eq_some_iff.mp known)
  · cases found

theorem Fits.marks {piece : Lexeme} {after : List Char} (fits : Fits piece after) :
    ∃ marks, piece.marks = .ok marks ∧ ∀ source start,
      marks.map (Mark.at source start) = tokensAt source start piece := by
  cases fits with
  | word _ allowed => exact wordMarks_of_allowed allowed
  | blank _ => exact ⟨[], rfl, fun source start => rfl⟩
  | lineEnd _ => exact ⟨_, rfl, fun source start => by simp [Mark.at, tokensAt]⟩
  | numeral _ => exact ⟨_, rfl, fun source start => by simp [Mark.at, tokensAt]⟩
  | quotation _ =>
    refine ⟨_, rfl, fun source start => ?_⟩
    simp [Mark.at, tokensAt, Lexeme.chars, Int.add_assoc]
  | sign _ => exact ⟨_, rfl, fun source start => by simp [Mark.at, tokensAt]⟩

theorem next_letter {first : Char} (letter : isLetter first) (rest : List Char) :
    next first rest =
      .ok (.word (first :: rest.takeWhile isWordChar), rest.dropWhile isWordChar) := by
  have notBlank : ¬ (first = ' ' ∨ first = '\t') := by rintro (rfl | rfl) <;> cases letter
  have notEnd : ¬ (first = '\n' ∨ first = '\r') := by rintro (rfl | rfl) <;> cases letter
  rw [next, if_neg notBlank, if_neg notEnd, if_pos letter]

theorem isDigit_not_letter {c : Char} (digit : isDigit c) : ¬ isLetter c := by
  simp only [isDigit, isLetter, Bool.and_eq_true, decide_eq_true_eq, Char.le_def, not_and] at digit ⊢
  intro least most
  have big := UInt32.le_trans least digit.2
  revert big
  decide

theorem next_digit {first : Char} (digit : isDigit first) (rest : List Char) :
    next first rest = .ok (.numeral (first :: (numeralRun true rest).1), (numeralRun true rest).2) := by
  have notBlank : ¬ (first = ' ' ∨ first = '\t') := by rintro (rfl | rfl) <;> cases digit
  have notEnd : ¬ (first = '\n' ∨ first = '\r') := by rintro (rfl | rfl) <;> cases digit
  rw [next, if_neg notBlank, if_neg notEnd, if_neg (isDigit_not_letter digit), if_pos digit]

theorem Fits.next {piece : Lexeme} {after : List Char} (fits : Fits piece after) :
    ∃ first rest, piece.chars ++ after = first :: rest ∧
      Lexeme.next first rest = .ok (piece, after) := by
  cases fits with
  | @blank c _ isBlank => exact ⟨c, after, rfl, by simp [Lexeme.next, isBlank]⟩
  | @lineEnd c _ isEnd => exact ⟨c, after, rfl, by rcases isEnd with rfl | rfl <;> rfl⟩
  | @word letters _ longest _ =>
    obtain ⟨first, rest, rfl, letter, _⟩ := longest.1
    obtain ⟨same, left⟩ := longest.unique (longest_wordRun letter (rest ++ after))
      (by rw [List.cons_append, List.cons_append, List.takeWhile_append_dropWhile])
    refine ⟨first, rest ++ after, rfl, ?_⟩
    rw [next_letter letter, ← same, ← left]
  | @numeral chars _ longest =>
    obtain ⟨first, rest, rfl, digit, _⟩ := longest.1
    obtain ⟨same, left⟩ := longest.unique (longest_numeralRun digit (rest ++ after))
      (by rw [List.cons_append, List.cons_append, Lexeme.numeralRun_append])
    refine ⟨first, rest ++ after, rfl, ?_⟩
    rw [next_digit digit, ← same, ← left]
  | @quotation inside value _ quoted =>
    refine ⟨'"', inside ++ '"' :: after, by simp [Lexeme.chars], ?_⟩
    have read := quotationRun_of_quoted quoted 1 after
    simp [Lexeme.next, Lexeme.isLetter, Lexeme.isDigit, read, bind, Except.bind, pure, Except.pure]
  | @sign c kind _ known =>
    refine ⟨c, after, rfl, ?_⟩
    simp only [signs, List.mem_cons, Prod.mk.injEq, List.not_mem_nil, or_false] at known
    rcases known with ⟨rfl, rfl⟩ | ⟨rfl, rfl⟩ | ⟨rfl, rfl⟩ | ⟨rfl, rfl⟩ | ⟨rfl, rfl⟩ | ⟨rfl, rfl⟩ |
      ⟨rfl, rfl⟩ | ⟨rfl, rfl⟩ | ⟨rfl, rfl⟩ <;> rfl

theorem Decomposition.unique {pieces others : List Lexeme} {text : List Char}
    (decomposed : Decomposition pieces text) (too : Decomposition others text) :
    pieces = others := by
  induction decomposed generalizing others with
  | nil =>
    generalize same : ([] : List Char) = text at too
    cases too with
    | nil => rfl
    | cons fits _ =>
      obtain ⟨first, rest, whole, _⟩ := fits.next
      rw [← same] at whole
      cases whole
  | @cons piece pieces after fits _ ih =>
    obtain ⟨first, rest, whole, read⟩ := fits.next
    rw [whole] at too
    generalize same : first :: rest = text at too
    cases too with
    | nil => cases same
    | @cons other others later otherFits remaining =>
      obtain ⟨head, tail, otherWhole, otherRead⟩ := otherFits.next
      rw [otherWhole, List.cons.injEq] at same
      obtain ⟨rfl, rfl⟩ := same
      rw [read] at otherRead
      cases otherRead
      rw [ih remaining]

theorem scanFrom_of_decomposition {pieces : List Lexeme} {text : List Char}
    (decomposed : Decomposition pieces text) (source : String) (start : Nat) :
    Token.scanFrom source start 0 text =
      .ok (tokensFrom source start pieces ++ Token.closing source (start + text.length)) := by
  induction decomposed generalizing start with
  | nil => rfl
  | @cons piece pieces after fits _ ih =>
    obtain ⟨first, rest, whole, read⟩ := fits.next
    obtain ⟨marks, marked, placed⟩ := fits.marks
    rw [whole, Token.scanFrom_lexeme read marked, ih (start + piece.chars.length), placed,
      ← whole, List.length_append, ← Nat.add_assoc, tokensFrom, List.append_assoc]
    rfl

theorem decomposition_of_scanFrom (source : String) {start : Nat} {text : List Char}
    {tokens : List Token} (scanned : Token.scanFrom source start 0 text = .ok tokens) :
    ∃ pieces, Decomposition pieces text := by
  induction bound : text.length using Nat.strongRecOn generalizing start text tokens with
  | ind size ih =>
    subst bound
    cases text with
    | nil => exact ⟨[], .nil⟩
    | cons first rest =>
      cases read : next first rest with
      | error misfit => simp only [Token.scanFrom, read, reduceCtorEq] at scanned
      | ok found =>
        obtain ⟨piece, after⟩ := found
        cases marked : piece.marks with
        | error misfit => simp only [Token.scanFrom, read, marked, reduceCtorEq] at scanned
        | ok marks =>
          rw [Token.scanFrom_lexeme read marked] at scanned
          have shorter := Lexeme.next_length read
          cases later : Token.scanFrom source (start + piece.chars.length) 0 after with
          | error failure => rw [later] at scanned; cases scanned
          | ok remaining =>
            obtain ⟨pieces, decomposed⟩ := ih after.length (Nat.lt_succ_of_le shorter) later rfl
            rw [Lexeme.next_append read]
            exact ⟨piece :: pieces, .cons (fits_of_next read marked) decomposed⟩

theorem tokens_of_scan {source text : String} {tokens : List Token}
    (scanned : Token.scan source text = .ok tokens) :
    ∃ pieces, Decomposition pieces text.toList ∧
      tokens = tokensFrom source 0 pieces ++ Token.closing source text.length := by
  obtain ⟨pieces, decomposed⟩ := decomposition_of_scanFrom source scanned
  have found := scanned.symm.trans (scanFrom_of_decomposition decomposed source 0)
  rw [Nat.zero_add, String.length_toList] at found
  exact ⟨pieces, decomposed, Except.ok.inj found⟩

end PlotScript.Lexis

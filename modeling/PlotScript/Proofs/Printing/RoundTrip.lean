import PlotScript.Proofs.Printing.Trees

namespace PlotScript

namespace Printing

open Lexis Grammar

structure Worded (token : Token) : Prop where
  number : token.kind = .number → IsDecimal token.value.toList
  symbol : token.kind = .symbol → ∃ c, Lexeme.isLetter c ∧ token.value = c.toString
  string : token.kind = .string → '\r' ∉ token.value.toList

theorem not_mem_return {inside value : List Char} (quoted : Quoted inside value) : '\r' ∉ value := by
  induction quoted with
  | nil => simp
  | plain plain _ ih =>
    refine fun member => (List.mem_cons.mp member).elim ?_ ih
    rintro rfl
    exact plain (by decide)
  | @escaped c meaning _ _ known _ ih =>
    have other : ∀ pair ∈ escapes, pair.2 ≠ '\r' := by decide
    exact fun member => (List.mem_cons.mp member).elim (fun same => other _ known same.symm) ih

theorem worded_of_spells {chars : List Char} {token : Token}
    (spelled : Spells chars token.kind token.value) : Worded token := by
  generalize same : token.kind = kind at spelled
  generalize same' : token.value = value at spelled
  cases spelled with
  | @sign c _ known =>
    have plain : ∀ pair ∈ signs, pair.2 ≠ .number ∧ pair.2 ≠ .symbol ∧ pair.2 ≠ .string := by decide
    obtain ⟨notNumber, notSymbol, notString⟩ := plain _ known
    exact ⟨fun kind => absurd (same.symm.trans kind) notNumber,
      fun kind => absurd (same.symm.trans kind) notSymbol,
      fun kind => absurd (same.symm.trans kind) notString⟩
  | number _ _ decimal => exact ⟨fun _ => same' ▸ decimal, by simp [same], by simp [same]⟩
  | @letter c letter => exact ⟨by simp [same], fun _ => ⟨c, letter, same'⟩, by simp [same]⟩
  | string quoted => exact ⟨by simp [same], by simp [same], fun _ => same' ▸ not_mem_return quoted⟩
  | _ => exact ⟨by simp [same], by simp [same], by simp [same]⟩

theorem worded_of_scan {source text : String} {tokens : List Token}
    (scanned : Token.scan source text = .ok tokens) : ∀ token ∈ tokens, Worded token := by
  have closing : ∀ token ∈ Token.closing source text.length, Worded token := by
    simp only [Token.closing, List.forall_mem_cons]
    exact ⟨⟨by simp, by simp, by simp⟩, ⟨by simp, by simp, by simp⟩, by simp⟩
  exact forall_of_scan scanned (fun _ _ spelled => worded_of_spells spelled) closing

theorem Expression.withSpan {node : Node} (expression : Expression node) (span : Option Span) :
    Expression (node.withSpan span) := by
  cases expression with
  | number decimal => exact .number decimal
  | symbol letter => exact .symbol letter
  | arithmetic left right => exact .arithmetic left right
  | trig argument => exact .trig argument
  | power base exponent => exact .power base exponent
  | root degree radicand => exact .root degree radicand

theorem Expression.chained {first : Node} {links : List Link} (expression : Expression first)
    (each : ∀ link ∈ links, Expression link.node) : Expression (chained first links) := by
  induction links generalizing first with
  | nil => exact expression
  | cons link links ih =>
    obtain ⟨head, tail⟩ := List.forall_mem_cons.mp each
    exact ih (.arithmetic expression head) tail

theorem expression_of_derives {phrase : Phrase} {tokens : List Token} {node : Node}
    (derived : Derives phrase tokens node) (worded : ∀ token ∈ tokens, Worded token) :
    Expression node := by
  induction derived with
  | number kind => exact .number ((worded _ List.mem_cons_self).number kind)
  | symbol kind =>
    obtain ⟨c, letter, same⟩ := (worded _ List.mem_cons_self).symbol kind
    rw [same]
    exact .symbol letter
  | group _ _ _ ih => exact (ih fun token member => worded token (by simp [member])).withSpan _
  | trig _ _ _ _ _ _ ih => exact .trig (ih fun token member => worded token (by simp [member]))
  | power _ _ _ _ _ _ _ ih ih' =>
    exact .power (ih fun token member => worded token (by simp [member]))
      (ih' fun token member => worded token (by simp [member]))
  | root _ _ _ _ _ _ _ ih ih' =>
    exact .root (ih fun token member => worded token (by simp [member]))
      (ih' fun token member => worded token (by simp [member]))
  | alone _ ih => exact ih worded
  | beside _ _ ih ih' =>
    exact .arithmetic (ih fun token member => worded token (by simp [member]))
      (ih' fun token member => worded token (by simp [member]))
  -- The links of a row are read from left to right, each as the right side of all before it.
  | product _ _ _ ih ih' | sum _ _ _ ih ih' =>
    refine (ih fun token member => worded token (by simp [member])).chained fun link among => ?_
    refine ih' link among fun token member => worded token (List.mem_append_right _ ?_)
    exact List.mem_flatMap.mpr ⟨link, among, List.mem_cons_of_mem _ member⟩

theorem integer_small {tokens : List Token} {number : Int} (shape : Integer tokens number)
    (decimals : Decimals tokens)
    (short : ∀ token ∈ tokens, IsInteger token → token.value.length ≤ Text.Integer.digitLimit) :
    number.natAbs < 10 ^ Text.Integer.digitLimit := by
  have magnitude {token : Token} (member : token ∈ tokens) (isInteger : IsInteger token) :
      Numeral.whole token.value.toList < 10 ^ Text.Integer.digitLimit := by
    have digits := (digits_of_decimal (decimals token member isInteger.1) isInteger.2).2
    refine Nat.lt_of_lt_of_le (Numeral.whole_lt digits) (Nat.pow_le_pow_right (by decide) ?_)
    rw [String.length_toList]
    exact short token member isInteger
  cases shape with
  | positive isInteger =>
    rw [Int.natAbs_natCast]
    exact magnitude (List.mem_singleton_self _) isInteger
  | negative _ isInteger =>
    rw [Int.natAbs_neg, Int.natAbs_natCast]
    exact magnitude (by simp) isInteger

theorem arguments_small {known : DirectiveName} {tokens : List Token} {command : Directive}
    (shape : Arguments known tokens command) (decimals : Decimals tokens)
    (short : ∀ token ∈ tokens, IsInteger token → token.value.length ≤ Text.Integer.digitLimit) :
    ∀ number ∈ command.integers, number.natAbs < 10 ^ Text.Integer.digitLimit := by
  have small {part : List Token} {number : Int} (shape : Integer part number)
      (within : ∀ token ∈ part, token ∈ tokens) :
      number.natAbs < 10 ^ Text.Integer.digitLimit :=
    integer_small shape (decimals.mono within) fun token member => short token (within token member)
  cases shape with
  | frame x _ y _ width _ height =>
    simp only [Directive.integers, List.forall_mem_cons]
    exact ⟨small x (by simp +contextual), small y (by simp +contextual),
      small width (by simp +contextual), small height (by simp +contextual), by simp⟩
  | resolution width _ height =>
    simp only [Directive.integers, List.forall_mem_cons]
    exact ⟨small width (by simp +contextual), small height (by simp +contextual), by simp⟩
  | output _ => simp [Directive.integers]
  | printNow => simp [Directive.integers]

theorem sentence_of_statement {tokens : List Token} {node : Node} (shape : Statement tokens node)
    (worded : ∀ token ∈ tokens, Worded token) (legible : Legible tokens) : Sentence node := by
  have decimals : Decimals tokens := fun token member => (worded token member).number
  cases shape with
  | @directive hash name opening closing known tokens command isHash kind _ opens shape _ =>
    refine .directive ?_ fun path same => ?_
    · refine arguments_small shape (decimals.mono (by simp +contextual)) fun token member isInteger => ?_
      exact legible.short decimals (shape.inDirective isHash kind opens member isInteger)
    · subst same
      cases shape with
      | @output token isString => exact (worded token (by simp)).string isString
  | equation derived _ derived' =>
    exact .equals (expression_of_derives derived fun token member => worded token (by simp [member]))
      (expression_of_derives derived' fun token member => worded token (by simp [member]))
  | term derived =>
    exact .equals (.symbol (c := 'y') rfl) (expression_of_derives derived worded)

theorem sentence_of_ofScript {source text : String} {nodes : List Node} {node : Node}
    (read : Node.ofScript source text = .ok nodes) (member : node ∈ nodes) : Sentence node := by
  obtain ⟨tokens, scanned, read⟩ := ofScript_eq_ok_iff.mp read
  have worded := worded_of_scan scanned
  obtain ⟨program, legible⟩ := (scanned_of_scan scanned).program read
  obtain ⟨before, part, after, split, shape⟩ := program.statement_of_mem member
  rw [split] at worded legible
  exact sentence_of_statement shape (fun token inside => worded token (by simp [inside]))
    legible.right.left

theorem Sentence.reads_back {node : Node} (sentence : Sentence node)
    (plain : ∀ value ∈ node.numbers, Decimal.Plain value)
    (noTick : ∀ path span, node = .directive (.output path) span → '`' ∉ path.toList)
    (source : String) :
    ∃ again, Node.ofScript source node.line = .ok [again] ∧ again.eraseSpans = node.eraseSpans := by
  -- Where the tokens of the line stand is forgotten before they are read, and not after.
  let span : Span := ⟨source, 0, 0⟩
  let place : Span → Span := fun _ => span
  have hulls : ∀ first second, place (first.hull second) = (place first).hull (place second) :=
    fun _ _ => (Span.hull_self span).symm
  have scanned := scanFrom_of_decomposition (sentence.decomposition plain noTick) source 0
  rw [← Token.scan] at scanned
  have placed : (tokensFrom source 0 (lexemes node) ++
      Token.closing source (0 + node.line.toList.length)).map (Token.mapSpan place) =
        (lexemes node).flatMap (tokens span) ++ [⟨.endOfLine, "", span⟩, ⟨.endOfText, "", span⟩] := by
    rw [List.map_append, tokensFrom_mapSpan]
    rfl
  have moved := (scanned_of_scan scanned).mapSpans place
  rw [placed] at moved
  obtain ⟨shape, legible⟩ := sentence.written span plain
  have alone : Node.ofTokens ((lexemes node).flatMap (tokens span) ++
      [⟨.endOfLine, "", span⟩, ⟨.endOfText, "", span⟩]) = .ok [node.place span] :=
    @ofTokens_line _ ⟨.endOfLine, "", span⟩ _ ⟨⟨.endOfText, "", span⟩, []⟩ shape
      (moved.decimals.mono (by simp +contextual)) legible rfl (Scanned.ends (.stop rfl))
  rw [← placed, ofTokens_mapSpans hulls] at alone
  rw [Node.ofScript, scanned]
  cases read : Node.ofTokens (tokensFrom source 0 (lexemes node) ++
      Token.closing source (0 + node.line.toList.length)) with
  | error failure =>
    rw [read] at alone
    cases alone
  | ok nodes =>
    rw [read] at alone
    obtain ⟨again, rfl, same⟩ := List.map_eq_singleton_iff.mp (Except.ok.inj alone)
    refine ⟨again, read, ?_⟩
    rw [← Node.eraseSpans_mapSpans place, same, Node.eraseSpans_place]

/-- A statement of a script, printed as a line, reads back as that one statement: with all its
numbers plain, and with no backtick in an export path, which is printed behind a backslash that nothing
reads. -/
theorem ofScript_line {source text : String} {nodes : List Node} {statement : Node}
    (read : Node.ofScript source text = .ok nodes) (member : statement ∈ nodes)
    (plain : ∀ value ∈ statement.numbers, Decimal.Plain value)
    (noTick : ∀ path span, statement = .directive (.output path) span → '`' ∉ path.toList)
    (place : String) :
    ∃ again, Node.ofScript place statement.line = .ok [again] ∧ again.agrees statement ∧
      again.eraseSpans = statement.eraseSpans := by
  have sentence := sentence_of_ofScript read member
  obtain ⟨again, found, same⟩ := sentence.reads_back plain noTick place
  refine ⟨again, found, ?_, same⟩
  rw [← Node.agrees_eraseSpans, same, Node.agrees_eraseSpans]
  exact Node.agrees_self fun value inside => sentence.beq_self inside

theorem ofScript_line_grouped : ∃ statement again,
    Node.ofScript "curve" "y/2=x(x-0.5)" = .ok [statement] ∧
      statement.line = "(y / 2) = (x * (x - 0.5))" ∧
        Node.ofScript "again" "(y / 2) = (x * (x - 0.5))" = .ok [again] ∧ again.agrees statement := by
  let statement : Node := .equals
    (.arithmetic .div (.symbol "y" (some ⟨"curve", 0, 1⟩)) (.number 2 (some ⟨"curve", 2, 3⟩))
      (some ⟨"curve", 0, 3⟩))
    (.arithmetic .mul (.symbol "x" (some ⟨"curve", 4, 5⟩))
      (.arithmetic .sub (.symbol "x" (some ⟨"curve", 6, 7⟩)) (.number 0.5 (some ⟨"curve", 8, 11⟩))
        (some ⟨"curve", 5, 12⟩)) (some ⟨"curve", 4, 12⟩)) (some ⟨"curve", 0, 12⟩)
  have read : Node.ofScript "curve" "y/2=x(x-0.5)" = .ok [statement] := by decide +kernel
  have line : statement.line = "(y / 2) = (x * (x - 0.5))" := by decide +kernel
  have plain : ∀ value ∈ statement.numbers, Decimal.Plain value := by decide +kernel
  have noTick : ∀ path span, statement = .directive (.output path) span → '`' ∉ path.toList := by
    simp [statement]
  obtain ⟨again, found, agrees, _⟩ :=
    ofScript_line read (List.mem_singleton_self statement) plain noTick "again"
  exact ⟨statement, again, read, line, line ▸ found, agrees⟩

end Printing

end PlotScript

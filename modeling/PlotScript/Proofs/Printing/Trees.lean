import PlotScript.Proofs.Erasure
import PlotScript.Proofs.Grammar.Lines
import PlotScript.Proofs.Printing.Lexemes

namespace PlotScript

def Node.place (span : Span) : Node → Node
  | .number value _ => .number value span
  | .symbol name _ => .symbol name span
  | .equals left right _ => .equals (left.place span) (right.place span) span
  | .arithmetic operator left right _ =>
    .arithmetic operator (left.place span) (right.place span) span
  | .trig function argument _ => .trig function (argument.place span) span
  | .power base exponent _ => .power (base.place span) (exponent.place span) span
  | .root degree radicand explicit _ =>
    .root (degree.place span) (radicand.place span) explicit span
  | .directive command _ => .directive command span

theorem Node.eraseSpans_place (span : Span) (node : Node) :
    (node.place span).eraseSpans = node.eraseSpans := by
  induction node <;> simp_all [place, eraseSpans]

theorem Node.eraseSpans_mapSpans (move : Span → Span) (node : Node) :
    (node.mapSpans move).eraseSpans = node.eraseSpans := by
  induction node <;> simp_all [mapSpans, eraseSpans]

@[simp] theorem Node.span_place (span : Span) (node : Node) : (node.place span).span = some span := by
  cases node <;> rfl

namespace Printing

open Lexis Grammar

section

variable (span : Span)

def tokens (piece : Lexeme) : List Token :=
  (tokensAt span.source 0 piece).map (Token.mapSpan fun _ => span)

theorem tokensAt_mapSpan (source : String) (start : Nat) (piece : Lexeme) :
    (tokensAt source start piece).map (Token.mapSpan fun _ => span) = tokens span piece := by
  have letters (source' : String) (start' : Nat) (chars : List Char) :
      (letterTokens source start chars).map (Token.mapSpan fun _ => span) =
        (letterTokens source' start' chars).map (Token.mapSpan fun _ => span) := by
    induction chars generalizing start start' with
    | nil => rfl
    | cons c rest ih =>
      exact congrArg (List.cons (⟨.symbol, c.toString, span⟩ : Token)) (ih (start + 1) (start' + 1))
  cases piece with
  | word chars =>
    simp only [tokens, tokensAt]
    split
    · rfl
    split
    · rfl
    · exact letters _ _ chars
  | _ => rfl

theorem tokensFrom_mapSpan (source : String) (start : Nat) (pieces : List Lexeme) :
    (tokensFrom source start pieces).map (Token.mapSpan fun _ => span) =
      pieces.flatMap (tokens span) := by
  induction pieces generalizing start with
  | nil => rfl
  | cons piece pieces ih =>
    rw [tokensFrom, List.map_append, tokensAt_mapSpan, ih, List.flatMap_cons]

@[simp] theorem tokens_blank (c : Char) : tokens span (.blank c) = [] := rfl

@[simp] theorem tokens_sign (c : Char) (kind : TokenKind) :
    tokens span (.sign c kind) = [⟨kind, "", span⟩] := rfl

@[simp] theorem tokens_path (path : String) :
    tokens span (pathLexeme path) = [⟨.string, path, span⟩] := by
  simp [tokens, pathLexeme, tokensAt, Token.mapSpan]

@[simp] theorem tokens_function (name : FunctionName) :
    tokens span (.word name.word.toList) = [⟨.function, name.word, span⟩] := by
  have known : IsFunction name.word.toList := ⟨name, rfl⟩
  simp [tokens, tokensAt, not_isDirective_function, known, Token.mapSpan]

@[simp] theorem tokens_directive (name : DirectiveName) :
    tokens span (.word name.word.toList) = [⟨.directive, name.word, span⟩] := by
  have known : IsDirective name.word.toList := ⟨name, rfl⟩
  simp [tokens, tokensAt, known, Token.mapSpan]

@[simp] theorem tokens_letter (c : Char) :
    tokens span (.word [c]) = [⟨.symbol, c.toString, span⟩] := by
  simp [tokens, tokensAt, not_keyword_letter, letterTokens, Token.mapSpan]

theorem not_mem_underscore {chars : List Char} (decimal : IsDecimal chars) : '_' ∉ chars := by
  have digits {run : List Char} (all : ∀ c ∈ run, Lexeme.isDigit c) : '_' ∉ run :=
    fun member => isDigit_ne_underscore (all '_' member) rfl
  obtain ⟨integral, _, all, rfl | ⟨fraction, all', rfl⟩⟩ := decimal
  · exact digits all
  · simp [digits all, digits all']

theorem tokens_numeral {chars : List Char} (decimal : IsDecimal chars) :
    tokens span (.numeral chars) = [⟨.number, String.ofList chars, span⟩] := by
  have plain : chars.filter (· ≠ '_') = chars := by
    refine List.filter_eq_self.mpr fun c member => ?_
    have other : c ≠ '_' := fun same => not_mem_underscore decimal (same ▸ member)
    simpa using other
  simp only [tokens, tokensAt, plain]
  rfl

theorem derives_operation (operator : Operator) {first second : List Token} {left right : Node}
    (derived : Derives .operand first left) (derived' : Derives .operand second right) :
    Derives .sum (first ++ tokens span (operatorLexeme operator) ++ second)
      (joined operator left right) := by
  have added (kind : TokenKind) (known : (kind, operator) ∈ sumSigns) :
      Derives .sum (first ++ [⟨kind, "", span⟩] ++ second) (joined operator left right) := by
    let link : Link := ⟨⟨kind, "", span⟩, operator, second, right⟩
    simpa [chained, Link.all, link] using @Derives.sum first left [link] (Derives.alone derived).asProduct
      (by simpa [link] using known) (by simpa [link] using (Derives.alone derived').asProduct)
  have multiplied (kind : TokenKind) (known : (kind, operator) ∈ productSigns) :
      Derives .sum (first ++ [⟨kind, "", span⟩] ++ second) (joined operator left right) := by
    let link : Link := ⟨⟨kind, "", span⟩, operator, second, right⟩
    have product : Derives .product (first ++ [⟨kind, "", span⟩] ++ second)
        (joined operator left right) := by
      simpa [chained, Link.all, link] using @Derives.product first left [link] (.alone derived)
        (by simpa [link] using known) (by simpa [link] using Derives.alone derived')
    exact product.asSum
  cases operator with
  | add => exact added .plus (by decide)
  | sub => exact added .minus (by decide)
  | mul => exact multiplied .times (by decide)
  | div => exact multiplied .divide (by decide)

theorem tokens_call {name : String} {kind : TokenKind}
    (known : tokens span (.word name.toList) = [⟨kind, name, span⟩]) (arguments : List (List Lexeme)) :
    (callLexemes name arguments).flatMap (tokens span) =
      ⟨kind, name, span⟩ :: ⟨.leftParen, "", span⟩ ::
        ([comma, space].intercalate arguments).flatMap (tokens span) ++ [⟨.rightParen, "", span⟩] := by
  simp [callLexemes, opening, closing, known]

theorem tokens_pair (first second : List Lexeme) :
    ([comma, space].intercalate [first, second]).flatMap (tokens span) =
      first.flatMap (tokens span) ++ ⟨.comma, "", span⟩ :: second.flatMap (tokens span) := by
  simp [comma, space]

theorem Expression.derives {node : Node} (expression : Expression node)
    (plain : ∀ value ∈ node.numbers, Decimal.Plain value) :
    Derives .operand ((lexemes node).flatMap (tokens span)) (node.place span) := by
  -- Every hull of equal spans is that span, so each rule gives the tree with `span` at its root.
  have whole : some span = some (span.hull span) := by rw [Span.hull_self]
  induction expression with
  | @number chars place decimal =>
    have member : Numeral.value chars ∈ [Numeral.value chars] := List.mem_singleton_self _
    obtain ⟨decimal', same⟩ :=
      (@Expression.number chars place decimal).plain_decimal member (plain _ member)
    have derived := @Derives.number ⟨.number, Decimal.general (Numeral.value chars), span⟩ rfl
    rw [same] at derived
    rw [lexemes, List.flatMap_singleton, tokens_numeral span decimal', String.ofList_toList]
    exact derived
  | @symbol c _ letter =>
    have name : c.toString.toList = [c] := by simp
    simp only [lexemes, name, List.flatMap_singleton, tokens_letter]
    exact .symbol rfl
  | @arithmetic operator _ _ _ _ _ ih ih' =>
    have both := List.forall_mem_append.mp plain
    have inside := derives_operation span operator (ih both.1) (ih' both.2)
    have grouped := @Derives.group ⟨.leftParen, "", span⟩ ⟨.rightParen, "", span⟩ _ _ rfl inside rfl
    rw [← whole] at grouped
    simpa [lexemes, betweenLexemes, opening, closing, space, Node.place, joined, Node.withSpan] using
      grouped
  | @trig function _ _ _ ih =>
    have known : tokens span (.word function.word.toList) = [⟨.function, function.word, span⟩] := by
      cases function with
      | sin => exact tokens_function span .sin
      | cos => exact tokens_function span .cos
      | tan => exact tokens_function span .tan
    have called := @Derives.trig ⟨.function, function.word, span⟩ ⟨.leftParen, "", span⟩
      ⟨.rightParen, "", span⟩ _ _ function rfl rfl rfl (ih plain).toSum rfl
    rw [← whole] at called
    rw [lexemes, tokens_call span known, List.intercalate_singleton]
    exact called
  | power _ _ ih ih' =>
    have both := List.forall_mem_append.mp plain
    have called := @Derives.power ⟨.function, "pow", span⟩ ⟨.leftParen, "", span⟩
      ⟨.comma, "", span⟩ ⟨.rightParen, "", span⟩ _ _ _ _ rfl rfl rfl (ih both.1).toSum rfl
      (ih' both.2).toSum rfl
    rw [← whole] at called
    have known : tokens span (.word "pow".toList) = [⟨.function, "pow", span⟩] :=
      tokens_function span .pow
    rw [lexemes, tokens_call span known, tokens_pair]
    exact called
  | root _ _ ih ih' =>
    have both := List.forall_mem_append.mp plain
    have called := @Derives.root ⟨.function, "root", span⟩ ⟨.leftParen, "", span⟩
      ⟨.comma, "", span⟩ ⟨.rightParen, "", span⟩ _ _ _ _ rfl rfl rfl (ih both.1).toSum rfl
      (ih' both.2).toSum rfl
    rw [← whole] at called
    have known : tokens span (.word "root".toList) = [⟨.function, "root", span⟩] :=
      tokens_function span .root
    rw [lexemes, tokens_call span known, tokens_pair]
    exact called

theorem integer_written (number : Int) :
    Integer ((integerLexemes number).flatMap (tokens span)) number := by
  have numeral (magnitude : Nat) :=
    tokens_numeral span (Numeral.isDecimal_toDigits magnitude)
  have isInteger (magnitude : Nat) :
      IsInteger ⟨.number, String.ofList (Nat.toDigits 10 magnitude), span⟩ := by
    refine ⟨rfl, fun member => ?_⟩
    rw [String.toList_ofList] at member
    cases Numeral.isDigit_toDigits '.' member
  rw [integerLexemes]
  split
  · next least =>
    have positive := Integer.positive (isInteger number.toNat)
    rw [String.toList_ofList, Numeral.whole_toDigits, Int.toNat_of_nonneg least] at positive
    rw [List.flatMap_singleton, numeral]
    exact positive
  · next less =>
    have magnitude : ((-number).toNat : Int) = -number := Int.toNat_of_nonneg (by omega)
    have negative := @Integer.negative ⟨.minus, "", span⟩ _ rfl (isInteger (-number).toNat)
    rw [String.toList_ofList, Numeral.whole_toDigits, magnitude, Int.neg_neg] at negative
    rw [List.flatMap_cons, List.flatMap_singleton, numeral]
    exact negative

theorem integer_readable {number : Int} (small : number.natAbs < 10 ^ Text.Integer.digitLimit) :
    Readable ((integerLexemes number).flatMap (tokens span)) := by
  have numeral {magnitude : Nat} (less : magnitude < 10 ^ Text.Integer.digitLimit) :
      Readable (tokens span (.numeral (Nat.toDigits 10 magnitude))) := by
    have decimal := Numeral.isDecimal_toDigits magnitude
    intro token member isInteger
    rw [tokens_numeral span decimal, List.mem_singleton] at member
    subst member
    refine magnitudeOf_short isInteger (by simpa using decimal) ?_
    rw [String.length_ofList]
    exact (Nat.length_toDigits_le_iff (by decide) (by decide)).mpr less
  rw [integerLexemes]
  split
  · rw [List.flatMap_singleton]
    exact numeral (by omega)
  · rw [List.flatMap_cons, tokens_sign, List.flatMap_singleton]
    exact Readable.cons (fun same => by cases same) (numeral (by omega))

theorem call_written (known : DirectiveName) {arguments : List (List Lexeme)} {command : Directive}
    {inside : List Token}
    (listed : ([comma, space].intercalate arguments).flatMap (tokens span) = inside)
    (shape : Arguments known inside command) (readable : Readable inside) :
    Statement ((.sign '#' .hash :: callLexemes known.word arguments).flatMap (tokens span))
        (.directive command span) ∧
      Legible ((.sign '#' .hash :: callLexemes known.word arguments).flatMap (tokens span)) := by
  have statement := @Statement.directive ⟨.hash, "", span⟩ ⟨.directive, known.word, span⟩
    ⟨.leftParen, "", span⟩ ⟨.rightParen, "", span⟩ known inside command rfl rfl rfl rfl shape rfl
  have plain {kind : TokenKind} {value : String} (other : kind ≠ .number) {rest : List Token}
      (readable : Readable rest) : Readable (⟨kind, value, span⟩ :: rest) := readable.cons other
  rw [Span.hull_self] at statement
  rw [List.flatMap_cons, tokens_sign, tokens_call span (tokens_directive span known), listed]
  refine ⟨statement, Readable.legible ?_⟩
  exact plain (by decide) (plain (by decide) (plain (by decide)
    (readable.append (plain (by decide) readable_nil))))

theorem directive_written {command : Directive}
    (small : ∀ number ∈ command.integers, number.natAbs < 10 ^ Text.Integer.digitLimit)
    (stretch : Option Span) :
    Statement ((lexemes (.directive command stretch)).flatMap (tokens span))
        (.directive command span) ∧
      Legible ((lexemes (.directive command stretch)).flatMap (tokens span)) := by
  have integer := integer_written span
  have readable {number : Int} (member : number ∈ command.integers) :=
    integer_readable span (small number member)
  have separated {tokens rest : List Token} (readable : Readable tokens) (readable' : Readable rest) :
      Readable (tokens ++ ⟨.comma, "", span⟩ :: rest) :=
    readable.append (readable'.cons (fun same => by cases same))
  have comma : Token.kind ⟨.comma, "", span⟩ = .comma := rfl
  cases command with
  | frame x y width height =>
    have shape := Arguments.frame (integer x) comma (integer y) comma (integer width) comma
      (integer height)
    refine call_written span .frame ?_ shape ?_
    · simp [Printing.comma, space]
    · have three := separated (@readable width (by simp [Directive.integers]))
        (@readable height (by simp [Directive.integers]))
      have two := separated (@readable y (by simp [Directive.integers])) three
      have one := separated (@readable x (by simp [Directive.integers])) two
      simpa using one
  | resolution width height =>
    have shape := Arguments.resolution (integer width) comma (integer height)
    refine call_written span .resolution ?_ shape ?_
    · simp [Printing.comma, space]
    · exact separated (@readable width (by simp [Directive.integers]))
        (@readable height (by simp [Directive.integers]))
  | output path =>
    have path : Readable [⟨.string, path, span⟩] := readable_nil.cons (fun same => by cases same)
    exact call_written span .output (by simp) (.output rfl) path
  | printNow => exact call_written span .printNow (by simp) .printNow readable_nil

theorem Sentence.written {node : Node} (sentence : Sentence node)
    (plain : ∀ value ∈ node.numbers, Decimal.Plain value) :
    Statement ((lexemes node).flatMap (tokens span)) (node.place span) ∧
      Legible ((lexemes node).flatMap (tokens span)) := by
  cases sentence with
  | @equals left right stretch leftTree rightTree =>
    have both := List.forall_mem_append.mp plain
    have derived := (leftTree.derives span both.1).toSum
    have derived' := (rightTree.derives span both.2).toSum
    have equation := @Statement.equation _ _ ⟨.equals, "", span⟩ _ _ derived rfl derived'
    rw [Node.span_place, Node.span_place, Span.hull?, Span.hull_self] at equation
    have line : (lexemes (.equals left right stretch)).flatMap (tokens span) =
        (lexemes left).flatMap (tokens span) ++
          ⟨.equals, "", span⟩ :: (lexemes right).flatMap (tokens span) := by
      simp [lexemes, betweenLexemes, space]
    rw [line]
    refine ⟨equation, legible_of_plain fun token member => ?_⟩
    rcases List.mem_append.mp member with member | member
    · exact derived.plain token member
    · rcases List.mem_cons.mp member with rfl | member
      · exact fun same => by cases same
      · exact derived'.plain token member
  | @directive command stretch small _ => exact directive_written span small stretch

end

end Printing

end PlotScript

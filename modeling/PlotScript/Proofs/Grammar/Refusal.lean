import PlotScript.Proofs.Grammar.Lines

namespace PlotScript

namespace Grammar

open Reader Outcome

structure Keyword (token : Token) : Prop where
  directive : token.kind = .directive → ∃ name : DirectiveName, token.value = name.word
  function : token.kind = .function → ∃ name : FunctionName, token.value = name.word

theorem keyword_of_spells {chars : List Char} {token : Token}
    (spelled : Lexis.Spells chars token.kind token.value) : Keyword token := by
  generalize same : token.kind = kind at spelled
  generalize same' : token.value = value at spelled
  cases spelled with
  | @sign c _ known =>
    have plain : ∀ pair ∈ Lexis.signs, pair.2 ≠ .directive ∧ pair.2 ≠ .function := by decide
    obtain ⟨notDirective, notFunction⟩ := plain _ known
    exact ⟨fun kind => absurd (same.symm.trans kind) notDirective,
      fun kind => absurd (same.symm.trans kind) notFunction⟩
  | directive name => exact ⟨fun _ => ⟨name, same'⟩, by simp [same]⟩
  | function name => exact ⟨by simp [same], fun _ => ⟨name, same'⟩⟩
  | _ => exact ⟨by simp [same], by simp [same]⟩

theorem keyword_of_scan {source text : String} {tokens : List Token}
    (scanned : Token.scan source text = .ok tokens) : ∀ token ∈ tokens, Keyword token := by
  have closing : ∀ token ∈ Token.closing source text.length, Keyword token := by
    simp only [Token.closing, List.forall_mem_cons]
    exact ⟨⟨by simp, by simp⟩, ⟨by simp, by simp⟩, by simp⟩
  exact Lexis.forall_of_scan scanned (fun _ _ spelled => keyword_of_spells spelled) closing

/-- Why a script of these tokens is refused. -/
inductive Refusal (tokens : List Token) : Failure → Prop
  | illegal {token : Token} : token ∈ tokens → Refusal tokens (.of .illegalToken token.span)
  | missing {token : Token} (expected : Expected) :
      token ∈ tokens → Refusal tokens (.of (.missingToken expected) token.span)
  | long {token : Token} :
      InDirective tokens token → Text.Integer.digitLimit < token.value.length →
        Refusal tokens (.fault (.tooManyDigits token.value.length))

/-- A value with the property, or a failure that says why the script is refused or that the bound has
been used up. -/
def Settles {α : Type} (tokens : List Token) (P : α → Prop) : Except Failure α → Prop
  | .ok value => P value
  | .error failure => failure ≠ .fault .endless → Refusal tokens failure

theorem Settles.bind {α β : Type} {tokens : List Token} {P : α → Prop} {Q : β → Prop}
    {outcome : Except Failure α} {next : α → Except Failure β} (settles : Settles tokens P outcome)
    (later : ∀ value, P value → Settles tokens Q (next value)) :
    Settles tokens Q (outcome >>= next) := by
  cases outcome with
  | error failure => exact settles
  | ok value => exact later value settles

/-- A place in a script, on the line on which the tokens of `front` stand side by side. -/
structure Reached (tokens front : List Token) (stream : Stream) : Prop where
  scanned : Scanned stream.tokens
  line : ∃ before between, tokens = before ++ front ++ between ++ stream.tokens ∧
    ∀ token ∈ between, token.kind ≠ .endOfLine

section

variable {tokens front : List Token} {stream : Stream}

theorem Reached.mem (reached : Reached tokens front stream) : stream.current ∈ tokens := by
  obtain ⟨before, between, split, _⟩ := reached.line
  rw [split]
  exact List.mem_append_right _ List.mem_cons_self

theorem Reached.advance (reached : Reached tokens front stream)
    (inner : stream.current.kind ∉ [TokenKind.endOfText, .endOfLine]) :
    Reached tokens front stream.advance := by
  simp only [List.mem_cons, List.not_mem_nil, or_false, not_or] at inner
  obtain ⟨rest, scanned⟩ := reached.scanned.advance inner.1
  obtain ⟨before, between, split, inline⟩ := reached.line
  refine ⟨scanned, before, between ++ [stream.current], ?_, ?_⟩
  · rw [split, rest]
    simp
  · intro token member
    rcases List.mem_append.mp member with member | member
    · exact inline token member
    · rw [List.mem_singleton.mp member]
      exact inner.2

theorem Reached.restart (reached : Reached tokens front stream) : Reached tokens [] stream := by
  obtain ⟨before, between, split, inline⟩ := reached.line
  exact ⟨reached.scanned, before ++ front ++ between, [], by simpa using split, by simp⟩

theorem Reached.behind (reached : Reached tokens front stream)
    (inner : stream.current.kind ≠ .endOfText) : Reached tokens [stream.current] stream.advance := by
  obtain ⟨rest, scanned⟩ := reached.scanned.advance inner
  obtain ⟨before, between, split, _⟩ := reached.line
  refine ⟨scanned, before ++ front ++ between, [], ?_, by simp⟩
  rw [split, rest]
  simp

theorem Reached.inDirective {hash : Token} (reached : Reached tokens [hash] stream)
    (isHash : hash.kind = .hash) (isInteger : IsInteger stream.current) :
    InDirective tokens stream.current := by
  obtain ⟨before, between, split, inline⟩ := reached.line
  exact ⟨isInteger, before, hash, between, stream.later, by simpa [Stream.tokens] using split, isHash,
    inline⟩

/-- From every place on a line the reader comes to another one, or says why it does not. -/
def Moves {α : Type} (tokens front : List Token) (reader : Reader α) : Prop :=
  ∀ stream, Reached tokens front stream →
    Settles tokens (fun found => Reached tokens front found.2) (reader stream)

theorem expect_moves {kind : TokenKind} (expected : Expected)
    (inner : kind ∉ [TokenKind.endOfText, .endOfLine]) : Moves tokens front (expect kind expected) := by
  intro stream reached
  rw [expect]
  split
  · next found => exact reached.advance (found ▸ inner)
  · exact fun _ => .missing expected reached.mem

section

variable {term : Reader Node} (inner : Moves tokens front term)

include inner

theorem group_moves (reached : Reached tokens front stream)
    (opens : stream.current.kind = .leftParen) :
    Settles tokens (fun found => Reached tokens front found.2) (group term stream) := by
  refine (inner _ (reached.advance (by simp [opens]))).bind fun (body, after) reached => ?_
  refine (expect_moves .rightParen (by decide) after reached).bind fun (closing, last) reached => ?_
  exact reached

theorem trigCall_moves (function : Trig) (name : Token) :
    Moves tokens front (trigCall function name term) := by
  intro stream reached
  refine (expect_moves .leftParen (by decide) stream reached).bind fun (opening, first) reached => ?_
  refine (inner first reached).bind fun (argument, after) reached => ?_
  refine (expect_moves .rightParen (by decide) after reached).bind fun (closing, last) reached => ?_
  exact reached

theorem pairCall_moves (build : Node → Node → Option Span → Node) (name : Token) :
    Moves tokens front (pairCall build name term) := by
  intro stream reached
  refine (expect_moves .leftParen (by decide) stream reached).bind fun (opening, first) reached => ?_
  refine (inner first reached).bind fun (one, after) reached => ?_
  refine (expect_moves .comma (by decide) after reached).bind fun (comma, second) reached => ?_
  refine (inner second reached).bind fun (other, third) reached => ?_
  refine (expect_moves .rightParen (by decide) third reached).bind fun (closing, last) reached => ?_
  exact reached

variable (keywords : ∀ token ∈ tokens, Keyword token)

include keywords

theorem functionCall_moves (reached : Reached tokens front stream)
    (kind : stream.current.kind = .function) :
    Settles tokens (fun found => Reached tokens front found.2) (functionCall term stream) := by
  obtain ⟨name, word⟩ := (keywords stream.current reached.mem).function kind
  have later := reached.advance (by simp [kind])
  simp only [functionCall, word, ofWord?_function]
  cases name with
  | sin => exact trigCall_moves inner .sin stream.current _ later
  | cos => exact trigCall_moves inner .cos stream.current _ later
  | tan => exact trigCall_moves inner .tan stream.current _ later
  | pow => exact pairCall_moves inner .power stream.current _ later
  | root => exact pairCall_moves inner _ stream.current _ later

theorem operand_moves : Moves tokens front (operand term) := by
  intro stream reached
  simp only [operand]
  split
  · next opens => exact group_moves inner reached opens
  · next kind =>
    have value := Numeral.read?_decimal (reached.scanned.decimal kind)
    rw [String.ofList_toList] at value
    rw [numberOf, value]
    exact reached.advance (by simp [kind])
  · next kind => exact reached.advance (by simp [kind])
  · next kind => exact functionCall_moves inner keywords reached kind
  · exact fun _ => .illegal reached.mem

end

theorem juxtaposition_moves {operand : Reader Node} (inner : Moves tokens front operand)
    (bound : Nat) : Moves tokens front (juxtaposition operand bound) := by
  induction bound with
  | zero => exact fun stream _ ended => absurd rfl ended
  | succ bound ih =>
    intro stream reached
    refine (inner stream reached).bind fun (left, after) reached => ?_
    dsimp only
    split
    · exact (ih after reached).bind fun (right, last) reached => reached
    · exact reached

theorem rowFrom_moves {operator? : TokenKind → Option Operator} {operand : Reader Node}
    (inner : Moves tokens front operand)
    (signs : ∀ kind ∈ [TokenKind.endOfText, .endOfLine], operator? kind = none) (bound : Nat)
    (left : Node) : Moves tokens front (rowFrom operator? operand bound left) := by
  induction bound generalizing left with
  | zero => exact fun stream _ ended => absurd rfl ended
  | succ bound ih =>
    intro stream reached
    rw [rowFrom]
    split
    · exact reached
    · next operator known =>
      have sign : stream.current.kind ∉ [TokenKind.endOfText, .endOfLine] := by
        intro member
        rw [signs _ member] at known
        cases known
      refine (inner _ (reached.advance sign)).bind ?_
      rintro ⟨right, after⟩ reached
      exact ih _ after reached

theorem row_moves {operator? : TokenKind → Option Operator} {operand : Reader Node}
    (inner : Moves tokens front operand)
    (signs : ∀ kind ∈ [TokenKind.endOfText, .endOfLine], operator? kind = none) (bound : Nat) :
    Moves tokens front (row operator? operand bound) := by
  intro stream reached
  refine (inner stream reached).bind fun (left, after) reached => ?_
  exact rowFrom_moves inner signs bound left after reached

theorem integer_moves {hash : Token} (isHash : hash.kind = .hash) :
    Moves tokens [hash] integer := by
  have magnitude_moves (negative : Bool) : Moves tokens [hash] (magnitude negative) := by
    intro stream reached
    rw [magnitude]
    split
    · next isInteger =>
      have inside := reached.inDirective isHash isInteger
      have found := magnitudeOf_integer (reached.scanned.decimal isInteger.1) isInteger.2
      rw [String.length_toList] at found
      rw [found]
      split
      · next many => exact fun _ => .long inside many
      · exact reached.advance (by simp [isInteger.1])
    · exact fun _ => .missing .integer reached.mem
  intro stream reached
  rw [integer_eq]
  split
  · next negative => exact magnitude_moves true _ (reached.advance (by simp [negative]))
  · exact magnitude_moves false _ reached

theorem integerThenComma_moves {hash : Token} (isHash : hash.kind = .hash) :
    Moves tokens [hash] integerThenComma := by
  intro stream reached
  refine (integer_moves isHash stream reached).bind fun (value, after) reached => ?_
  refine (expect_moves .comma (by decide) after reached).bind fun (comma, last) reached => ?_
  exact reached

theorem arguments_moves {hash : Token} (isHash : hash.kind = .hash) (name : DirectiveName) :
    Moves tokens [hash] (arguments name) := by
  intro stream reached
  cases name with
  | frame =>
    refine (integerThenComma_moves isHash stream reached).bind fun (x, first) reached => ?_
    refine (integerThenComma_moves isHash first reached).bind fun (y, second) reached => ?_
    refine (integerThenComma_moves isHash second reached).bind fun (width, third) reached => ?_
    refine (integer_moves isHash third reached).bind fun (height, last) reached => ?_
    exact reached
  | resolution =>
    refine (integerThenComma_moves isHash stream reached).bind fun (width, first) reached => ?_
    refine (integer_moves isHash first reached).bind fun (height, last) reached => ?_
    exact reached
  | output =>
    refine (expect_moves .text (by decide) stream reached).bind fun (path, last) reached => ?_
    exact reached
  | printNow => exact reached

section

variable (keywords : ∀ token ∈ tokens, Keyword token)

include keywords

theorem term_moves (bound : Nat) : Moves tokens front (term bound) := by
  induction bound with
  | zero => exact fun stream _ ended => absurd rfl ended
  | succ bound ih =>
    have factor := juxtaposition_moves (operand_moves ih keywords) bound
    have product : Moves tokens front (row productOperator? _ bound) :=
      row_moves factor (by decide) bound
    exact row_moves product (by decide) bound

theorem equation_moves (bound : Nat) : Moves tokens front (equation bound) := by
  intro stream reached
  refine (term_moves keywords bound stream reached).bind fun (left, after) reached => ?_
  dsimp only
  split
  · next kind =>
    have later := reached.advance (by simp [kind])
    refine (term_moves keywords bound _ later).bind fun (right, last) reached => ?_
    exact reached
  · exact reached

theorem directive_moves (reached : Reached tokens [] stream)
    (isHash : stream.current.kind = .hash) :
    Settles tokens (fun found => Reached tokens [] found.2) (directive stream) := by
  have line := reached.behind (by simp [isHash])
  rw [directive]
  refine Settles.bind (P := fun found => found.1.kind = .directive ∧ found.1 ∈ tokens ∧
    Reached tokens [stream.current] found.2) ?_ ?_
  · rw [expect]
    split
    · next kind => exact ⟨kind, line.mem, line.advance (by simp [kind])⟩
    · exact fun _ => .missing .directiveName line.mem
  · rintro ⟨name, first⟩ ⟨kind, member, line⟩
    obtain ⟨known, word⟩ := (keywords name member).directive kind
    simp only [word, ofWord?_directive]
    refine (expect_moves .leftParen (by decide) first line).bind ?_
    rintro ⟨opening, second⟩ line
    refine (arguments_moves isHash known second line).bind ?_
    rintro ⟨command, third⟩ line
    refine (expect_moves .rightParen (by decide) third line).bind ?_
    rintro ⟨closing, last⟩ line
    exact line.restart

theorem statement_moves (bound : Nat) : Moves tokens [] (statement bound) := by
  intro stream reached
  rw [statement]
  split
  · next isHash => exact directive_moves keywords reached isHash
  · exact equation_moves keywords bound stream reached

theorem statements_settles (bound : Nat) (reached : Reached tokens [] stream) :
    Settles tokens (fun _ => True) (statements bound stream) := by
  induction bound generalizing stream with
  | zero => exact fun ended => absurd rfl ended
  | succ bound ih =>
    rw [statements]
    split
    · trivial
    · next isEnd =>
      split
      · trivial
      · exact ih (reached.behind (by simp [isEnd])).restart
    · refine (statement_moves keywords bound stream reached).bind ?_
      rintro ⟨node, after⟩ reached
      refine Settles.bind (P := fun found => Reached tokens [] found.2) ?_ ?_
      · rw [expect]
        split
        · next isEnd => exact (reached.behind (by simp [isEnd])).restart
        · exact fun _ => .missing .endOfLine reached.mem
      · rintro ⟨line, last⟩ reached
        exact (ih reached).bind fun nodes _ => trivial

end

end

theorem refusal_of_ofTokens {source text : String} {tokens : List Token} {failure : Failure}
    (scanned : Token.scan source text = .ok tokens) (refused : Node.ofTokens tokens = .error failure) :
    Refusal tokens failure := by
  have whole := scanned_of_scan scanned
  obtain ⟨stream, rfl, reading⟩ := whole.stream
  have reached : Reached stream.tokens [] stream := ⟨whole, [], [], rfl, by simp⟩
  have settles := statements_settles (keyword_of_scan scanned) stream.bound reached
  have ended := (statements_bound whole.ends (Nat.le_refl _) (Nat.le_refl _)).2
  rw [← reading, refused] at settles ended
  exact settles fun endless => ended (congrArg Except.error endless)

end Grammar

end PlotScript

import PlotScript.Proofs.Grammar.Bound
import PlotScript.Proofs.Lexis.Lines

namespace PlotScript

section

variable (move : Span → Span)

def Stream.mapSpans (stream : Stream) : Stream :=
  ⟨stream.current.mapSpan move, stream.later.map (Token.mapSpan move)⟩

def Node.mapSpans : Node → Node
  | .number value span => .number value (span.map move)
  | .symbol name span => .symbol name (span.map move)
  | .equals left right span => .equals left.mapSpans right.mapSpans (span.map move)
  | .arithmetic operator left right span =>
    .arithmetic operator left.mapSpans right.mapSpans (span.map move)
  | .trig function argument span => .trig function argument.mapSpans (span.map move)
  | .power base exponent span => .power base.mapSpans exponent.mapSpans (span.map move)
  | .root degree radicand explicit span =>
    .root degree.mapSpans radicand.mapSpans explicit (span.map move)
  | .directive command span => .directive command (span.map move)

def Failure.mapSpans : Failure → Failure
  | .diagnostic found => .diagnostic (found.mapSpan move)
  | .interpretation found => .interpretation (found.map (Diagnostic.mapSpan move))
  | .fault found => .fault found

end

namespace Grammar

open Reader

variable {α β : Type} {move : Span → Span}

@[simp] theorem current_mapSpans (stream : Stream) :
    (stream.mapSpans move).current = stream.current.mapSpan move := rfl

@[simp] theorem kind_mapSpan (token : Token) : (token.mapSpan move).kind = token.kind := rfl

@[simp] theorem value_mapSpan (token : Token) : (token.mapSpan move).value = token.value := rfl

@[simp] theorem span_mapSpan (token : Token) : (token.mapSpan move).span = move token.span := rfl

theorem span_mapSpans (node : Node) : (node.mapSpans move).span = node.span.map move := by
  cases node <;> rfl

theorem withSpan_mapSpans (node : Node) (span : Option Span) :
    (node.withSpan span).mapSpans move = (node.mapSpans move).withSpan (span.map move) := by
  cases node <;> rfl

@[simp] theorem advance_mapSpans (stream : Stream) :
    (stream.mapSpans move).advance = stream.advance.mapSpans move := by
  obtain ⟨current, later⟩ := stream
  cases later <;> rfl

def carry (move : Span → Span) (value : α → β) (outcome : Except Failure (α × Stream)) :
    Except Failure (β × Stream) :=
  (outcome.map fun (found, rest) => (value found, rest.mapSpans move)).mapError
    (Failure.mapSpans move)

/-- The reader may be used before or after the spans are moved. -/
def Carries (move : Span → Span) (value : α → α) (reader : Reader α) : Prop :=
  ∀ stream, reader (stream.mapSpans move) = carry move value (reader stream)

theorem carry_bind {first : β → β} {value : α → α} {outcome outcome' : Except Failure (β × Stream)}
    {next next' : β × Stream → Except Failure (α × Stream)}
    (same : outcome' = carry move first outcome)
    (later : ∀ found rest,
      next' (first found, rest.mapSpans move) = carry move value (next (found, rest))) :
    outcome' >>= next' = carry move value (outcome >>= next) := by
  subst same
  cases outcome with
  | error failure => rfl
  | ok result => exact later result.1 result.2

theorem carry_finish {first : β → β} {value : α → α} {outcome outcome' : Except Failure (β × Stream)}
    {next next' : β × Stream → Except Failure α} (same : outcome' = carry move first outcome)
    (later : ∀ found rest, next' (first found, rest.mapSpans move) =
      ((next (found, rest)).map value).mapError (Failure.mapSpans move)) :
    outcome' >>= next' = ((outcome >>= next).map value).mapError (Failure.mapSpans move) := by
  subst same
  cases outcome with
  | error failure => rfl
  | ok result => exact later result.1 result.2

theorem expect_carries (kind : TokenKind) (expected : Expected) :
    Carries move (Token.mapSpan move) (expect kind expected) := by
  intro stream
  rw [expect, expect, advance_mapSpans]
  by_cases found : stream.current.kind = kind
  · rw [if_pos found]
    exact if_pos found
  · rw [if_neg found]
    exact if_neg found

section

variable (hulls : ∀ first second, move (first.hull second) = (move first).hull (move second))

include hulls

theorem hull?_map (first second : Option Span) :
    Span.hull? (first.map move) (second.map move) = (Span.hull? first second).map move := by
  cases first with
  | none => cases second <;> rfl
  | some first =>
    cases second with
    | none => rfl
    | some second => exact congrArg some (hulls first second).symm

theorem join_mapSpans (operator : Operator) (left right : Node) :
    join operator (left.mapSpans move) (right.mapSpans move) =
      (join operator left right).mapSpans move := by
  simp only [join, span_mapSpans, hull?_map hulls]
  rfl

variable {term : Reader Node} (inner : Carries move (Node.mapSpans move) term)

include inner

theorem group_carries : Carries move (Node.mapSpans move) (group term) := by
  intro stream
  rw [group, group, advance_mapSpans]
  refine carry_bind (inner stream.advance) fun inside after => ?_
  refine carry_bind (expect_carries _ _ after) fun closing last => ?_
  have whole := @withSpan_mapSpans move inside
    (some (stream.current.span.hull closing.span))
  simp only [current_mapSpans, span_mapSpan, ← hulls]
  exact congrArg (fun node => Except.ok (node, last.mapSpans move)) whole.symm

theorem trigCall_carries (function : Trig) (name : Token) (stream : Stream) :
    trigCall function (name.mapSpan move) term (stream.mapSpans move) =
      carry move (Node.mapSpans move) (trigCall function name term stream) := by
  refine carry_bind (expect_carries _ _ stream) fun opening first => ?_
  refine carry_bind (inner first) fun argument after => ?_
  refine carry_bind (expect_carries _ _ after) fun closing last => ?_
  simp only [span_mapSpan, ← hulls]
  rfl

theorem pairCall_carries {build : Node → Node → Option Span → Node}
    (built : ∀ left right span, build (left.mapSpans move) (right.mapSpans move)
      (span.map move) = (build left right span).mapSpans move) (name : Token) (stream : Stream) :
    pairCall build (name.mapSpan move) term (stream.mapSpans move) =
      carry move (Node.mapSpans move) (pairCall build name term stream) := by
  refine carry_bind (expect_carries _ _ stream) fun opening first => ?_
  refine carry_bind (inner first) fun left after => ?_
  refine carry_bind (expect_carries _ _ after) fun comma second => ?_
  refine carry_bind (inner second) fun right after' => ?_
  refine carry_bind (expect_carries _ _ after') fun closing last => ?_
  have whole := built left right (some (name.span.hull closing.span))
  simp only [span_mapSpan, ← hulls]
  exact congrArg (fun node => Except.ok (node, last.mapSpans move)) whole

theorem functionCall_carries : Carries move (Node.mapSpans move) (functionCall term) := by
  intro stream
  have trig (function : Trig) := trigCall_carries hulls inner function stream.current stream.advance
  simp only [functionCall, advance_mapSpans, current_mapSpans, value_mapSpan]
  cases FunctionName.ofWord? stream.current.value with
  | none => rfl
  | some name =>
    cases name with
    | sin => exact trig .sin
    | cos => exact trig .cos
    | tan => exact trig .tan
    | pow => exact pairCall_carries hulls inner (fun _ _ _ => rfl) stream.current stream.advance
    | root => exact pairCall_carries hulls inner (fun _ _ _ => rfl) stream.current stream.advance

theorem operand_carries : Carries move (Node.mapSpans move) (operand term) := by
  intro stream
  simp only [operand, current_mapSpans, kind_mapSpan, advance_mapSpans]
  split
  · exact group_carries hulls inner stream
  · rw [numberOf, numberOf, value_mapSpan]
    cases Literal.read? stream.current.value <;> rfl
  · rfl
  · exact functionCall_carries hulls inner stream
  · rfl

end

section

variable (hulls : ∀ first second, move (first.hull second) = (move first).hull (move second))

include hulls

theorem juxtaposition_carries {operand : Reader Node}
    (inner : Carries move (Node.mapSpans move) operand) (bound : Nat) :
    Carries move (Node.mapSpans move) (juxtaposition operand bound) := by
  induction bound with
  | zero => exact fun _ => rfl
  | succ bound ih =>
    intro stream
    refine carry_bind (inner stream) fun left rest => ?_
    have same : (rest.mapSpans move).current.kind.startsOperand =
        rest.current.kind.startsOperand := rfl
    dsimp only
    by_cases more : rest.current.kind.startsOperand = true
    · rw [if_pos more, if_pos (same.trans more)]
      refine carry_bind (ih rest) fun right last => ?_
      rw [join_mapSpans hulls]
      rfl
    · rw [if_neg more, if_neg (same ▸ more)]
      rfl

theorem rowFrom_carries {operator? : TokenKind → Option Operator} {operand : Reader Node}
    (inner : Carries move (Node.mapSpans move) operand) (bound : Nat) (left : Node)
    (stream : Stream) :
    rowFrom operator? operand bound (left.mapSpans move) (stream.mapSpans move) =
      carry move (Node.mapSpans move) (rowFrom operator? operand bound left stream) := by
  induction bound generalizing left stream with
  | zero => rfl
  | succ bound ih =>
    simp only [rowFrom, current_mapSpans, kind_mapSpan, advance_mapSpans]
    split
    · rfl
    · refine carry_bind (inner stream.advance) fun right rest => ?_
      rw [join_mapSpans hulls]
      exact ih _ rest

theorem row_carries {operator? : TokenKind → Option Operator} {operand : Reader Node}
    (inner : Carries move (Node.mapSpans move) operand) (bound : Nat) :
    Carries move (Node.mapSpans move) (row operator? operand bound) := by
  intro stream
  refine carry_bind (inner stream) fun left rest => ?_
  exact rowFrom_carries hulls inner bound left rest

theorem term_carries (bound : Nat) : Carries move (Node.mapSpans move) (term bound) := by
  induction bound with
  | zero => exact fun _ => rfl
  | succ bound ih =>
    have factor := juxtaposition_carries hulls (operand_carries hulls ih) bound
    exact row_carries hulls (row_carries hulls factor bound) bound

theorem equation_carries (bound : Nat) : Carries move (Node.mapSpans move) (equation bound) := by
  intro stream
  refine carry_bind (term_carries hulls bound stream) fun left rest => ?_
  simp only [current_mapSpans, kind_mapSpan, advance_mapSpans, span_mapSpans]
  by_cases equals : rest.current.kind = .equals
  · rw [if_pos equals, if_pos equals]
    refine carry_bind (term_carries hulls bound rest.advance) fun right last => ?_
    simp only [span_mapSpans, hull?_map hulls]
    rfl
  · rw [if_neg equals, if_neg equals]
    rfl

end

theorem magnitudeOf_fault {token : Token} {failure : Failure}
    (failed : magnitudeOf token = .error failure) : ∃ fault, failure = .fault fault := by
  rw [magnitudeOf] at failed
  split at failed <;> cases failed
  · exact ⟨_, rfl⟩
  · exact ⟨_, rfl⟩

theorem magnitude_carries (negative : Bool) : Carries move id (magnitude negative) := by
  intro stream
  simp only [magnitude, current_mapSpans, kind_mapSpan, value_mapSpan, advance_mapSpans]
  by_cases isInteger : stream.current.kind = .number ∧ '.' ∉ stream.current.value.toList
  · have same : magnitudeOf (stream.current.mapSpan move) = magnitudeOf stream.current := rfl
    rw [if_pos isInteger, if_pos isInteger, same]
    cases read : magnitudeOf stream.current with
    | error failure =>
      obtain ⟨fault, rfl⟩ := magnitudeOf_fault read
      rfl
    | ok found => rfl
  · rw [if_neg isInteger, if_neg isInteger]
    rfl

theorem integer_carries : Carries move id integer := by
  intro stream
  rw [integer_eq, integer_eq, current_mapSpans, kind_mapSpan, advance_mapSpans]
  split
  · exact magnitude_carries true stream.advance
  · exact magnitude_carries false stream

theorem integerThenComma_carries : Carries move id integerThenComma := by
  intro stream
  refine carry_bind (integer_carries stream) fun value rest => ?_
  exact carry_bind (expect_carries _ _ rest) fun comma last => rfl

theorem arguments_carries (name : DirectiveName) : Carries move id (arguments name) := by
  intro stream
  cases name with
  | frame =>
    refine carry_bind (integerThenComma_carries stream) fun x first => ?_
    refine carry_bind (integerThenComma_carries first) fun y second => ?_
    refine carry_bind (integerThenComma_carries second) fun width third => ?_
    exact carry_bind (integer_carries third) fun height last => rfl
  | resolution =>
    refine carry_bind (integerThenComma_carries stream) fun width first => ?_
    exact carry_bind (integer_carries first) fun height last => rfl
  | output => exact carry_bind (expect_carries _ _ stream) fun path last => rfl
  | printNow => rfl

section

variable (hulls : ∀ first second, move (first.hull second) = (move first).hull (move second))

include hulls

theorem directive_carries : Carries move (Node.mapSpans move) directive := by
  intro stream
  rw [directive, directive, advance_mapSpans]
  refine carry_bind (expect_carries _ _ stream.advance) fun name first => ?_
  simp only [value_mapSpan]
  cases DirectiveName.ofWord? name.value with
  | none => rfl
  | some known =>
    refine carry_bind (expect_carries _ _ first) fun opening second => ?_
    refine carry_bind (arguments_carries known second) fun command third => ?_
    refine carry_bind (expect_carries _ _ third) fun closing last => ?_
    simp only [current_mapSpans, span_mapSpan, ← hulls]
    rfl

theorem statement_carries (bound : Nat) : Carries move (Node.mapSpans move) (statement bound) := by
  intro stream
  rw [statement, statement, current_mapSpans, kind_mapSpan]
  split
  · exact directive_carries hulls stream
  · exact equation_carries hulls bound stream

theorem statements_carries (bound : Nat) (stream : Stream) :
    statements bound (stream.mapSpans move) =
      ((statements bound stream).map (List.map (Node.mapSpans move))).mapError
        (Failure.mapSpans move) := by
  induction bound generalizing stream with
  | zero => rfl
  | succ bound ih =>
    simp only [statements, current_mapSpans, kind_mapSpan, advance_mapSpans]
    split
    · rfl
    · have same : (stream.mapSpans move).later.isEmpty = stream.later.isEmpty := by
        simp [Stream.mapSpans]
      rw [same]
      split
      · rfl
      · exact ih stream.advance
    · refine carry_finish (statement_carries hulls bound stream) fun node rest => ?_
      refine carry_finish (expect_carries _ _ rest) fun line last => ?_
      dsimp only
      rw [ih last]
      cases statements bound last <;> rfl

theorem ofTokens_mapSpans (tokens : List Token) :
    Node.ofTokens (tokens.map (Token.mapSpan move)) =
      ((Node.ofTokens tokens).map (List.map (Node.mapSpans move))).mapError
        (Failure.mapSpans move) := by
  cases tokens with
  | nil => rfl
  | cons first rest =>
    have bound : (Stream.mapSpans move ⟨first, rest⟩).bound = Stream.bound ⟨first, rest⟩ := by
      simp [Stream.bound, Stream.length, Stream.mapSpans]
    have start : Node.ofTokens ((first :: rest).map (Token.mapSpan move)) =
        statements (Stream.mapSpans move ⟨first, rest⟩).bound (Stream.mapSpans move ⟨first, rest⟩) :=
      rfl
    rw [start, bound]
    exact statements_carries hulls _ ⟨first, rest⟩

end

end Grammar

end PlotScript

import PlotScript.Proofs.Outcome
import PlotScript.Node.Parser

/-!
The bound of a reading. Two readings with bounds over the number of tokens come to the same, and
neither is endless, as long as the last token, which is read again and again, begins no operand by
itself. Every reader that succeeds leaves a shorter stream, so a bound is never used up.
-/

namespace PlotScript

namespace Stream

def last (stream : Stream) : Token := stream.later.getLastD stream.current

/-- The last token can not be read as an operand, or as the beginning of one, for ever. -/
def Ends (stream : Stream) : Prop := stream.last.kind ∉ [.number, .symbol, .leftParen]

theorem last_advance (stream : Stream) : stream.advance.last = stream.last := by
  obtain ⟨current, later⟩ := stream
  cases later with
  | nil => rfl
  | cons next later => exact (List.getLastD_cons ..).symm

theorem Ends.advance {stream : Stream} (ends : stream.Ends) : stream.advance.Ends := by
  rw [Ends, last_advance]
  exact ends

theorem length_pos (stream : Stream) : 1 ≤ stream.length := Nat.le_add_left 1 _

theorem length_advance_le (stream : Stream) : stream.advance.length ≤ stream.length := by
  obtain ⟨current, later⟩ := stream
  cases later with
  | nil => exact Nat.le_refl _
  | cons next later => exact Nat.le_succ _

theorem Ends.length_advance {stream : Stream} (ends : stream.Ends)
    (begins : stream.current.kind ∈ [TokenKind.number, .symbol, .leftParen]) :
    stream.advance.length ≤ stream.length - 1 := by
  obtain ⟨current, later⟩ := stream
  cases later with
  | nil => exact absurd begins ends
  | cons next later => exact Nat.le_refl _

end Stream

namespace Grammar

open Reader Outcome

variable {α β : Type}

/-- The same outcome twice, with at most `size` tokens left to read, and none that is endless. -/
def Agree (size : Nat) (outcome other : Except Failure (α × Stream)) : Prop :=
  outcome = other ∧ match outcome with
    | .ok (_, rest) => rest.Ends ∧ rest.length ≤ size
    | .error failure => failure ≠ .fault .endless

theorem Agree.ok {size : Nat} {rest : Stream} (value : α) (ends : rest.Ends)
    (short : rest.length ≤ size) : Agree size (.ok (value, rest)) (.ok (value, rest)) :=
  ⟨rfl, ends, short⟩

theorem Agree.error {size : Nat} {failure : Failure} (ended : failure ≠ .fault .endless) :
    Agree size (α := α) (.error failure) (.error failure) :=
  ⟨rfl, ended⟩

theorem Agree.fail {size : Nat} (cause : Cause) (token : Token) :
    Agree size (α := α) (Reader.fail cause token) (Reader.fail cause token) :=
  .error fun same => by cases same

theorem Agree.mono {size larger : Nat} {outcome other : Except Failure (α × Stream)}
    (agree : Agree size outcome other) (least : size ≤ larger) : Agree larger outcome other := by
  obtain ⟨rfl, left⟩ := agree
  cases outcome with
  | error failure => exact .error left
  | ok result => exact .ok result.1 left.1 (Nat.le_trans left.2 least)

theorem Agree.bind {size larger : Nat} {outcome other : Except Failure (β × Stream)}
    {next next' : β × Stream → Except Failure (α × Stream)} (agree : Agree size outcome other)
    (later : ∀ value rest, rest.Ends → rest.length ≤ size →
      Agree larger (next (value, rest)) (next' (value, rest))) :
    Agree larger (outcome >>= next) (other >>= next') := by
  obtain ⟨rfl, left⟩ := agree
  cases outcome with
  | error failure => exact .error left
  | ok result => exact later result.1 result.2 left.1 left.2

theorem Agree.bind_value {size : Nat} {outcome : Except Failure β}
    {next : β → Except Failure (α × Stream)} (ended : outcome ≠ .error (.fault .endless))
    (later : ∀ value, Agree size (next value) (next value)) :
    Agree size (outcome >>= next) (outcome >>= next) := by
  cases outcome with
  | error failure => exact .error fun same => ended (by rw [same])
  | ok value => exact later value

theorem Agree.finish {size : Nat} {outcome other : Except Failure (β × Stream)}
    {next next' : β × Stream → Except Failure α} (agree : Agree size outcome other)
    (later : ∀ value rest, rest.Ends → rest.length ≤ size →
      next (value, rest) = next' (value, rest) ∧ next (value, rest) ≠ .error (.fault .endless)) :
    outcome >>= next = other >>= next' ∧ outcome >>= next ≠ .error (.fault .endless) := by
  obtain ⟨rfl, left⟩ := agree
  cases outcome with
  | error failure => exact ⟨rfl, fun same => left (Except.error.inj same)⟩
  | ok result => exact later result.1 result.2 left.1 left.2

def Agrees (size : Nat) (reader other : Reader α) : Prop :=
  ∀ stream, stream.Ends → stream.length ≤ size →
    Agree (stream.length - 1) (reader stream) (other stream)

theorem expect_agree {stream : Stream} (ends : stream.Ends) (kind : TokenKind)
    (expected : Expected) :
    Agree stream.length (expect kind expected stream) (expect kind expected stream) := by
  rw [expect]
  split
  · exact .ok _ ends.advance stream.length_advance_le
  · exact .fail _ _

theorem opening_agree {stream : Stream} (ends : stream.Ends) :
    Agree (stream.length - 1) (expect .leftParen .leftParen stream)
      (expect .leftParen .leftParen stream) := by
  rw [expect]
  split
  · next opens => exact .ok _ ends.advance (ends.length_advance (by simp [opens]))
  · exact .fail _ _

theorem numberOf_ne_endless (token : Token) : numberOf token ≠ .error (.fault .endless) := by
  rw [numberOf]
  split <;> simp

theorem magnitudeOf_ne_endless (token : Token) : magnitudeOf token ≠ .error (.fault .endless) := by
  rw [magnitudeOf]
  split <;> simp

section

variable {size : Nat} {term term' : Reader Node} (inner : Agrees size term term')

include inner

theorem group_agree {stream : Stream} (ends : stream.Ends) (small : stream.length ≤ size + 1)
    (opens : stream.current.kind = .leftParen) :
    Agree (stream.length - 1) (group term stream) (group term' stream) := by
  have shorter := ends.length_advance (by simp [opens])
  refine (inner stream.advance ends.advance (by omega)).bind fun inside after ends fewer => ?_
  refine (expect_agree ends .rightParen .rightParen).bind fun closing last ends fewer => ?_
  exact .ok _ ends (by omega)

theorem trigCall_agree (function : Trig) (name : Token) {stream : Stream} (ends : stream.Ends)
    (small : stream.length ≤ size + 1) :
    Agree (stream.length - 1) (trigCall function name term stream)
      (trigCall function name term' stream) := by
  refine (opening_agree ends).bind fun opening first ends fewer => ?_
  refine (inner first ends (by omega)).bind fun argument after ends fewer => ?_
  refine (expect_agree ends .rightParen .rightParen).bind fun closing last ends fewer => ?_
  exact .ok _ ends (by omega)

theorem pairCall_agree (build : Node → Node → Option Span → Node) (name : Token) {stream : Stream}
    (ends : stream.Ends) (small : stream.length ≤ size + 1) :
    Agree (stream.length - 1) (pairCall build name term stream)
      (pairCall build name term' stream) := by
  refine (opening_agree ends).bind fun opening first ends fewer => ?_
  refine (inner first ends (by omega)).bind fun one after ends fewer => ?_
  refine (expect_agree ends .comma .comma).bind fun comma second ends fewer => ?_
  refine (inner second ends (by omega)).bind fun other third ends fewer => ?_
  refine (expect_agree ends .rightParen .rightParen).bind fun closing last ends fewer => ?_
  exact .ok _ ends (by omega)

theorem functionCall_agree {stream : Stream} (ends : stream.Ends)
    (small : stream.length ≤ size + 1) :
    Agree (stream.length - 1) (functionCall term stream) (functionCall term' stream) := by
  have least := stream.length_advance_le
  have trig (function : Trig) := (trigCall_agree inner function stream.current ends.advance
    (by omega)).mono (by omega : _ ≤ stream.length - 1)
  have pair (build : Node → Node → Option Span → Node) := (pairCall_agree inner build stream.current
    ends.advance (by omega)).mono (by omega : _ ≤ stream.length - 1)
  simp only [functionCall]
  split
  · exact .fail _ _
  · exact trig .sin
  · exact trig .cos
  · exact trig .tan
  · exact pair .power
  · exact pair _

theorem operand_agrees : Agrees (size + 1) (operand term) (operand term') := by
  intro stream ends small
  simp only [operand]
  split
  · next opens => exact group_agree inner ends small opens
  · next kind =>
    refine .bind_value (numberOf_ne_endless _) fun number => ?_
    exact .ok _ ends.advance (ends.length_advance (by simp [kind]))
  · next kind => exact .ok _ ends.advance (ends.length_advance (by simp [kind]))
  · exact functionCall_agree inner ends small
  · exact .fail _ _

end

theorem juxtaposition_agree {size bound bound' : Nat} {operand operand' : Reader Node}
    (inner : Agrees size operand operand') {stream : Stream} (ends : stream.Ends)
    (small : stream.length ≤ size) (enough : stream.length ≤ bound)
    (enough' : stream.length ≤ bound') :
    Agree (stream.length - 1) (juxtaposition operand bound stream)
      (juxtaposition operand' bound' stream) := by
  have filled := stream.length_pos
  induction bound generalizing bound' stream with
  | zero => omega
  | succ bound ih =>
    obtain ⟨bound', rfl⟩ := Nat.exists_eq_add_one_of_ne_zero (by omega : bound' ≠ 0)
    refine (inner stream ends small).bind fun left rest ends fewer => ?_
    dsimp only
    split
    · have shorter : Agree (rest.length - 1) (juxtaposition operand bound rest)
          (juxtaposition operand' bound' rest) :=
        ih ends (by omega) (by omega) (by omega) rest.length_pos
      refine shorter.bind fun right last ends fewer => ?_
      exact .ok _ ends (by omega : last.length ≤ stream.length - 1)
    · exact .ok _ ends fewer

theorem rowFrom_agree {size bound bound' : Nat} {operand operand' : Reader Node}
    {operator? : TokenKind → Option Operator} (inner : Agrees size operand operand')
    {stream : Stream} (ends : stream.Ends) (small : stream.length ≤ size)
    (enough : stream.length ≤ bound) (enough' : stream.length ≤ bound') (left : Node) :
    Agree stream.length (rowFrom operator? operand bound left stream)
      (rowFrom operator? operand' bound' left stream) := by
  have filled := stream.length_pos
  induction bound generalizing bound' stream left with
  | zero => omega
  | succ bound ih =>
    obtain ⟨bound', rfl⟩ := Nat.exists_eq_add_one_of_ne_zero (by omega : bound' ≠ 0)
    have least := stream.length_advance_le
    rw [rowFrom, rowFrom]
    split
    · exact .ok _ ends (Nat.le_refl _)
    · refine (inner stream.advance ends.advance (by omega)).bind fun right rest ends fewer => ?_
      exact (ih ends (by omega) (by omega) (by omega) _ rest.length_pos).mono (by omega)

theorem row_agrees {size bound bound' : Nat} {operand operand' : Reader Node}
    {operator? : TokenKind → Option Operator} (inner : Agrees size operand operand')
    (enough : size ≤ bound) (enough' : size ≤ bound') :
    Agrees size (row operator? operand bound) (row operator? operand' bound') := by
  intro stream ends small
  refine (inner stream ends small).bind fun left rest ends fewer => ?_
  exact (rowFrom_agree inner ends (by omega) (by omega) (by omega) left).mono fewer

theorem term_agrees {size bound bound' : Nat} (enough : size < bound) (enough' : size < bound') :
    Agrees size (term bound) (term bound') := by
  induction bound generalizing size bound' with
  | zero => omega
  | succ bound ih =>
    obtain ⟨bound', rfl⟩ := Nat.exists_eq_add_one_of_ne_zero (by omega : bound' ≠ 0)
    -- The bound falls with each parenthesis, and a parenthesis costs a token: the operands within are
    -- read from streams of one token less.
    cases size with
    | zero =>
      intro stream _ small
      have filled := stream.length_pos
      omega
    | succ size =>
      have factor : Agrees (size + 1) (juxtaposition (operand (term bound)) bound)
          (juxtaposition (operand (term bound')) bound') := by
        intro stream ends small
        exact juxtaposition_agree (operand_agrees (ih (by omega) (by omega))) ends small (by omega)
          (by omega)
      exact row_agrees (row_agrees factor (by omega) (by omega)) (by omega) (by omega)

theorem equation_agrees {size bound bound' : Nat} (enough : size < bound)
    (enough' : size < bound') : Agrees size (equation bound) (equation bound') := by
  have inner := term_agrees enough enough'
  intro stream ends small
  refine (inner stream ends small).bind fun left rest ends fewer => ?_
  have least := rest.length_advance_le
  dsimp only
  split
  · refine (inner rest.advance ends.advance (by omega)).bind fun right last ends fewer => ?_
    exact .ok _ ends (by omega : last.length ≤ stream.length - 1)
  · exact .ok _ ends fewer

def magnitude (negative : Bool) : Reader Int := fun stream =>
  if stream.current.kind = .number ∧ '.' ∉ stream.current.value.toList then do
    let found ← magnitudeOf stream.current
    return (if negative then -found else found, stream.advance)
  else fail (.missingToken .integer) stream.current

theorem integer_eq (stream : Stream) :
    integer stream =
      if stream.current.kind = .minus then magnitude true stream.advance
      else magnitude false stream := by
  by_cases negative : stream.current.kind = .minus
  · simp only [integer, magnitude, negative, if_true]
  · simp only [integer, magnitude, negative, if_false]
    rfl

theorem magnitude_agree (negative : Bool) {stream : Stream} (ends : stream.Ends) :
    Agree stream.length (magnitude negative stream) (magnitude negative stream) := by
  rw [magnitude]
  split
  · refine .bind_value (magnitudeOf_ne_endless _) fun found => ?_
    exact .ok _ ends.advance stream.length_advance_le
  · exact .fail _ _

theorem integer_agree {stream : Stream} (ends : stream.Ends) :
    Agree stream.length (integer stream) (integer stream) := by
  rw [integer_eq]
  split
  · exact (magnitude_agree true ends.advance).mono stream.length_advance_le
  · exact magnitude_agree false ends

theorem integerThenComma_agree {stream : Stream} (ends : stream.Ends) :
    Agree stream.length (integerThenComma stream) (integerThenComma stream) := by
  refine (integer_agree ends).bind fun value rest ends fewer => ?_
  refine (expect_agree ends .comma .comma).bind fun comma last ends fewer => ?_
  exact .ok _ ends (by omega)

theorem arguments_agree (name : DirectiveName) {stream : Stream} (ends : stream.Ends) :
    Agree stream.length (arguments name stream) (arguments name stream) := by
  cases name with
  | frame =>
    refine (integerThenComma_agree ends).bind fun x first ends fewer => ?_
    refine (integerThenComma_agree ends).bind fun y second ends fewer => ?_
    refine (integerThenComma_agree ends).bind fun width third ends fewer => ?_
    refine (integer_agree ends).bind fun height last ends fewer => ?_
    exact .ok _ ends (by omega)
  | resolution =>
    refine (integerThenComma_agree ends).bind fun width first ends fewer => ?_
    refine (integer_agree ends).bind fun height last ends fewer => ?_
    exact .ok _ ends (by omega)
  | output =>
    refine (expect_agree ends .string .text).bind fun path last ends fewer => ?_
    exact .ok _ ends fewer
  | printNow => exact .ok _ ends (Nat.le_refl _)

theorem directive_agree {stream : Stream} (ends : stream.Ends) :
    Agree (stream.length - 1) (directive stream) (directive stream) := by
  have least := stream.length_advance_le
  refine (expect_agree ends.advance .directive .directiveName).bind fun name first ends fewer => ?_
  dsimp only
  split
  · exact .fail _ _
  · refine (opening_agree ends).bind fun opening second ends fewer => ?_
    refine (arguments_agree _ ends).bind fun command third ends fewer => ?_
    refine (expect_agree ends .rightParen .rightParen).bind fun closing last ends fewer => ?_
    exact .ok _ ends (by omega : last.length ≤ stream.length - 1)

theorem statement_agrees {size bound bound' : Nat} (enough : size < bound)
    (enough' : size < bound') : Agrees size (statement bound) (statement bound') := by
  intro stream ends small
  rw [statement, statement]
  split
  · exact directive_agree ends
  · exact equation_agrees enough enough' stream ends small

theorem statements_bound {bound bound' : Nat} {stream : Stream} (ends : stream.Ends)
    (enough : stream.bound ≤ bound) (enough' : stream.bound ≤ bound') :
    statements bound stream = statements bound' stream ∧
      statements bound stream ≠ .error (.fault .endless) := by
  rw [Stream.bound] at enough enough'
  induction bound generalizing bound' stream with
  | zero => omega
  | succ bound ih =>
    obtain ⟨bound', rfl⟩ := Nat.exists_eq_add_one_of_ne_zero (by omega : bound' ≠ 0)
    rw [statements, statements]
    split
    · exact ⟨rfl, by simp⟩
    · split
      · exact ⟨rfl, by simp⟩
      -- A line end is no operand and may be the last token: only the check for more keeps it from
      -- being read for ever.
      · next more =>
        have shorter : stream.advance.length < stream.length := by
          obtain ⟨current, later⟩ := stream
          cases later with
          | nil => exact absurd rfl more
          | cons next later => exact Nat.lt_succ_self _
        exact ih ends.advance (by omega) (by omega)
    · have filled := stream.length_pos
      have agree := statement_agrees (by omega : stream.length < bound)
        (by omega : stream.length < bound') stream ends (Nat.le_refl _)
      refine agree.finish fun node rest ends fewer => ?_
      refine (expect_agree ends .endOfLine .endOfLine).finish fun line last ends fewer => ?_
      obtain ⟨same, finished⟩ := ih ends (by omega : last.length + 2 ≤ bound)
        (by omega : last.length + 2 ≤ bound')
      dsimp only
      rw [← same]
      cases later : statements bound last with
      | error failure => exact ⟨rfl, fun ended => finished (by rw [later]; exact ended)⟩
      | ok nodes => exact ⟨rfl, fun ended => by cases ended⟩

end Grammar

end PlotScript

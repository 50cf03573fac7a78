import PlotScript.Proofs.Grammar
import PlotScript.Proofs.Outcome

/-!
What a reader has read is a phrase of the grammar. Each reader is taken by itself: from readers of
the phrases inside it comes a reader of its own phrase.
-/

namespace PlotScript

def Stream.tokens (stream : Stream) : List Token := stream.current :: stream.later

namespace Grammar

open Reader Outcome

theorem Scanned.advance {stream : Stream} (scanned : Scanned stream.tokens)
    (before : stream.current.kind ≠ .endOfText) :
    stream.tokens = stream.current :: stream.advance.tokens ∧ Scanned stream.advance.tokens := by
  obtain ⟨current, later⟩ := stream
  cases scanned with
  | stop last => exact absurd last before
  | more _ _ remaining =>
    cases later with
    | nil => cases remaining
    | cons next later => exact ⟨rfl, remaining⟩

/-- What the reader has read has the shape, and the end of a script is left. -/
def Reads {α : Type} (reader : Reader α) (Shape : List Token → α → Prop) : Prop :=
  ∀ {stream value rest}, Scanned stream.tokens → reader stream = .ok (value, rest) →
    ∃ tokens, stream.tokens = tokens ++ rest.tokens ∧ Shape tokens value ∧ Scanned rest.tokens

theorem expect_eq_ok {kind : TokenKind} {expected : Expected} {stream rest : Stream}
    {token : Token} (before : kind ≠ .endOfText) (scanned : Scanned stream.tokens)
    (read : expect kind expected stream = .ok (token, rest)) :
    token.kind = kind ∧ stream.tokens = token :: rest.tokens ∧ Scanned rest.tokens := by
  unfold expect at read
  split at read
  · next found =>
    cases read
    exact ⟨found, scanned.advance (found ▸ before)⟩
  · cases read

theorem Scanned.decimal {stream : Stream} (scanned : Scanned stream.tokens)
    (kind : stream.current.kind = .number) : Lexis.IsDecimal stream.current.value.toList := by
  obtain ⟨current, later⟩ := stream
  cases scanned with
  | stop last => exact absurd (kind.symm.trans last) (by decide)
  | more _ decimal _ => exact decimal kind

theorem numberOf_sound {token : Token} {node : Node} (kind : token.kind = .number)
    (decimal : Lexis.IsDecimal token.value.toList) (read : numberOf token = .ok node) :
    Derives .operand [token] node := by
  have value := Numeral.read?_decimal decimal
  rw [String.ofList_toList] at value
  rw [numberOf, value] at read
  cases read
  exact .number kind

theorem functionWord {name : FunctionName} {text : String}
    (known : FunctionName.ofWord? text = some name) : text = name.word := by
  have found := List.find?_some known
  exact (beq_iff_eq.mp found).symm

theorem directiveWord {name : DirectiveName} {text : String}
    (known : DirectiveName.ofWord? text = some name) : text = name.word := by
  have found := List.find?_some known
  exact (beq_iff_eq.mp found).symm

section

variable {term : Reader Node} (inner : Reads term (Derives .sum))

include inner

theorem group_sound {stream rest : Stream} {node : Node} (scanned : Scanned stream.tokens)
    (opens : stream.current.kind = .leftParen) (read : group term stream = .ok (node, rest)) :
    ∃ tokens, stream.tokens = tokens ++ rest.tokens ∧ Derives .operand tokens node ∧
      Scanned rest.tokens := by
  obtain ⟨front, scanned⟩ := scanned.advance (by simp [opens])
  simp only [group, bind_eq_ok_iff, Prod.exists] at read
  obtain ⟨body, after, parsed, closing, last, closed, finished⟩ := read
  obtain ⟨tokens, middle, derived, scanned⟩ := inner scanned parsed
  obtain ⟨closes, back, scanned⟩ := expect_eq_ok (by decide) scanned closed
  cases finished
  refine ⟨stream.current :: tokens ++ [closing], ?_, .group opens derived closes, scanned⟩
  rw [front, middle, back]
  simp

theorem trigCall_sound {function : Trig} {name : Token} (kind : name.kind = .function)
    (word : name.value = function.word) :
    Reads (trigCall function name term) fun tokens node => Derives .operand (name :: tokens) node := by
  intro stream node rest scanned read
  simp only [trigCall, bind_eq_ok_iff, Prod.exists] at read
  obtain ⟨opening, first, opened, argument, after, parsed, closing, last, closed, finished⟩ := read
  obtain ⟨opens, front, scanned⟩ := expect_eq_ok (by decide) scanned opened
  obtain ⟨tokens, middle, derived, scanned⟩ := inner scanned parsed
  obtain ⟨closes, back, scanned⟩ := expect_eq_ok (by decide) scanned closed
  cases finished
  refine ⟨opening :: tokens ++ [closing], ?_, .trig function kind word opens derived closes, scanned⟩
  rw [front, middle, back]
  simp

theorem pairCall_sound {build : Node → Node → Option Span → Node} {name : Token} :
    Reads (pairCall build name term) fun tokens node =>
      ∃ opening first comma second closing left right,
        tokens = opening :: first ++ comma :: second ++ [closing] ∧ opening.kind = .leftParen ∧
          Derives .sum first left ∧ comma.kind = .comma ∧ Derives .sum second right ∧
            closing.kind = .rightParen ∧ node = build left right (name.span.hull closing.span) := by
  intro stream node rest scanned read
  simp only [pairCall, bind_eq_ok_iff, Prod.exists] at read
  obtain ⟨opening, _, opened, left, _, parsed, comma, _, separated, right, _, parsed', closing, _,
    closed, finished⟩ := read
  obtain ⟨opens, front, scanned⟩ := expect_eq_ok (by decide) scanned opened
  obtain ⟨first, middle, derived, scanned⟩ := inner scanned parsed
  obtain ⟨separates, next, scanned⟩ := expect_eq_ok (by decide) scanned separated
  obtain ⟨second, middle', derived', scanned⟩ := inner scanned parsed'
  obtain ⟨closes, back, scanned⟩ := expect_eq_ok (by decide) scanned closed
  cases finished
  refine ⟨opening :: first ++ comma :: second ++ [closing], ?_, ⟨opening, first, comma, second,
    closing, left, right, rfl, opens, derived, separates, derived', closes, rfl⟩, scanned⟩
  rw [front, middle, next, middle', back]
  simp

theorem functionCall_sound {stream rest : Stream} {node : Node} (scanned : Scanned stream.tokens)
    (kind : stream.current.kind = .function) (read : functionCall term stream = .ok (node, rest)) :
    ∃ tokens, stream.tokens = tokens ++ rest.tokens ∧ Derives .operand tokens node ∧
      Scanned rest.tokens := by
  obtain ⟨front, remaining⟩ := scanned.advance (by simp [kind])
  have trig (function : Trig) (word : stream.current.value = function.word)
      (called : trigCall function stream.current term stream.advance = .ok (node, rest)) :
      ∃ tokens, stream.tokens = tokens ++ rest.tokens ∧ Derives .operand tokens node ∧
        Scanned rest.tokens := by
    obtain ⟨tokens, back, derived, scanned⟩ := trigCall_sound inner kind word remaining called
    exact ⟨stream.current :: tokens, by rw [front, back]; rfl, derived, scanned⟩
  simp only [functionCall] at read
  split at read
  · cases read
  · next known => exact trig .sin (functionWord known) read
  · next known => exact trig .cos (functionWord known) read
  · next known => exact trig .tan (functionWord known) read
  · next known =>
    obtain ⟨tokens, back, shape, scanned⟩ := pairCall_sound inner remaining read
    obtain ⟨opening, first, comma, second, closing, left, right, rfl, opens, derived, separates,
      derived', closes, rfl⟩ := shape
    exact ⟨_, by rw [front, back]; rfl,
      .power kind (functionWord known) opens derived separates derived' closes, scanned⟩
  · next known =>
    obtain ⟨tokens, back, shape, scanned⟩ := pairCall_sound inner remaining read
    obtain ⟨opening, first, comma, second, closing, left, right, rfl, opens, derived, separates,
      derived', closes, rfl⟩ := shape
    exact ⟨_, by rw [front, back]; rfl,
      .root kind (functionWord known) opens derived separates derived' closes, scanned⟩

theorem operand_sound : Reads (operand term) (Derives .operand) := by
  intro stream node rest scanned read
  simp only [operand] at read
  split at read
  · next kind => exact group_sound inner scanned kind read
  · next kind =>
    simp only [bind_eq_ok_iff] at read
    obtain ⟨number, found, finished⟩ := read
    cases finished
    obtain ⟨front, remaining⟩ := scanned.advance (by simp [kind])
    exact ⟨[stream.current], front, numberOf_sound kind (scanned.decimal kind) found, remaining⟩
  · next kind =>
    cases read
    obtain ⟨front, remaining⟩ := scanned.advance (by simp [kind])
    exact ⟨[stream.current], front, .symbol kind, remaining⟩
  · next kind => exact functionCall_sound inner scanned kind read
  · cases read

end

theorem juxtaposition_sound {operand : Reader Node} (inner : Reads operand (Derives .operand))
    (bound : Nat) : Reads (juxtaposition operand bound) (Derives .row) := by
  induction bound with
  | zero =>
    intro stream node rest _ read
    cases read
  | succ bound ih =>
    intro stream node rest scanned read
    simp only [juxtaposition, bind_eq_ok_iff, Prod.exists] at read
    obtain ⟨left, after, parsed, finished⟩ := read
    obtain ⟨tokens, front, derived, scanned⟩ := inner scanned parsed
    split at finished
    · simp only [bind_eq_ok_iff, Prod.exists] at finished
      obtain ⟨right, last, parsed', finished⟩ := finished
      obtain ⟨others, back, derived', scanned⟩ := ih scanned parsed'
      cases finished
      refine ⟨tokens ++ others, ?_, .beside derived derived', scanned⟩
      rw [front, back, List.append_assoc]
    · cases finished
      exact ⟨tokens, front, .alone derived, scanned⟩

/-- Operands with signs between them, as a row of links behind the first operand. -/
def Chain (signs : List (TokenKind × Operator)) (Operand : List Token → Node → Prop)
    (left : Node) (tokens : List Token) (node : Node) : Prop :=
  ∃ links, tokens = links.flatMap Link.all ∧ node = chained left links ∧
    (∀ link ∈ links, (link.sign.kind, link.operator) ∈ signs) ∧
      ∀ link ∈ links, Operand link.tokens link.node

theorem rowFrom_sound {operator? : TokenKind → Option Operator} {operand : Reader Node}
    {signs : List (TokenKind × Operator)} {Operand : List Token → Node → Prop}
    (inner : Reads operand Operand)
    (listed : ∀ {kind operator}, operator? kind = some operator → (kind, operator) ∈ signs)
    (last : ∀ operator, (TokenKind.endOfText, operator) ∉ signs)
    (bound : Nat) (left : Node) :
    Reads (rowFrom operator? operand bound left) (Chain signs Operand left) := by
  induction bound generalizing left with
  | zero =>
    intro stream node rest _ read
    cases read
  | succ bound ih =>
    intro stream node rest scanned read
    unfold rowFrom at read
    split at read
    · cases read
      exact ⟨[], rfl, ⟨[], rfl, rfl, by simp, by simp⟩, scanned⟩
    · next operator known =>
      simp only [bind_eq_ok_iff, Prod.exists] at read
      obtain ⟨right, after, parsed, read⟩ := read
      have before : stream.current.kind ≠ .endOfText := by
        intro ended
        exact last operator (ended ▸ listed known)
      obtain ⟨front, scanned⟩ := scanned.advance before
      obtain ⟨tokens, middle, derived, scanned⟩ := inner scanned parsed
      obtain ⟨others, back, ⟨links, rfl, rfl, signed, derivations⟩, scanned⟩ := ih _ scanned read
      let link : Link := ⟨stream.current, operator, tokens, right⟩
      refine ⟨(link :: links).flatMap Link.all, ?_, ⟨link :: links, rfl, rfl, ?_, ?_⟩, scanned⟩
      · rw [front, middle, back]
        simp [link, Link.all]
      · exact List.forall_mem_cons.mpr ⟨listed known, signed⟩
      · exact List.forall_mem_cons.mpr ⟨derived, derivations⟩

theorem mem_productSigns {kind : TokenKind} {operator : Operator} :
    productOperator? kind = some operator ↔ (kind, operator) ∈ productSigns := by
  cases kind <;> cases operator <;> simp [productOperator?, productSigns]

theorem mem_sumSigns {kind : TokenKind} {operator : Operator} :
    sumOperator? kind = some operator ↔ (kind, operator) ∈ sumSigns := by
  cases kind <;> cases operator <;> simp [sumOperator?, sumSigns]

theorem row_sound {operator? : TokenKind → Option Operator} {operand : Reader Node}
    {signs : List (TokenKind × Operator)} {Operand : List Token → Node → Prop}
    (inner : Reads operand Operand)
    (listed : ∀ {kind operator}, operator? kind = some operator → (kind, operator) ∈ signs)
    (last : ∀ operator, (TokenKind.endOfText, operator) ∉ signs) (bound : Nat) :
    Reads (row operator? operand bound) fun tokens node => ∃ front first others,
      tokens = front ++ others ∧ Operand front first ∧ Chain signs Operand first others node := by
  intro stream node rest scanned read
  simp only [row, bind_eq_ok_iff, Prod.exists] at read
  obtain ⟨first, after, parsed, read⟩ := read
  obtain ⟨tokens, front, derived, scanned⟩ := inner scanned parsed
  obtain ⟨others, back, chain, scanned⟩ := rowFrom_sound inner listed last bound first scanned read
  refine ⟨tokens ++ others, ?_, ⟨tokens, first, others, rfl, derived, chain⟩, scanned⟩
  rw [front, back, List.append_assoc]

theorem product_sound {factor : Reader Node} (inner : Reads factor (Derives .row)) (bound : Nat) :
    Reads (row productOperator? factor bound) (Derives .product) := by
  intro stream node rest scanned read
  obtain ⟨_, split, ⟨front, first, _, rfl, derived, links, rfl, rfl, signed, derivations⟩, scanned⟩ :=
    row_sound inner mem_productSigns.mp (by simp [productSigns]) bound scanned read
  exact ⟨_, split, .product derived signed derivations, scanned⟩

theorem sum_sound {summand : Reader Node} (inner : Reads summand (Derives .product)) (bound : Nat) :
    Reads (row sumOperator? summand bound) (Derives .sum) := by
  intro stream node rest scanned read
  obtain ⟨_, split, ⟨front, first, _, rfl, derived, links, rfl, rfl, signed, derivations⟩, scanned⟩ :=
    row_sound inner mem_sumSigns.mp (by simp [sumSigns]) bound scanned read
  exact ⟨_, split, .sum derived signed derivations, scanned⟩

theorem term_sound (bound : Nat) : Reads (term bound) (Derives .sum) := by
  induction bound with
  | zero =>
    intro stream node rest _ read
    cases read
  | succ bound ih =>
    exact sum_sound (product_sound (juxtaposition_sound (operand_sound ih) bound) bound) bound

theorem digits_of_decimal {chars : List Char} (decimal : Lexis.IsDecimal chars)
    (whole : '.' ∉ chars) : chars ≠ [] ∧ ∀ c ∈ chars, Lexeme.isDigit c := by
  obtain ⟨integral, filled, digits, rfl | ⟨fraction, _, rfl⟩⟩ := decimal
  · exact ⟨filled, digits⟩
  · exact absurd (by simp) whole

theorem magnitudeOf_integer {token : Token} (decimal : Lexis.IsDecimal token.value.toList)
    (whole : '.' ∉ token.value.toList) :
    magnitudeOf token =
      if Text.Integer.digitLimit < token.value.toList.length then
        .error (.fault (.tooManyDigits token.value.toList.length))
      else .ok (Numeral.whole token.value.toList : Int) := by
  obtain ⟨filled, digits⟩ := digits_of_decimal decimal whole
  have read := Numeral.read_digits filled digits
  rw [String.ofList_toList] at read
  rw [magnitudeOf, read]
  by_cases long : Text.Integer.digitLimit < token.value.toList.length
  · rw [if_pos long, if_pos long]
  · rw [if_neg long, if_neg long]

def Readable (tokens : List Token) : Prop :=
  ∀ token ∈ tokens, IsInteger token →
    magnitudeOf token = .ok (Numeral.whole token.value.toList : Int)

def Legible (tokens : List Token) : Prop :=
  ∀ token, InDirective tokens token →
    magnitudeOf token = .ok (Numeral.whole token.value.toList : Int)

theorem Readable.append {tokens others : List Token} (readable : Readable tokens)
    (readable' : Readable others) : Readable (tokens ++ others) := by
  intro token member
  rcases List.mem_append.mp member with member | member
  · exact readable token member
  · exact readable' token member

theorem readable_nil : Readable [] := fun _ member => by cases member

theorem Readable.cons {token : Token} {tokens : List Token} (other : token.kind ≠ .number)
    (readable : Readable tokens) : Readable (token :: tokens) :=
  List.forall_mem_cons.mpr ⟨fun isInteger => absurd isInteger.1 other, readable⟩

theorem Readable.legible {tokens : List Token} (readable : Readable tokens) : Legible tokens := by
  intro token ⟨isInteger, before, hash, between, after, split, _⟩
  exact readable token (by simp [split]) isInteger

theorem magnitude_sound {stream : Stream} {value : Int} (scanned : Scanned stream.tokens)
    (isInteger : IsInteger stream.current) (read : magnitudeOf stream.current = .ok value) :
    value = Numeral.whole stream.current.value.toList ∧ Readable [stream.current] ∧
      stream.tokens = stream.current :: stream.advance.tokens ∧ Scanned stream.advance.tokens := by
  have found : value = Numeral.whole stream.current.value.toList := by
    rw [magnitudeOf_integer (scanned.decimal isInteger.1) isInteger.2] at read
    split at read
    · cases read
    · cases read
      rfl
  refine ⟨found, ?_, scanned.advance (by simp [isInteger.1])⟩
  intro token member _
  rw [List.mem_singleton.mp member, read, found]

theorem integer_sound : Reads integer fun tokens value => Integer tokens value ∧ Readable tokens := by
  intro stream value rest scanned read
  simp only [integer] at read
  by_cases negative : stream.current.kind = .minus
  · obtain ⟨front, scanned⟩ := scanned.advance (by simp [negative])
    simp only [negative, if_true] at read
    split at read
    · next isInteger =>
      simp only [bind_eq_ok_iff] at read
      obtain ⟨magnitude, found, finished⟩ := read
      obtain ⟨rfl, readable, back, remaining⟩ := magnitude_sound scanned isInteger found
      cases finished
      exact ⟨_, by rw [front, back]; rfl,
        ⟨.negative negative isInteger, readable.cons (by simp [negative])⟩, remaining⟩
    · cases read
  · simp only [negative, if_false] at read
    split at read
    · next isInteger =>
      simp only [bind_eq_ok_iff] at read
      obtain ⟨magnitude, found, finished⟩ := read
      obtain ⟨rfl, readable, front, remaining⟩ := magnitude_sound scanned isInteger found
      cases finished
      exact ⟨_, front, ⟨.positive isInteger, readable⟩, remaining⟩
    · cases read

theorem integerThenComma_sound :
    Reads integerThenComma fun tokens value => ∃ first comma,
      tokens = first ++ [comma] ∧ (Integer first value ∧ Readable first) ∧ comma.kind = .comma := by
  intro stream value rest scanned read
  simp only [integerThenComma, bind_eq_ok_iff, Prod.exists] at read
  obtain ⟨number, after, parsed, comma, last, separated, finished⟩ := read
  obtain ⟨first, front, shape, scanned⟩ := integer_sound scanned parsed
  obtain ⟨separates, back, scanned⟩ := expect_eq_ok (by decide) scanned separated
  cases finished
  exact ⟨_, by rw [front, back]; simp, ⟨first, comma, rfl, shape, separates⟩, scanned⟩

theorem arguments_sound (known : DirectiveName) :
    Reads (arguments known) fun tokens command => Arguments known tokens command ∧ Readable tokens := by
  intro stream command rest scanned read
  cases known with
  | frame =>
    simp only [arguments, bind_eq_ok_iff, Prod.exists] at read
    obtain ⟨x, _, first, y, _, second, width, _, third, height, _, fourth, finished⟩ := read
    obtain ⟨_, front, ⟨tokens, comma, rfl, ⟨shape, readable⟩, separates⟩, scanned⟩ :=
      integerThenComma_sound scanned first
    obtain ⟨_, next, ⟨tokens', comma', rfl, ⟨shape', readable'⟩, separates'⟩, scanned⟩ :=
      integerThenComma_sound scanned second
    obtain ⟨_, after, ⟨tokens'', comma'', rfl, ⟨shape'', readable''⟩, separates''⟩, scanned⟩ :=
      integerThenComma_sound scanned third
    obtain ⟨last, back, ⟨lastShape, lastReadable⟩, scanned⟩ := integer_sound scanned fourth
    cases finished
    refine ⟨_, ?_,
      ⟨.frame shape separates shape' separates' shape'' separates'' lastShape, ?_⟩, scanned⟩
    · rw [front, next, after, back]
      simp
    · have three : Readable (tokens'' ++ comma'' :: last) :=
        readable''.append (lastReadable.cons (by simp [separates'']))
      have two : Readable (tokens' ++ comma' :: (tokens'' ++ comma'' :: last)) :=
        readable'.append (three.cons (by simp [separates']))
      have one : Readable (tokens ++ comma :: (tokens' ++ comma' :: (tokens'' ++ comma'' :: last))) :=
        readable.append (two.cons (by simp [separates]))
      simpa using one
  | resolution =>
    simp only [arguments, bind_eq_ok_iff, Prod.exists] at read
    obtain ⟨width, _, first, height, _, second, finished⟩ := read
    obtain ⟨_, front, ⟨tokens, comma, rfl, ⟨shape, readable⟩, separates⟩, scanned⟩ :=
      integerThenComma_sound scanned first
    obtain ⟨last, back, ⟨lastShape, lastReadable⟩, scanned⟩ := integer_sound scanned second
    cases finished
    refine ⟨_, ?_, ⟨.resolution shape separates lastShape,
      readable.append (lastReadable.cons (by simp [separates]))⟩, scanned⟩
    rw [front, back]
    simp
  | output =>
    simp only [arguments, bind_eq_ok_iff, Prod.exists] at read
    obtain ⟨path, _, found, finished⟩ := read
    obtain ⟨kind, front, scanned⟩ := expect_eq_ok (by decide) scanned found
    cases finished
    exact ⟨[path], front, ⟨.output kind, readable_nil.cons (by simp [kind])⟩, scanned⟩
  | printNow =>
    cases read
    exact ⟨[], rfl, ⟨.printNow, readable_nil⟩, scanned⟩

theorem directive_sound {stream rest : Stream} {node : Node} (scanned : Scanned stream.tokens)
    (kind : stream.current.kind = .hash) (read : directive stream = .ok (node, rest)) :
    ∃ tokens, stream.tokens = tokens ++ rest.tokens ∧
      (Statement tokens node ∧ Legible tokens) ∧ Scanned rest.tokens := by
  obtain ⟨front, scanned⟩ := scanned.advance (by simp [kind])
  simp only [directive, bind_eq_ok_iff, Prod.exists] at read
  obtain ⟨name, _, named, read⟩ := read
  obtain ⟨isName, next, scanned⟩ := expect_eq_ok (by decide) scanned named
  split at read
  · cases read
  · next known word =>
    simp only [bind_eq_ok_iff, Prod.exists] at read
    obtain ⟨opening, _, opened, command, _, parsed, closing, _, closed, finished⟩ := read
    obtain ⟨opens, after, scanned⟩ := expect_eq_ok (by decide) scanned opened
    obtain ⟨tokens, middle, ⟨shape, inside⟩, scanned⟩ := arguments_sound known scanned parsed
    obtain ⟨closes, back, scanned⟩ := expect_eq_ok (by decide) scanned closed
    cases finished
    have body : Readable (tokens ++ [closing]) :=
      inside.append (readable_nil.cons (by simp [closes]))
    have readable : Readable (stream.current :: name :: opening :: (tokens ++ [closing])) :=
      ((body.cons (by simp [opens])).cons (by simp [isName])).cons (by simp [kind])
    refine ⟨_, ?_, ⟨.directive kind isName (directiveWord word) opens shape closes,
      readable.legible⟩, scanned⟩
    rw [front, next, after, middle, back]
    simp

def foreignKinds : List TokenKind := [.hash, .equals, .endOfLine, .endOfText]

theorem Derives.lacks {phrase : Phrase} {tokens : List Token} {node : Node}
    (derived : Derives phrase tokens node) {foreign : TokenKind} (listed : foreign ∈ foreignKinds) :
    ∀ token ∈ tokens, token.kind ≠ foreign := by
  have own : ∀ kind ∈ [TokenKind.number, .symbol, .leftParen, .rightParen, .comma, .function, .plus,
      .minus, .times, .divide], kind ≠ foreign := by
    simp only [foreignKinds, List.mem_cons, List.not_mem_nil, or_false] at listed
    rcases listed with rfl | rfl | rfl | rfl <;> decide
  have row : ∀ {signs : List (TokenKind × Operator)} {tokens : List Token} {links : List Link},
      (∀ sign ∈ signs, sign.1 ≠ foreign) →
      (∀ token ∈ tokens, token.kind ≠ foreign) →
      (∀ link ∈ links, (link.sign.kind, link.operator) ∈ signs) →
      (∀ link ∈ links, ∀ token ∈ link.tokens, token.kind ≠ foreign) →
      ∀ token ∈ tokens ++ links.flatMap Link.all, token.kind ≠ foreign := by
    intro signs tokens links other first signed inside token member
    rcases List.mem_append.mp member with member | member
    · exact first token member
    · obtain ⟨link, among, member⟩ := List.mem_flatMap.mp member
      rcases List.mem_cons.mp member with rfl | member
      · exact other _ (signed link among)
      · exact inside link among token member
  induction derived with
  | number kind => simp [kind, own]
  | symbol kind => simp [kind, own]
  | group opens _ closes ih => simpa [opens, closes, own, or_imp, forall_and] using ih
  | trig _ kind _ opens _ closes ih =>
    simpa [kind, opens, closes, own, or_imp, forall_and] using ih
  | power kind _ opens _ separates _ closes ih ih' =>
    simpa [kind, opens, separates, closes, own, or_imp, forall_and] using ⟨ih, ih'⟩
  | root kind _ opens _ separates _ closes ih ih' =>
    simpa [kind, opens, separates, closes, own, or_imp, forall_and] using ⟨ih, ih'⟩
  | alone _ ih => exact ih
  | beside _ _ ih ih' =>
    exact fun token member => (List.mem_append.mp member).elim (ih token) (ih' token)
  | product _ signed _ ih ih' => exact row (by simp [productSigns, own]) ih signed ih'
  | sum _ signed _ ih ih' => exact row (by simp [sumSigns, own]) ih signed ih'

theorem Derives.plain {phrase : Phrase} {tokens : List Token} {node : Node}
    (derived : Derives phrase tokens node) : ∀ token ∈ tokens, token.kind ≠ .hash :=
  derived.lacks (by decide)

theorem legible_of_plain {tokens : List Token} (plain : ∀ token ∈ tokens, token.kind ≠ .hash) :
    Legible tokens := by
  intro token ⟨_, before, hash, between, after, split, isHash, _⟩
  exact absurd isHash (plain hash (by simp [split]))

theorem equation_sound (bound : Nat) :
    Reads (equation bound) fun tokens node => Statement tokens node ∧ Legible tokens := by
  intro stream node rest scanned read
  simp only [equation, bind_eq_ok_iff, Prod.exists] at read
  obtain ⟨left, after, parsed, read⟩ := read
  obtain ⟨tokens, front, derived, scanned⟩ := term_sound bound scanned parsed
  split at read
  · next kind =>
    simp only [bind_eq_ok_iff, Prod.exists] at read
    obtain ⟨right, last, parsed', finished⟩ := read
    obtain ⟨middle, scanned⟩ := scanned.advance (by simp [kind])
    obtain ⟨others, back, derived', scanned⟩ := term_sound bound scanned parsed'
    cases finished
    refine ⟨_, ?_, ⟨.equation derived kind derived', legible_of_plain ?_⟩, scanned⟩
    · rw [front, middle, back]
      simp
    · simpa [kind, or_imp, forall_and] using ⟨derived.plain, derived'.plain⟩
  · cases read
    exact ⟨tokens, front, ⟨.term derived, legible_of_plain derived.plain⟩, scanned⟩

theorem statement_sound (bound : Nat) :
    Reads (statement bound) fun tokens node => Statement tokens node ∧ Legible tokens := by
  intro stream node rest scanned read
  unfold statement at read
  split at read
  · next kind => exact directive_sound scanned kind read
  · exact equation_sound bound scanned read

theorem Scanned.stops {stream : Stream} (scanned : Scanned stream.tokens)
    (last : stream.current.kind = .endOfText) : stream.tokens = [stream.current] := by
  obtain ⟨current, later⟩ := stream
  cases scanned with
  | stop _ => rfl
  | more before _ _ => exact absurd last before

theorem InDirective.of_lines {tokens rest : List Token} {line token : Token}
    (isEnd : line.kind = .endOfLine) (inside : InDirective (tokens ++ line :: rest) token) :
    InDirective tokens token ∨ InDirective rest token := by
  obtain ⟨isInteger, before, hash, between, after, split, isHash, inline⟩ := inside
  have notHash : hash ≠ line := fun same => by rw [same, isEnd] at isHash; cases isHash
  have notInteger : token ≠ line := by
    rintro rfl
    exact absurd isInteger.1 (by simp [isEnd])
  simp only [List.append_assoc, List.cons_append] at split
  rcases List.append_eq_append_iff.mp split with ⟨more, rfl, back⟩ | ⟨more, rfl, back⟩
  · cases more with
    | nil => exact absurd (List.cons.inj back).1.symm notHash
    | cons head more =>
      obtain ⟨rfl, rfl⟩ := List.cons.inj back
      exact .inr ⟨isInteger, more, hash, between, after, by simp, isHash, inline⟩
  · cases more with
    | nil => exact absurd (List.cons.inj back).1 notHash
    | cons head more =>
      rw [List.cons_append, List.cons.injEq] at back
      obtain ⟨rfl, body⟩ := back
      rcases List.append_eq_append_iff.mp body with ⟨rear, rfl, last⟩ | ⟨rear, rfl, last⟩
      · cases rear with
        | nil => exact absurd (List.cons.inj last).1 notInteger
        | cons other rear =>
          obtain ⟨rfl, rfl⟩ := List.cons.inj last
          exact .inl ⟨isInteger, before, hash, between, rear, by simp, isHash, inline⟩
      · cases rear with
        | nil => exact absurd (List.cons.inj last).1.symm notInteger
        | cons other rear =>
          obtain ⟨rfl, rfl⟩ := List.cons.inj last
          exact absurd isEnd (inline line (by simp))

theorem Legible.line {tokens rest : List Token} {line : Token} (isEnd : line.kind = .endOfLine)
    (legible : Legible tokens) (legible' : Legible rest) : Legible (tokens ++ line :: rest) :=
  fun token inside => (inside.of_lines isEnd).elim (legible token) (legible' token)

theorem statements_sound {bound : Nat} {stream : Stream} {nodes : List Node}
    (scanned : Scanned stream.tokens) (read : statements bound stream = .ok nodes) :
    Program stream.tokens nodes ∧ Legible stream.tokens := by
  induction bound generalizing stream nodes with
  | zero => cases read
  | succ bound ih =>
    unfold statements at read
    split at read
    · next last =>
      cases read
      rw [scanned.stops last]
      exact ⟨.stop last, legible_of_plain (by simp [last])⟩
    · next isEnd =>
      obtain ⟨front, remaining⟩ := scanned.advance (by simp [isEnd])
      have more : stream.later.isEmpty = false := by
        rw [Stream.tokens, List.cons.injEq] at front
        rw [front.2]
        rfl
      rw [if_neg (by simp [more])] at read
      obtain ⟨program, legible⟩ := ih remaining read
      have nothing : Legible [] := legible_of_plain (by simp)
      rw [front]
      exact ⟨.empty isEnd program, nothing.line isEnd legible⟩
    · simp only [bind_eq_ok_iff, Prod.exists] at read
      obtain ⟨node, after, parsed, token, last, ended, others, remaining, finished⟩ := read
      obtain ⟨tokens, front, ⟨shape, inside⟩, scanned⟩ := statement_sound bound scanned parsed
      obtain ⟨ends, back, scanned⟩ := expect_eq_ok (by decide) scanned ended
      obtain ⟨program, legible⟩ := ih scanned remaining
      cases finished
      rw [front, back]
      exact ⟨.line shape ends program, .line ends inside legible⟩

end Grammar

end PlotScript

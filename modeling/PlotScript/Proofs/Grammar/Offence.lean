import PlotScript.Proofs.Grammar.Refusal

/-!
Where an expression is given up. A reader fails at the first token that can not stand behind those
before it: they still go on to a whole phrase, and no phrase begins with them and the token. Whatever
stands behind that token is never looked at.
-/

namespace PlotScript

namespace Grammar

open Reader Outcome

def Spelled (token : Token) : Prop := ∃ chars, Lexis.Spells chars token.kind token.value

theorem Spelled.scanned {token : Token} (spelled : Spelled token) :
    token.kind ≠ .endOfText ∧
      (token.kind = .number → Lexis.IsDecimal token.value.toList) := by
  obtain ⟨chars, spells⟩ := spelled
  exact spells_scanned spells

/-- Tokens that can be spelled make a whole. -/
def Fillable (Whole : List Token → Prop) : Prop :=
  ∃ tokens, (∀ token ∈ tokens, Spelled token) ∧ Whole tokens

section

variable {β γ : Type}

/-- The tokens before go on to a whole, and the token behind them makes every reading with bounds over
their number fail in the same way. -/
structure Offends (Whole : List Token → Prop) (again : Nat → Nat → Stream → Except Failure β)
    (found : Diagnostic) (before : List Token) (token : Token) : Prop where
  place : found.span = some token.span
  completes : Fillable fun rest => Whole (before ++ rest)
  refuses : ∀ {depth length}, before.length < depth → before.length < length → ∀ later,
    again depth length ((⟨token, later⟩ : Stream).prepend before) = .error (.diagnostic found)

/-- Some token of the stream is the one that offends. -/
def Halted (Whole : List Token → Prop) (again : Nat → Nat → Stream → Except Failure β)
    (stream : Stream) (found : Diagnostic) : Prop :=
  ∃ before token later, stream.tokens = before ++ token :: later ∧
    Offends Whole again found before token

/-- The reader ends with a diagnostic at an offending token only. -/
def Halts (reader : Stream → Except Failure γ) (Whole : List Token → Prop)
    (again : Nat → Nat → Stream → Except Failure β) : Prop :=
  ∀ {stream found}, Scanned stream.tokens → reader stream = .error (.diagnostic found) →
    Halted Whole again stream found

variable {Whole Whole' : List Token → Prop} {again : Nat → Nat → Stream → Except Failure β}
  {again' : Nat → Nat → Stream → Except Failure γ} {stream rest : Stream} {found : Diagnostic}

theorem Halted.here (place : found.span = some stream.current.span)
    (completes : Fillable Whole)
    (refuses : ∀ {depth length}, 0 < depth → 0 < length → ∀ later,
      again depth length ⟨stream.current, later⟩ = .error (.diagnostic found)) :
    Halted Whole again stream found :=
  ⟨[], stream.current, stream.later, rfl, place, completes, refuses⟩

theorem current_prepend_of_split {before later : List Token} {token : Token}
    (split : stream.tokens = before ++ token :: later) (later' : List Token) :
    ((⟨token, later'⟩ : Stream).prepend before).current = stream.current := by
  cases before with
  | nil => exact (List.cons.inj split).1.symm
  | cons head before => exact (List.cons.inj split).1.symm

theorem Halted.behind (halted : Halted Whole again rest found) (part : List Token)
    (front : stream.tokens = part ++ rest.tokens)
    (completes : ∀ others, Whole others → Whole' (part ++ others))
    (refuses : ∀ {size depth length next}, part.length + size < depth → part.length + size < length →
      next.current = rest.current → (∀ depth length, size < depth → size < length →
        again depth length next = .error (.diagnostic found)) →
        again' depth length (next.prepend part) = .error (.diagnostic found)) :
    Halted Whole' again' stream found := by
  -- The tokens that are read first see no more of what follows than the next token, and that is the
  -- same in front of the offending one.
  obtain ⟨before, token, later, split, place, ⟨others, spelled, whole⟩, refuses'⟩ := halted
  have goes : Whole' (part ++ before ++ others) := by
    rw [List.append_assoc]
    exact completes _ whole
  refine ⟨part ++ before, token, later, by rw [front, split, List.append_assoc], place,
    ⟨others, spelled, goes⟩, ?_⟩
  intro depth length deep long later'
  rw [List.length_append] at deep long
  rw [Stream.prepend_append]
  exact refuses deep long (current_prepend_of_split split later') fun depth length deep long =>
    refuses' deep long later'

theorem Halted.extend (halted : Halted Whole again stream found)
    (completes : ∀ tokens, Whole tokens → Fillable fun more => Whole' (tokens ++ more)) :
    Halted Whole' again stream found := by
  obtain ⟨before, token, later, split, place, ⟨others, spelled, whole⟩, refuses⟩ := halted
  obtain ⟨more, spelled', whole'⟩ := completes _ whole
  have goes : Whole' (before ++ (others ++ more)) := by
    rw [← List.append_assoc]
    exact whole'
  exact ⟨before, token, later, split, place,
    ⟨others ++ more, List.forall_mem_append.mpr ⟨spelled, spelled'⟩, goes⟩, refuses⟩

theorem Halted.map (halted : Halted Whole again stream found)
    (completes : ∀ tokens, Whole tokens → Whole' tokens)
    (refuses : ∀ {size depth length next}, size < depth → size < length →
      next.current = stream.current → (∀ depth length, size < depth → size < length →
        again depth length next = .error (.diagnostic found)) →
        again' depth length next = .error (.diagnostic found)) :
    Halted Whole' again' stream found := by
  refine halted.behind [] rfl completes fun deep long same fails => ?_
  rw [List.length_nil, Nat.zero_add] at deep long
  exact refuses deep long same fails

end

section

variable {α β : Type} {outcome : Except Failure (α × Stream)}

theorem rest_eq_ok_iff {rest : Stream} :
    outcome.map Prod.snd = .ok rest ↔ ∃ value, outcome = .ok (value, rest) := by
  cases outcome with
  | error failure => simp [Except.map]
  | ok result =>
    obtain ⟨value, last⟩ := result
    simp [Except.map]

theorem rest_eq_error_iff {failure : Failure} :
    outcome.map Prod.snd = .error failure ↔ outcome = .error failure := by
  cases outcome with
  | error other => simp [Except.map]
  | ok result => simp [Except.map]

theorem rest_bind {next : α × Stream → Except Failure (β × Stream)}
    {step : Stream → Except Failure Stream}
    (same : ∀ value rest, (next (value, rest)).map Prod.snd = step rest) :
    (outcome >>= next).map Prod.snd = outcome.map Prod.snd >>= step := by
  cases outcome with
  | error failure => rfl
  | ok result => exact same result.1 result.2

end

def Phrase.Fits (phrase : Phrase) (tokens : List Token) : Prop := ∃ node, Derives phrase tokens node

def blankToken (kind : TokenKind) : Token := ⟨kind, "", "", 0, 0⟩

theorem spelled_sign {c : Char} {kind : TokenKind} (known : (c, kind) ∈ Lexis.signs) :
    Spelled (blankToken kind) :=
  ⟨[c], .sign known⟩

theorem Phrase.fills (phrase : Phrase) : Fillable phrase.Fits := by
  let letter : Token := ⟨.symbol, Char.toString 'x', "", 0, 0⟩
  have spelled : ∀ other ∈ [letter], Spelled other := by
    intro other member
    rw [List.mem_singleton.mp member]
    exact ⟨['x'], .letter (by decide)⟩
  have derived : Derives .operand [letter] (.symbol letter.value letter.span) := .symbol rfl
  have row := Derives.alone derived
  refine ⟨[letter], spelled, .symbol letter.value letter.span, ?_⟩
  cases phrase with
  | operand => exact derived
  | row => exact row
  | product => exact row.asProduct
  | sum => exact row.asProduct.asSum

theorem exists_digit : ∃ digit, Spelled digit ∧ IsInteger digit ∧ Readable [digit] := by
  let digit : Token := ⟨.number, "0", "", 0, 0⟩
  have isInteger : IsInteger digit := ⟨rfl, by decide⟩
  have zero : Lexeme.isDigit '0' := rfl
  have decimal : Lexis.IsDecimal digit.value.toList :=
    ⟨['0'], by simp, by simpa using zero, .inl (by decide)⟩
  have run : Lexis.NumeralRun ['0'] := ⟨'0', [], rfl, zero, by simp, by simp⟩
  refine ⟨digit, ⟨['0'], .number run (by decide) decimal⟩, isInteger, fun token member _ => ?_⟩
  rw [List.mem_singleton.mp member]
  exact magnitudeOf_short isInteger decimal (by decide)

/-- What stands at one place of a fixed sequence: a certain mark, an integer, or a sum. -/
inductive Item
  | mark (kind : TokenKind) (expected : Expected) (spelled : Spelled (blankToken kind))
  | integer
  | sum

namespace Item

def opening : Item := .mark .leftParen .leftParen (spelled_sign (by decide : ('(', _) ∈ _))

def closing : Item := .mark .rightParen .rightParen (spelled_sign (by decide : (')', _) ∈ _))

def comma : Item := .mark .comma .comma (spelled_sign (by decide : (',', _) ∈ _))

def read (bound : Nat) : Item → Stream → Except Failure Stream
  | mark kind expected _, stream => (expect kind expected stream).map Prod.snd
  | integer, stream => (Reader.integer stream).map Prod.snd
  | sum, stream => (term bound stream).map Prod.snd

def Fits : Item → List Token → Prop
  | mark kind _ _, tokens => ∃ token, tokens = [token] ∧ token.kind = kind
  | integer, tokens => ∃ value, Integer tokens value ∧ Readable tokens
  | sum, tokens => Phrase.sum.Fits tokens

def Stops : Item → TokenKind → Prop
  | sum, kind => Phrase.sum.Stops kind
  | _, _ => True

theorem read_sound {bound : Nat} {item : Item} {stream rest : Stream}
    (scanned : Scanned stream.tokens) (found : item.read bound stream = .ok rest) :
    ∃ part, stream.tokens = part ++ rest.tokens ∧ item.Fits part ∧ item.Stops rest.current.kind ∧
      Scanned rest.tokens := by
  cases item with
  | mark kind expected spelled =>
    obtain ⟨token, passed⟩ := rest_eq_ok_iff.mp found
    obtain ⟨same, front, scanned⟩ := expect_eq_ok spelled.scanned.1 scanned passed
    exact ⟨[token], front, ⟨token, rfl, same⟩, trivial, scanned⟩
  | integer =>
    obtain ⟨value, passed⟩ := rest_eq_ok_iff.mp found
    obtain ⟨part, front, shape, scanned⟩ := integer_sound scanned passed
    exact ⟨part, front, ⟨value, shape⟩, trivial, scanned⟩
  | sum =>
    obtain ⟨node, passed⟩ := rest_eq_ok_iff.mp found
    obtain ⟨part, front, derived, scanned⟩ := term_sound bound scanned passed
    exact ⟨part, front, ⟨node, derived⟩, term_leaves bound stream node rest passed, scanned⟩

theorem read_again {item : Item} {part : List Token} (fits : item.Fits part)
    (decimals : Decimals part) {bound : Nat} (small : part.length < bound) {rest : Stream}
    (stops : item.Stops rest.current.kind) : item.read bound (rest.prepend part) = .ok rest := by
  cases item with
  | mark kind expected _ =>
    obtain ⟨token, rfl, same⟩ := fits
    rw [read, expect_prepend same]
    rfl
  | integer =>
    obtain ⟨value, shape, readable⟩ := fits
    rw [read, integer_accepts shape readable rest trivial]
    rfl
  | sum =>
    obtain ⟨node, derived⟩ := fits
    rw [read, sum_accepts derived decimals small rest stops]
    rfl

theorem fills (item : Item) : Fillable item.Fits := by
  cases item with
  | mark kind expected spelled =>
    exact ⟨[blankToken kind], by simpa using spelled, blankToken kind, rfl, rfl⟩
  | integer =>
    obtain ⟨digit, spelled, isInteger, readable⟩ := exists_digit
    exact ⟨[digit], by simpa using spelled, _, .positive isInteger, readable⟩
  | sum => exact Phrase.sum.fills

end Item

def readItems (bound : Nat) : List Item → Stream → Except Failure Stream
  | [], stream => .ok stream
  | item :: items, stream => item.read bound stream >>= readItems bound items

def FitItems : List Item → List Token → Prop
  | [], tokens => tokens = []
  | item :: items, tokens => ∃ part rest, tokens = part ++ rest ∧ item.Fits part ∧ FitItems items rest

theorem readItems_append (bound : Nat) (items others : List Item) (stream : Stream) :
    readItems bound (items ++ others) stream =
      readItems bound items stream >>= readItems bound others := by
  induction items generalizing stream with
  | nil => rfl
  | cons item items ih =>
    rw [List.cons_append, readItems, readItems, bind_assoc]
    exact congrArg _ (funext ih)

theorem FitItems.of_append {items others : List Item} {tokens : List Token}
    (fits : FitItems (items ++ others) tokens) :
    ∃ front back, tokens = front ++ back ∧ FitItems items front ∧ FitItems others back := by
  induction items generalizing tokens with
  | nil => exact ⟨[], tokens, rfl, rfl, fits⟩
  | cons item items ih =>
    obtain ⟨part, _, rfl, head, fits⟩ := fits
    obtain ⟨front, back, rfl, tail, fits⟩ := ih fits
    exact ⟨part ++ front, back, by simp, ⟨part, front, rfl, head, tail⟩, fits⟩

theorem items_fill (items : List Item) : Fillable (FitItems items) := by
  induction items with
  | nil => exact ⟨[], by simp, rfl⟩
  | cons item items ih =>
    obtain ⟨part, spelled, fits⟩ := item.fills
    obtain ⟨rest, spelled', fits'⟩ := ih
    exact ⟨part ++ rest, List.forall_mem_append.mpr ⟨spelled, spelled'⟩, part, rest, rfl, fits, fits'⟩

theorem magnitude_halts (negative : Bool) :
    Halts (magnitude negative) (fun tokens => ∃ token, tokens = [token] ∧ IsInteger token ∧
      Readable tokens) fun _ _ => magnitude negative := by
  intro stream found _ failed
  rw [magnitude] at failed
  split at failed
  · rcases bind_eq_error_iff.mp failed with failed | ⟨magnitude, _, finished⟩
    · obtain ⟨fault, same⟩ := magnitudeOf_fault failed
      cases same
    · cases finished
  · next other =>
    cases failed
    obtain ⟨digit, spelled, isInteger, readable⟩ := exists_digit
    refine .here rfl ⟨[digit], by simpa using spelled, digit, rfl, isInteger, readable⟩ ?_
    intro _ _ _ _ later
    rw [magnitude, if_neg other]
    rfl

theorem integer_halts : Halts integer Item.integer.Fits fun _ _ => integer := by
  intro stream found scanned failed
  rw [integer_eq] at failed
  split at failed
  · next negative =>
    obtain ⟨front, scanned⟩ := scanned.advance (by simp [negative])
    refine (magnitude_halts true scanned failed).behind [stream.current] front ?_ ?_
    · rintro _ ⟨token, rfl, isInteger, readable⟩
      exact ⟨_, .negative negative isInteger, readable.cons (by simp [negative])⟩
    · intro size depth length next deep long _ fails
      rw [List.length_singleton] at deep long
      rw [integer_eq, Stream.current_prepend, if_pos negative]
      exact fails depth length (by omega) (by omega)
  · next positive =>
    refine (magnitude_halts false scanned failed).map ?_ fun deep long same fails => ?_
    · rintro _ ⟨token, rfl, isInteger, readable⟩
      exact ⟨_, .positive isInteger, readable⟩
    · rw [integer_eq, same, if_neg positive]
      exact fails _ _ deep long

section

variable {bound : Nat} (terms : Halts (term bound) Phrase.sum.Fits (readerOf .sum))

include terms

theorem Item.halts (item : Item) :
    Halts (item.read bound) item.Fits fun depth _ => item.read (depth + 1) := by
  intro stream found scanned failed
  cases item with
  | mark kind expected spelled =>
    have failed := rest_eq_error_iff.mp failed
    rw [expect] at failed
    split at failed
    · cases failed
    · next other =>
      cases failed
      refine .here rfl (Item.mark kind expected spelled).fills fun _ _ later => ?_
      rw [read, expect, if_neg other]
      rfl
  | integer =>
    refine (integer_halts scanned (rest_eq_error_iff.mp failed)).map (fun _ fits => fits) ?_
    exact fun deep long _ fails => rest_eq_error_iff.mpr (fails _ _ deep long)
  | sum =>
    refine (terms scanned (rest_eq_error_iff.mp failed)).map (fun _ fits => fits) ?_
    exact fun deep _ _ fails => rest_eq_error_iff.mpr (fails _ _ deep deep)

theorem items_halt (items : List Item) :
    Halts (readItems bound items) (FitItems items) fun depth _ => readItems (depth + 1) items := by
  induction items with
  | nil =>
    intro stream found _ failed
    cases failed
  | cons item items ih =>
    intro stream found scanned failed
    rcases bind_eq_error_iff.mp failed with failed | ⟨rest, passed, failed⟩
    · obtain ⟨others, spelled, fits'⟩ := items_fill items
      refine ((item.halts terms scanned failed).extend fun part fits => ?_).map (fun _ fits => fits) ?_
      · exact ⟨others, spelled, part, others, rfl, fits, fits'⟩
      · intro size depth length next deep long _ fails
        rw [readItems, fails _ _ deep long]
        rfl
    · obtain ⟨part, front, fits, stops, remaining⟩ := item.read_sound scanned passed
      have decimals := scanned.decimals_front front
      refine (ih remaining failed).behind part front ?_ ?_
      · exact fun others fits' => ⟨part, others, rfl, fits, fits'⟩
      · intro size depth length next deep long same fails
        have passes : item.read (depth + 1) (next.prepend part) = .ok next :=
          item.read_again fits decimals (by omega) (same ▸ stops)
        rw [readItems, passes]
        exact fails depth length (by omega) (by omega)

end

end Grammar

end PlotScript

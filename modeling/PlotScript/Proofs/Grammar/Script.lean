import PlotScript.Proofs.Grammar.Complete
import PlotScript.Proofs.Lexis.Place

namespace PlotScript

namespace Stream

theorem tokens_prepend (tokens : List Token) (rest : Stream) :
    (rest.prepend tokens).tokens = tokens ++ rest.tokens := by
  cases tokens with
  | nil => rfl
  | cons token tokens =>
    have later := tokens_prepend tokens rest
    rw [prepend, Stream.tokens, later, List.cons_append]

theorem eq_prepend {stream rest : Stream} {tokens : List Token}
    (split : stream.tokens = tokens ++ rest.tokens) : stream = rest.prepend tokens := by
  rw [← tokens_prepend] at split
  obtain ⟨current, later⟩ := stream
  rw [Stream.tokens, Stream.tokens, List.cons.injEq] at split
  obtain ⟨rfl, rfl⟩ := split
  rfl

end Stream

namespace Grammar

open Reader Outcome

def Anything (_ : TokenKind) : Prop := True

theorem magnitudeOf_short {token : Token} (isInteger : IsInteger token)
    (decimal : Lexis.IsDecimal token.value.toList)
    (short : token.value.length ≤ Text.Integer.digitLimit) :
    magnitudeOf token = .ok (Numeral.whole token.value.toList : Int) := by
  rw [magnitudeOf_integer decimal isInteger.2, String.length_toList, if_neg (Nat.not_lt.mpr short)]

theorem integer_accepts {tokens : List Token} {value : Int} (shape : Integer tokens value)
    (readable : Readable tokens) : Accepts integer Anything tokens value := by
  intro rest _
  cases shape with
  | @positive token isInteger =>
    have found := readable token List.mem_cons_self isInteger
    have plain : token.kind ≠ .minus := by rw [isInteger.1]; decide
    simp only [integer, Stream.current_prepend, plain, if_false]
    rw [if_pos ⟨isInteger.1, isInteger.2⟩, found]
    rfl
  | @negative sign token isMinus isInteger =>
    have found := readable token (List.mem_cons_of_mem sign List.mem_cons_self) isInteger
    simp only [integer, Stream.current_prepend, isMinus, if_true, Stream.advance_prepend]
    rw [if_pos ⟨isInteger.1, isInteger.2⟩, found]
    rfl

theorem Readable.mono {tokens others : List Token} (readable : Readable tokens)
    (within : ∀ token ∈ others, token ∈ tokens) : Readable others :=
  fun token member => readable token (within token member)

theorem integerThenComma_accepts {tokens : List Token} {comma : Token} {value : Int}
    (inside : Accepts integer Anything tokens value) (separates : comma.kind = .comma) :
    Accepts integerThenComma Anything (tokens ++ [comma]) value := by
  intro rest _
  have body := inside (rest.prepend [comma]) trivial
  simp only [integerThenComma, Stream.prepend_append, body, ok_bind, expect_prepend separates]
  rfl

theorem arguments_accepts {known : DirectiveName} {tokens : List Token} {command : Directive}
    (shape : Arguments known tokens command) (readable : Readable tokens) :
    Accepts (arguments known) Anything tokens command := by
  intro rest _
  cases shape with
  | @frame first second third fourth comma comma' comma'' x y width height shape separates shape'
      separates' shape'' separates'' last =>
    have one := integerThenComma_accepts
      (integer_accepts shape (readable.mono (by simp +contextual))) separates
    have two := integerThenComma_accepts
      (integer_accepts shape' (readable.mono (by simp +contextual))) separates'
    have three := integerThenComma_accepts
      (integer_accepts shape'' (readable.mono (by simp +contextual))) separates''
    have four := integer_accepts last (readable.mono (by simp +contextual))
    have split : first ++ comma :: second ++ comma' :: third ++ comma'' :: fourth =
        (first ++ [comma]) ++ ((second ++ [comma']) ++ ((third ++ [comma'']) ++ fourth)) := by simp
    rw [split, Stream.prepend_append (first ++ [comma]), Stream.prepend_append (second ++ [comma']),
      Stream.prepend_append (third ++ [comma''])]
    simp only [arguments, one _ trivial, two _ trivial, three _ trivial, four _ trivial, ok_bind]
    rfl
  | @resolution first second comma width height shape separates last =>
    have one := integerThenComma_accepts
      (integer_accepts shape (readable.mono (by simp +contextual))) separates
    have two := integer_accepts last (readable.mono (by simp +contextual))
    have split : first ++ comma :: second = (first ++ [comma]) ++ second := by simp
    rw [split, Stream.prepend_append (first ++ [comma])]
    simp only [arguments, one _ trivial, two _ trivial, ok_bind]
    rfl
  | output kind =>
    simp only [arguments, expect_prepend kind, ok_bind]
    rfl
  | printNow => rfl

theorem directive_accepts (hash : Token) {name opening closing : Token} {known : DirectiveName}
    {tokens : List Token} {command : Directive} (kind : name.kind = .directive)
    (word : name.value = known.word) (opens : opening.kind = .leftParen)
    (inside : Accepts (arguments known) Anything tokens command)
    (closes : closing.kind = .rightParen) :
    Accepts directive Anything (hash :: name :: opening :: tokens ++ [closing])
      (.directive command (hash.span.hull closing.span)) := by
  intro rest _
  have body := inside (rest.prepend [closing]) trivial
  simp only [directive, List.cons_append, Stream.current_prepend, Stream.advance_prepend,
    expect_prepend kind, ok_bind, word, ofWord?_directive, expect_prepend opens,
    Stream.prepend_append, body, expect_prepend closes]
  rfl

theorem Integer.inline {tokens : List Token} {value : Int} (shape : Integer tokens value) :
    ∀ token ∈ tokens, token.kind ≠ .endOfLine := by
  intro token member
  cases shape with
  | positive isInteger =>
    rw [List.mem_singleton.mp member, isInteger.1]
    decide
  | negative isMinus isInteger =>
    rcases List.mem_cons.mp member with rfl | member
    · rw [isMinus]
      decide
    · rw [List.mem_singleton.mp member, isInteger.1]
      decide

theorem Arguments.inline {known : DirectiveName} {tokens : List Token} {command : Directive}
    (shape : Arguments known tokens command) : ∀ token ∈ tokens, token.kind ≠ .endOfLine := by
  intro token member
  cases shape with
  | frame first separates second separates' third separates'' fourth =>
    simp only [List.mem_append, List.mem_cons] at member
    rcases member with ((inside | rfl | inside) | rfl | inside) | rfl | inside
    · exact first.inline token inside
    · rw [separates]; decide
    · exact second.inline token inside
    · rw [separates']; decide
    · exact third.inline token inside
    · rw [separates'']; decide
    · exact fourth.inline token inside
  | resolution first separates second =>
    simp only [List.mem_append, List.mem_cons] at member
    rcases member with inside | rfl | inside
    · exact first.inline token inside
    · rw [separates]; decide
    · exact second.inline token inside
  | output kind =>
    rw [List.mem_singleton.mp member, kind]
    decide
  | printNow => cases member

theorem Arguments.inDirective {known : DirectiveName} {tokens : List Token} {command : Directive}
    (shape : Arguments known tokens command) {hash name opening closing : Token}
    (isHash : hash.kind = .hash) (kind : name.kind = .directive) (opens : opening.kind = .leftParen)
    {token : Token} (member : token ∈ tokens) (isInteger : IsInteger token) :
    InDirective (hash :: name :: opening :: tokens ++ [closing]) token := by
  obtain ⟨before, after, rfl⟩ := List.append_of_mem member
  refine ⟨isInteger, [], hash, name :: opening :: before, after ++ [closing], by simp, isHash, ?_⟩
  intro other between
  simp only [List.mem_cons] at between
  rcases between with rfl | rfl | within
  · rw [kind]; decide
  · rw [opens]; decide
  · exact shape.inline other (List.mem_append_left _ within)

theorem sum_accepts {tokens : List Token} {node : Node} (derived : Derives .sum tokens node)
    (decimals : Decimals tokens) {bound : Nat} (small : tokens.length < bound) :
    Accepts (term bound) Phrase.sum.Stops tokens node :=
  term_accepts (reader_accepts derived decimals) small

theorem statement_term {phrase : Phrase} {tokens : List Token} {node : Node} {bound : Nat}
    (derived : Derives phrase tokens node) {more : List Token} {rest : Stream} :
    statement bound (rest.prepend (tokens ++ more)) =
      equation bound (rest.prepend (tokens ++ more)) := by
  obtain ⟨first, others, rfl, starts⟩ := derived.front
  have plain : first.kind ≠ .hash := by
    intro same
    rw [same] at starts
    cases starts
  rw [statement, List.cons_append, Stream.current_prepend, if_neg plain]

theorem statement_accepts {tokens : List Token} {node : Node} (shape : Statement tokens node)
    (decimals : Decimals tokens)
    (short : ∀ token, InDirective tokens token → token.value.length ≤ Text.Integer.digitLimit)
    {bound : Nat} (small : tokens.length < bound) :
    Accepts (statement bound) (· = .endOfLine) tokens node := by
  intro rest (ends : rest.current.kind = .endOfLine)
  cases shape with
  | @directive hash name opening closing known tokens command isHash kind word opens shape closes =>
    have readable : Readable tokens := fun token member isInteger =>
      magnitudeOf_short isInteger (decimals token (by simp [member]) isInteger.1)
        (short token (shape.inDirective isHash kind opens member isInteger))
    have inside := arguments_accepts shape readable
    have read := directive_accepts hash kind word opens inside closes rest trivial
    rw [statement, List.cons_append, Stream.current_prepend, if_pos isHash]
    exact read
  | @equation tokens others sign left right derived isEquals derived' =>
    simp only [List.length_append, List.length_cons] at small
    have stops : Phrase.sum.Stops sign.kind := sum_stops (by simp [isEquals])
    have stops' : Phrase.sum.Stops rest.current.kind := ends ▸ sum_stops (by simp)
    have body := sum_accepts derived (decimals.mono (by simp +contextual))
      (by omega : tokens.length < bound) (rest.prepend (sign :: others)) stops
    have body' := sum_accepts derived' (decimals.mono (by simp +contextual))
      (by omega : others.length < bound) rest stops'
    rw [statement_term derived]
    simp only [equation, Stream.prepend_append, body, ok_bind, Stream.current_prepend, isEquals,
      if_true, Stream.advance_prepend, body']
    rfl
  | term derived =>
    have stops : Phrase.sum.Stops rest.current.kind := ends ▸ sum_stops (by simp)
    have body := sum_accepts derived decimals small rest stops
    have split := List.append_nil tokens
    rw [← split, statement_term derived, split]
    simp only [equation, body, ok_bind, ends]
    rfl

theorem Statement.front {tokens : List Token} {node : Node} (shape : Statement tokens node) :
    ∃ first rest, tokens = first :: rest ∧ first.kind ≠ .endOfText ∧ first.kind ≠ .endOfLine := by
  have operand : ∀ {kind : TokenKind}, kind.startsOperand = true →
      kind ≠ .endOfText ∧ kind ≠ .endOfLine := by
    intro kind starts
    constructor <;> intro same <;> rw [same] at starts <;> cases starts
  cases shape with
  | directive isHash _ _ _ _ _ => exact ⟨_, _, rfl, by rw [isHash]; decide, by rw [isHash]; decide⟩
  | equation derived _ _ =>
    obtain ⟨first, rest, rfl, starts⟩ := derived.front
    exact ⟨first, _, rfl, operand starts⟩
  | term derived =>
    obtain ⟨first, rest, rfl, starts⟩ := derived.front
    exact ⟨first, _, rfl, operand starts⟩

theorem InDirective.behind {tokens : List Token} {token : Token} (inside : InDirective tokens token)
    (front : List Token) : InDirective (front ++ tokens) token := by
  obtain ⟨isInteger, before, hash, between, after, split, rest⟩ := inside
  exact ⟨isInteger, front ++ before, hash, between, after, by rw [split]; simp, rest⟩

theorem InDirective.before {tokens : List Token} {token : Token} (inside : InDirective tokens token)
    (back : List Token) : InDirective (tokens ++ back) token := by
  obtain ⟨isInteger, before, hash, between, after, split, rest⟩ := inside
  exact ⟨isInteger, before, hash, between, after ++ back, by rw [split]; simp, rest⟩

theorem Program.front {tokens : List Token} {nodes : List Node} (program : Program tokens nodes) :
    ∃ stream : Stream, tokens = stream.tokens := by
  cases program with
  | stop _ => exact ⟨⟨_, []⟩, rfl⟩
  | empty _ _ => exact ⟨⟨_, _⟩, rfl⟩
  | line shape _ _ =>
    obtain ⟨first, rest, rfl, _⟩ := shape.front
    exact ⟨⟨first, _⟩, rfl⟩

theorem Program.statement_of_mem {tokens : List Token} {nodes : List Node}
    (program : Program tokens nodes) {node : Node} (member : node ∈ nodes) :
    ∃ before part after, tokens = before ++ (part ++ after) ∧ Statement part node := by
  induction program with
  | stop _ => cases member
  | @empty token _ _ _ _ ih =>
    obtain ⟨before, part, after, rfl, shape⟩ := ih member
    exact ⟨token :: before, part, after, rfl, shape⟩
  | @line tokens rest token _ _ shape _ _ ih =>
    rcases List.mem_cons.mp member with rfl | member
    · exact ⟨[], tokens, token :: rest, rfl, shape⟩
    · obtain ⟨before, part, after, rfl, shape⟩ := ih member
      exact ⟨tokens ++ token :: before, part, after, by simp, shape⟩

theorem statements_accept {stream : Stream} {nodes : List Node}
    (program : Program stream.tokens nodes) (decimals : Decimals stream.tokens)
    (short : ∀ token, InDirective stream.tokens token →
      token.value.length ≤ Text.Integer.digitLimit) {bound : Nat}
    (enough : stream.tokens.length < bound) : statements bound stream = .ok nodes := by
  generalize same : stream.tokens = tokens at program decimals short enough
  induction program generalizing stream bound with
  | stop last =>
    obtain ⟨bound, rfl⟩ := Nat.exists_eq_add_one_of_ne_zero (Nat.ne_of_gt (Nat.zero_lt_of_lt enough))
    obtain ⟨current, later⟩ := stream
    cases same
    rw [statements, last]
  | @empty token rest nodes isEnd program ih =>
    obtain ⟨bound, rfl⟩ := Nat.exists_eq_add_one_of_ne_zero (Nat.ne_of_gt (Nat.zero_lt_of_lt enough))
    obtain ⟨after, rfl⟩ := program.front
    have split : stream = after.prepend [token] := Stream.eq_prepend same
    have remaining := ih rfl (decimals.mono (by simp +contextual))
      (fun other inside => short other (inside.behind [token])) (Nat.lt_of_succ_lt_succ enough)
    subst split
    rw [statements, Stream.current_prepend, isEnd]
    exact remaining
  | @line tokens rest token node nodes shape isEnd program ih =>
    obtain ⟨bound, rfl⟩ := Nat.exists_eq_add_one_of_ne_zero (Nat.ne_of_gt (Nat.zero_lt_of_lt enough))
    simp only [List.length_append, List.length_cons] at enough
    obtain ⟨after, rfl⟩ := program.front
    have split : stream = (after.prepend [token]).prepend tokens := by
      apply Stream.eq_prepend
      rw [same, Stream.tokens_prepend]
      rfl
    have read := statement_accepts shape (decimals.mono (by simp +contextual))
      (fun other inside => short other (inside.before (token :: after.tokens)))
      (by omega : tokens.length < bound) (after.prepend [token]) isEnd
    have remaining := ih rfl (decimals.mono (by simp +contextual))
      (fun other inside => short other (by simpa using inside.behind (tokens ++ [token])))
      (by omega : after.tokens.length < bound)
    obtain ⟨first, others, rfl, notText, notLine⟩ := shape.front
    subst split
    rw [statements]
    split
    · next isText => exact absurd isText notText
    · next isLine => exact absurd isLine notLine
    · simp only [read, ok_bind, expect_prepend isEnd, Stream.prepend_nil, remaining]
      rfl

theorem spells_scanned {chars : List Char} {kind : TokenKind} {value : String}
    (spelled : Lexis.Spells chars kind value) :
    kind ≠ .endOfText ∧ (kind = .number → Lexis.IsDecimal value.toList) := by
  cases spelled with
  | @sign c _ known =>
    have plain : ∀ pair ∈ Lexis.signs, pair.2 ≠ .endOfText ∧ pair.2 ≠ .number := by decide
    exact ⟨(plain _ known).1, fun same => absurd same (plain _ known).2⟩
  | number _ _ decimal => exact ⟨by decide, fun _ => decimal⟩
  | _ => exact ⟨by decide, fun same => by cases same⟩

theorem Scanned.append {tokens rest : List Token}
    (body : ∀ token ∈ tokens, token.kind ≠ .endOfText ∧
      (token.kind = .number → Lexis.IsDecimal token.value.toList)) (scanned : Scanned rest) :
    Scanned (tokens ++ rest) := by
  induction tokens with
  | nil => exact scanned
  | cons token tokens ih =>
    have head := body token List.mem_cons_self
    exact .more head.1 head.2 (ih fun other member => body other (List.mem_cons_of_mem token member))

theorem scanned_of_scan {source text : String} {tokens : List Token}
    (scan : Token.scan source text = .ok tokens) : Scanned tokens := by
  obtain ⟨pieces, decomposed, rfl⟩ := Lexis.tokens_of_scan scan
  have laid := Lexis.laid_tokensFrom decomposed source 0
  have closing : Scanned (Token.closing source text.length) :=
    .more (fun same => by cases same) (fun same => by cases same) (.stop rfl)
  refine Scanned.append (fun token member => ?_) closing
  obtain ⟨before, spelling, after, _, _, _, spelled⟩ := laid.stands token member
  exact spells_scanned spelled

theorem Scanned.decimals {tokens : List Token} (scanned : Scanned tokens) : Decimals tokens := by
  induction scanned with
  | stop last =>
    intro token member kind
    rw [List.mem_singleton.mp member, last] at kind
    cases kind
  | more _ decimal _ ih => exact List.forall_mem_cons.mpr ⟨decimal, ih⟩

theorem Scanned.decimals_front {tokens part rest : List Token} (scanned : Scanned tokens)
    (front : tokens = part ++ rest) : Decimals part :=
  scanned.decimals.mono (by simp +contextual [front])

theorem Scanned.stream {tokens : List Token} (scanned : Scanned tokens) :
    ∃ stream : Stream, tokens = stream.tokens ∧
      Node.ofTokens tokens = statements stream.bound stream := by
  cases scanned with
  | stop _ => exact ⟨⟨_, []⟩, rfl, rfl⟩
  | more _ _ _ => exact ⟨⟨_, _⟩, rfl, rfl⟩

theorem Scanned.program {tokens : List Token} {nodes : List Node} (scanned : Scanned tokens)
    (read : Node.ofTokens tokens = .ok nodes) : Program tokens nodes ∧ Legible tokens := by
  obtain ⟨stream, rfl, reading⟩ := scanned.stream
  rw [reading] at read
  exact statements_sound scanned read

theorem ofScript_eq_ok_iff {source text : String} {nodes : List Node} :
    Node.ofScript source text = .ok nodes ↔
      ∃ tokens, Token.scan source text = .ok tokens ∧ Node.ofTokens tokens = .ok nodes := by
  rw [Node.ofScript]
  cases Token.scan source text <;> simp

theorem Derives.unique {phrase : Phrase} {tokens others : List Token} {node other : Node}
    (derived : Derives phrase tokens node) (derived' : Derives phrase others other)
    (decimals : Decimals tokens) (decimals' : Decimals others) (rest rest' : Stream)
    (stops : phrase.Stops rest.current.kind) (stops' : phrase.Stops rest'.current.kind)
    (same : tokens ++ rest.tokens = others ++ rest'.tokens) : tokens = others ∧ node = other := by
  let bound := max tokens.length others.length
  have read := reader_accepts derived decimals (Nat.le_max_left _ _ : _ ≤ bound)
    (Nat.le_max_left _ _ : _ ≤ bound) rest stops
  have read' := reader_accepts derived' decimals' (Nat.le_max_right _ _ : _ ≤ bound)
    (Nat.le_max_right _ _ : _ ≤ bound) rest' stops'
  have start : rest.prepend tokens = rest'.prepend others := by
    apply Stream.eq_prepend
    rw [Stream.tokens_prepend, same]
  rw [start, read', Except.ok.injEq, Prod.mk.injEq] at read
  obtain ⟨rfl, rfl⟩ := read
  exact ⟨List.append_cancel_right same, rfl⟩

/-- The tokens of a scan are read as statements just when they are a program, unless an integer of a
directive is too long, and then as the only trees of it. At every place in a script a phrase that can
not go on has one extent and one tree. -/
theorem ofTokens_eq_ok_iff_program {source text : String} {tokens : List Token}
    (scan : Token.scan source text = .ok tokens) :
    (∀ nodes, Node.ofTokens tokens = .ok nodes → Program tokens nodes) ∧
    ((∀ token, InDirective tokens token → token.value.length ≤ Text.Integer.digitLimit) →
      (∀ nodes, Node.ofTokens tokens = .ok nodes ↔ Program tokens nodes) ∧
      ∀ nodes others, Program tokens nodes → Program tokens others → nodes = others) ∧
    ∀ phrase before part other next next' after after' node node',
      tokens = before ++ (part ++ next :: after) → tokens = before ++ (other ++ next' :: after') →
      Derives phrase part node → Derives phrase other node' →
      phrase.Stops next.kind → phrase.Stops next'.kind → part = other ∧ node = node' := by
  have scanned := scanned_of_scan scan
  have decimals := scanned.decimals
  obtain ⟨stream, rfl, reading⟩ := scanned.stream
  have sound : ∀ nodes, Node.ofTokens stream.tokens = .ok nodes → Program stream.tokens nodes := by
    intro nodes read
    rw [reading] at read
    exact (statements_sound scanned read).1
  refine ⟨sound, fun short => ?_, ?_⟩
  · have complete : ∀ nodes, Program stream.tokens nodes →
        Node.ofTokens stream.tokens = .ok nodes := by
      intro nodes program
      rw [reading]
      refine statements_accept program decimals short ?_
      rw [Stream.bound, Stream.length, Stream.tokens, List.length_cons]
      omega
    refine ⟨fun nodes => ⟨sound nodes, complete nodes⟩, ?_⟩
    intro nodes others program too
    have read := complete nodes program
    rw [complete others too, Except.ok.injEq] at read
    exact read.symm
  · intro phrase before part other next next' after after' node node' split split' derived derived'
      stops stops'
    have whole : part ++ next :: after = other ++ next' :: after' :=
      List.append_cancel_left (split.symm.trans split')
    have partDecimals : Decimals part := decimals.mono (by rw [split]; simp +contextual)
    have otherDecimals : Decimals other := decimals.mono (by rw [split']; simp +contextual)
    exact derived.unique derived' partDecimals otherDecimals ⟨next, after⟩ ⟨next', after'⟩ stops
      stops' whole

theorem ofTokens_resolution : ∃ tokens, Token.scan "curve" "#resolution(2,1)" = .ok tokens ∧
    ∀ nodes, Program tokens nodes ↔
      nodes = [.directive (.resolution 2 1) (some ⟨"curve", 0, 16⟩)] := by
  let tokens : List Token := [⟨.hash, "", "curve", 0, 1⟩, ⟨.directive, "resolution", "curve", 1, 11⟩,
    ⟨.leftParen, "", "curve", 11, 12⟩, ⟨.number, "2", "curve", 12, 13⟩, ⟨.comma, "", "curve", 13, 14⟩,
    ⟨.number, "1", "curve", 14, 15⟩, ⟨.rightParen, "", "curve", 15, 16⟩,
    ⟨.endOfLine, "", "curve", 16, 16⟩, ⟨.endOfText, "", "curve", 16, 16⟩]
  have scan : Token.scan "curve" "#resolution(2,1)" = .ok tokens := by decide +kernel
  have small : ∀ token ∈ tokens, token.value.length ≤ Text.Integer.digitLimit := by decide +kernel
  have short : ∀ token, InDirective tokens token →
      token.value.length ≤ Text.Integer.digitLimit := by
    intro token ⟨_, before, hash, between, after, split, _⟩
    exact small token (by rw [split]; simp)
  have read : Node.ofTokens tokens =
      .ok [.directive (.resolution 2 1) (some ⟨"curve", 0, 16⟩)] := rfl
  refine ⟨tokens, scan, fun nodes => ?_⟩
  rw [← ((ofTokens_eq_ok_iff_program scan).2.1 short).1 nodes, read, Except.ok.injEq]
  exact eq_comm

end Grammar

end PlotScript

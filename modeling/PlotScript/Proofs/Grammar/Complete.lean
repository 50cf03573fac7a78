import PlotScript.Proofs.Grammar.Sound

namespace PlotScript

def Stream.prepend (tokens : List Token) (rest : Stream) : Stream :=
  match tokens with
  | [] => rest
  | token :: tokens => ⟨token, (rest.prepend tokens).tokens⟩

namespace Stream

@[simp] theorem prepend_nil (rest : Stream) : rest.prepend [] = rest := rfl

@[simp] theorem current_prepend (token : Token) (tokens : List Token) (rest : Stream) :
    (rest.prepend (token :: tokens)).current = token := rfl

@[simp] theorem advance_prepend (token : Token) (tokens : List Token) (rest : Stream) :
    (rest.prepend (token :: tokens)).advance = rest.prepend tokens := rfl

theorem prepend_append (tokens others : List Token) (rest : Stream) :
    rest.prepend (tokens ++ others) = (rest.prepend others).prepend tokens := by
  induction tokens with
  | nil => rfl
  | cons token tokens ih => rw [List.cons_append, prepend, ih, prepend]

end Stream

namespace Grammar

open Reader Outcome

/-- The kinds that do not go on with a phrase. -/
def Phrase.Stops : Phrase → TokenKind → Prop
  | .operand, _ => True
  | .row, kind => kind.startsOperand = false
  | .product, kind => kind.startsOperand = false ∧ productOperator? kind = none
  | .sum, kind =>
    (kind.startsOperand = false ∧ productOperator? kind = none) ∧ sumOperator? kind = none

/-- The reader reads the tokens as the value, whatever follows them that stops it. -/
def Accepts {α : Type} (reader : Reader α) (Stops : TokenKind → Prop) (tokens : List Token)
    (value : α) : Prop :=
  ∀ rest : Stream, Stops rest.current.kind → reader (rest.prepend tokens) = .ok (value, rest)

theorem expect_prepend {kind : TokenKind} {token : Token} (found : token.kind = kind)
    (expected : Expected) (tokens : List Token) (rest : Stream) :
    expect kind expected (rest.prepend (token :: tokens)) = .ok (token, rest.prepend tokens) := by
  rw [expect, Stream.current_prepend, if_pos found, Stream.advance_prepend]

theorem ofWord?_function (name : FunctionName) : FunctionName.ofWord? name.word = some name := by
  cases name <;> decide

theorem ofWord?_directive (name : DirectiveName) : DirectiveName.ofWord? name.word = some name := by
  cases name <;> decide

theorem sum_stops {kind : TokenKind}
    (listed : kind ∈ [TokenKind.rightParen, .comma, .equals, .endOfLine]) :
    Phrase.sum.Stops kind := by
  simp only [List.mem_cons, List.not_mem_nil, or_false] at listed
  rcases listed with rfl | rfl | rfl | rfl <;> exact ⟨⟨rfl, rfl⟩, rfl⟩

section

variable {term : Reader Node}

theorem number_accepts {token : Token} (kind : token.kind = .number)
    (decimal : Lexis.IsDecimal token.value.toList) :
    Accepts (operand term) Phrase.operand.Stops [token]
      (.number (Numeral.value token.value.toList) token.span) := by
  intro rest _
  have value := Numeral.read?_decimal decimal
  rw [String.ofList_toList] at value
  simp only [operand, Stream.current_prepend, kind, numberOf, value, ok_bind]
  rfl

theorem symbol_accepts {token : Token} (kind : token.kind = .symbol) :
    Accepts (operand term) Phrase.operand.Stops [token] (.symbol token.value token.span) := by
  intro rest _
  simp only [operand, Stream.current_prepend, kind, Stream.advance_prepend, Stream.prepend_nil]

theorem group_accepts {opening closing : Token} {tokens : List Token} {inner : Node}
    (opens : opening.kind = .leftParen) (inside : Accepts term Phrase.sum.Stops tokens inner)
    (closes : closing.kind = .rightParen) :
    Accepts (operand term) Phrase.operand.Stops (opening :: tokens ++ [closing])
      (inner.withSpan (opening.span.hull closing.span)) := by
  intro rest _
  have body := inside (rest.prepend [closing]) (sum_stops (by simp [closes]))
  simp only [operand, List.cons_append, Stream.current_prepend, opens, group,
    Stream.advance_prepend, Stream.prepend_append, body, ok_bind, expect_prepend closes]
  rfl

theorem trigCall_accepts {opening closing : Token} {tokens : List Token} {argument : Node}
    (function : Trig) (name : Token) (opens : opening.kind = .leftParen)
    (inside : Accepts term Phrase.sum.Stops tokens argument) (closes : closing.kind = .rightParen) :
    Accepts (trigCall function name term) Phrase.operand.Stops (opening :: tokens ++ [closing])
      (.trig function argument (name.span.hull closing.span)) := by
  intro rest _
  have body := inside (rest.prepend [closing]) (sum_stops (by simp [closes]))
  simp only [trigCall, List.cons_append, expect_prepend opens, ok_bind, Stream.prepend_append, body,
    expect_prepend closes]
  rfl

theorem pairCall_accepts {opening comma closing : Token} {tokens others : List Token}
    {left right : Node} (build : Node → Node → Option Span → Node) (name : Token)
    (opens : opening.kind = .leftParen) (first : Accepts term Phrase.sum.Stops tokens left)
    (separates : comma.kind = .comma) (second : Accepts term Phrase.sum.Stops others right)
    (closes : closing.kind = .rightParen) :
    Accepts (pairCall build name term) Phrase.operand.Stops
      (opening :: tokens ++ comma :: others ++ [closing])
      (build left right (name.span.hull closing.span)) := by
  intro rest _
  have body := first (rest.prepend (comma :: (others ++ [closing]))) (sum_stops (by simp [separates]))
  have body' := second (rest.prepend [closing]) (sum_stops (by simp [closes]))
  simp only [pairCall, List.cons_append, List.append_assoc, expect_prepend opens, ok_bind,
    Stream.prepend_append tokens, body, expect_prepend separates, Stream.prepend_append others,
    body', expect_prepend closes]
  rfl

theorem functionCall_accepts {name : Token} {tokens : List Token} {node : Node}
    (known : FunctionName) (kind : name.kind = .function) (word : name.value = known.word)
    (called : Accepts (match known with
      | .sin => trigCall .sin name term
      | .cos => trigCall .cos name term
      | .tan => trigCall .tan name term
      | .pow => pairCall .power name term
      | .root => pairCall (fun degree radicand => .root degree radicand true) name term)
      Phrase.operand.Stops tokens node) :
    Accepts (operand term) Phrase.operand.Stops (name :: tokens) node := by
  intro rest stops
  have read := called rest stops
  simp only [operand, Stream.current_prepend, kind, functionCall, word, ofWord?_function,
    Stream.advance_prepend]
  cases known <;> exact read

end

theorem alone_accepts {operand : Reader Node} {tokens : List Token} {node : Node}
    (inside : Accepts operand Phrase.operand.Stops tokens node) (length : Nat) :
    Accepts (juxtaposition operand (length + 1)) Phrase.row.Stops tokens node := by
  intro rest stops
  have notOperand : rest.current.kind.startsOperand = false := stops
  simp only [juxtaposition, inside rest trivial, ok_bind, notOperand]
  rfl

theorem beside_accepts {operand : Reader Node} {tokens others : List Token} {start : Token}
    {left right : Node} {length : Nat}
    (inside : Accepts operand Phrase.operand.Stops tokens left) (starts : start.kind.startsOperand)
    (remaining : Accepts (juxtaposition operand length) Phrase.row.Stops (start :: others) right) :
    Accepts (juxtaposition operand (length + 1)) Phrase.row.Stops (tokens ++ start :: others)
      (joined .mul left right) := by
  intro rest stops
  have body := inside (rest.prepend (start :: others)) trivial
  have body' := remaining rest stops
  simp only [juxtaposition, Stream.prepend_append, body, ok_bind, Stream.current_prepend, starts,
    if_true, body']
  rfl

theorem stops_links {Stops : TokenKind → Prop} {links : List Link} {rest : Stream}
    (signed : ∀ link ∈ links, Stops link.sign.kind) (stops : Stops rest.current.kind) :
    Stops (rest.prepend (links.flatMap Link.all)).current.kind := by
  cases links with
  | nil => exact stops
  | cons link links => exact signed link List.mem_cons_self

theorem rowFrom_accepts {operator? : TokenKind → Option Operator} {operand : Reader Node}
    {Stops : TokenKind → Prop} {links : List Link}
    (signed : ∀ link ∈ links, operator? link.sign.kind = some link.operator ∧ Stops link.sign.kind)
    (inside : ∀ link ∈ links, Accepts operand Stops link.tokens link.node) {length : Nat}
    (enough : links.length < length) (left : Node) :
    Accepts (rowFrom operator? operand length left)
      (fun kind => Stops kind ∧ operator? kind = none) (links.flatMap Link.all)
      (chained left links) := by
  induction links generalizing length left with
  | nil =>
    intro rest stops
    obtain ⟨length, rfl⟩ := Nat.exists_eq_add_one_of_ne_zero (Nat.ne_of_gt enough)
    simp only [List.flatMap_nil, Stream.prepend_nil, rowFrom, stops.2]
    rfl
  | cons link links ih =>
    intro rest stops
    obtain ⟨length, rfl⟩ := Nat.exists_eq_add_one_of_ne_zero (Nat.ne_of_gt (Nat.zero_lt_of_lt enough))
    have head := signed link List.mem_cons_self
    have tail := fun other member => signed other (List.mem_cons_of_mem link member)
    have body := inside link List.mem_cons_self (rest.prepend (links.flatMap Link.all))
      (stops_links (fun other member => (tail other member).2) stops.1)
    have remaining := ih tail (fun other member => inside other (List.mem_cons_of_mem link member))
      (Nat.lt_of_succ_lt_succ enough) (joined link.operator left link.node) rest stops
    simp only [List.flatMap_cons, Link.all, List.cons_append, rowFrom, Stream.current_prepend,
      head.1, Stream.advance_prepend, Stream.prepend_append, body, ok_bind]
    exact remaining

theorem row_accepts {operator? : TokenKind → Option Operator} {operand : Reader Node}
    {Stops : TokenKind → Prop} {tokens : List Token} {first : Node} {links : List Link}
    (front : Accepts operand Stops tokens first)
    (signed : ∀ link ∈ links, operator? link.sign.kind = some link.operator ∧ Stops link.sign.kind)
    (inside : ∀ link ∈ links, Accepts operand Stops link.tokens link.node) {length : Nat}
    (enough : links.length < length) :
    Accepts (row operator? operand length) (fun kind => Stops kind ∧ operator? kind = none)
      (tokens ++ links.flatMap Link.all) (chained first links) := by
  intro rest stops
  have body := front (rest.prepend (links.flatMap Link.all))
    (stops_links (fun link member => (signed link member).2) stops.1)
  have remaining := rowFrom_accepts signed inside enough first rest stops
  simp only [row, Stream.prepend_append, body, ok_bind]
  exact remaining

theorem Derives.front {phrase : Phrase} {tokens : List Token} {node : Node}
    (derived : Derives phrase tokens node) :
    ∃ first rest, tokens = first :: rest ∧ first.kind.startsOperand := by
  induction derived with
  | number kind => exact ⟨_, [], rfl, by rw [kind]; rfl⟩
  | symbol kind => exact ⟨_, [], rfl, by rw [kind]; rfl⟩
  | group opens _ _ _ => exact ⟨_, _, rfl, by rw [opens]; rfl⟩
  | trig _ kind _ _ _ _ _ => exact ⟨_, _, rfl, by rw [kind]; rfl⟩
  | power kind _ _ _ _ _ _ _ _ => exact ⟨_, _, rfl, by rw [kind]; rfl⟩
  | root kind _ _ _ _ _ _ _ _ => exact ⟨_, _, rfl, by rw [kind]; rfl⟩
  | alone _ ih => exact ih
  | beside _ _ ih _ =>
    obtain ⟨first, rest, rfl, starts⟩ := ih
    exact ⟨first, _, rfl, starts⟩
  | product _ _ _ ih _ =>
    obtain ⟨first, rest, rfl, starts⟩ := ih
    exact ⟨first, _, rfl, starts⟩
  | sum _ _ _ ih _ =>
    obtain ⟨first, rest, rfl, starts⟩ := ih
    exact ⟨first, _, rfl, starts⟩

theorem Derives.length_pos {phrase : Phrase} {tokens : List Token} {node : Node}
    (derived : Derives phrase tokens node) : 0 < tokens.length := by
  obtain ⟨first, rest, rfl, _⟩ := derived.front
  exact Nat.succ_pos rest.length

theorem Derives.asProduct {tokens : List Token} {node : Node} (derived : Derives .row tokens node) :
    Derives .product tokens node := by
  simpa [chained] using @Derives.product tokens node [] derived (by simp) (by simp)

theorem Derives.asSum {tokens : List Token} {node : Node} (derived : Derives .product tokens node) :
    Derives .sum tokens node := by
  simpa [chained] using @Derives.sum tokens node [] derived (by simp) (by simp)

theorem Derives.toSum {phrase : Phrase} {tokens : List Token} {node : Node}
    (derived : Derives phrase tokens node) : Derives .sum tokens node := by
  cases phrase with
  | operand => exact (Derives.alone derived).asProduct.asSum
  | row => exact derived.asProduct.asSum
  | product => exact derived.asSum
  | sum => exact derived

def readerOf : Phrase → Nat → Nat → Reader Node
  | .operand, depth, _ => operand (term depth)
  | .row, depth, length => juxtaposition (operand (term depth)) length
  | .product, depth, length =>
    row productOperator? (juxtaposition (operand (term depth)) depth) length
  | .sum, depth, length =>
    row sumOperator?
      (row productOperator? (juxtaposition (operand (term depth)) depth) depth) length

theorem term_succ (bound : Nat) : term (bound + 1) = readerOf .sum bound bound := rfl

def Decimals (tokens : List Token) : Prop :=
  ∀ token ∈ tokens, token.kind = .number → Lexis.IsDecimal token.value.toList

theorem Decimals.mono {tokens others : List Token} (decimals : Decimals tokens)
    (within : ∀ token ∈ others, token ∈ tokens) : Decimals others :=
  fun token member => decimals token (within token member)

theorem links_short {phrase : Phrase} {tokens : List Token} {node : Node}
    (derived : Derives phrase tokens node) {links : List Link} :
    links.length < (tokens ++ links.flatMap Link.all).length := by
  have filled := derived.length_pos
  rw [List.length_append]
  induction links with
  | nil => exact Nat.lt_add_right 0 filled
  | cons link links ih =>
    simp only [List.flatMap_cons, Link.all, List.length_append, List.length_cons]
    omega

theorem link_inside {tokens : List Token} {link : Link} {links : List Link}
    (decimals : Decimals (tokens ++ links.flatMap Link.all)) (member : link ∈ links) :
    Decimals link.tokens ∧ link.tokens.length ≤ (tokens ++ links.flatMap Link.all).length := by
  have inside : link.tokens.Sublist (links.flatMap Link.all) := by
    rw [List.flatMap_def]
    exact (List.sublist_cons_self link.sign link.tokens).trans
      (List.sublist_flatten_of_mem (List.mem_map_of_mem member))
  have whole := inside.trans (List.sublist_append_right tokens (links.flatMap Link.all))
  exact ⟨decimals.mono fun token within => whole.subset within, whole.length_le⟩

theorem term_accepts {tokens : List Token} {node : Node} {bound : Nat}
    (inside : ∀ {depth length}, tokens.length ≤ depth → tokens.length ≤ length →
      Accepts (readerOf .sum depth length) Phrase.sum.Stops tokens node)
    (small : tokens.length < bound) : Accepts (term bound) Phrase.sum.Stops tokens node := by
  obtain ⟨bound, rfl⟩ := Nat.exists_eq_add_one_of_ne_zero (Nat.ne_of_gt (Nat.zero_lt_of_lt small))
  rw [term_succ]
  exact inside (Nat.le_of_lt_succ small) (Nat.le_of_lt_succ small)

theorem signed_stops {operator? : TokenKind → Option Operator} {signs : List (TokenKind × Operator)}
    {Stops : TokenKind → Prop}
    (known : ∀ {kind operator}, operator? kind = some operator ↔ (kind, operator) ∈ signs)
    (stops : ∀ sign ∈ signs, Stops sign.1) {links : List Link}
    (signed : ∀ link ∈ links, (link.sign.kind, link.operator) ∈ signs) :
    ∀ link ∈ links, operator? link.sign.kind = some link.operator ∧ Stops link.sign.kind :=
  fun link member => ⟨known.mpr (signed link member), stops _ (signed link member)⟩

theorem productSigns_stop : ∀ sign ∈ productSigns, Phrase.row.Stops sign.1 := by
  simp [productSigns, Phrase.Stops, TokenKind.startsOperand]

theorem sumSigns_stop : ∀ sign ∈ sumSigns, Phrase.product.Stops sign.1 := by
  simp [sumSigns, Phrase.Stops, TokenKind.startsOperand, productOperator?]

theorem reader_accepts {phrase : Phrase} {tokens : List Token} {node : Node}
    (derived : Derives phrase tokens node) (decimals : Decimals tokens) {depth length : Nat}
    (deep : tokens.length ≤ depth) (long : tokens.length ≤ length) :
    Accepts (readerOf phrase depth length) phrase.Stops tokens node := by
  -- The bounds are never used up: each layer inside a phrase has fewer tokens, and each link of a
  -- row one sign.
  induction derived generalizing depth length with
  | number kind => exact number_accepts kind (decimals _ List.mem_cons_self kind)
  | symbol kind => exact symbol_accepts kind
  | @group opening closing tokens inner opens derived closes ih =>
    simp only [List.length_append, List.length_cons] at deep
    have inside := term_accepts (ih (decimals.mono (by simp +contextual)))
      (by omega : tokens.length < depth)
    exact group_accepts opens inside closes
  | @trig name opening closing tokens argument function kind word opens derived closes ih =>
    simp only [List.length_append, List.length_cons] at deep
    have inside := term_accepts (ih (decimals.mono (by simp +contextual)))
      (by omega : tokens.length < depth)
    have called := trigCall_accepts function name opens inside closes
    cases function with
    | sin => exact functionCall_accepts .sin kind word called
    | cos => exact functionCall_accepts .cos kind word called
    | tan => exact functionCall_accepts .tan kind word called
  | @power name opening comma closing tokens others base exponent kind word opens derived separates
      derived' closes ih ih' =>
    simp only [List.length_append, List.length_cons] at deep
    have first := term_accepts (ih (decimals.mono (by simp +contextual)))
      (by omega : tokens.length < depth)
    have second := term_accepts (ih' (decimals.mono (by simp +contextual)))
      (by omega : others.length < depth)
    exact functionCall_accepts .pow kind word
      (pairCall_accepts _ name opens first separates second closes)
  | @root name opening comma closing tokens others degree radicand kind word opens derived separates
      derived' closes ih ih' =>
    simp only [List.length_append, List.length_cons] at deep
    have first := term_accepts (ih (decimals.mono (by simp +contextual)))
      (by omega : tokens.length < depth)
    have second := term_accepts (ih' (decimals.mono (by simp +contextual)))
      (by omega : others.length < depth)
    exact functionCall_accepts .root kind word
      (pairCall_accepts _ name opens first separates second closes)
  | alone derived ih =>
    have filled := derived.length_pos
    obtain ⟨length, rfl⟩ := Nat.exists_eq_add_one_of_ne_zero (by omega : length ≠ 0)
    exact alone_accepts (ih decimals deep long) length
  | @beside tokens others left right derived derived' ih ih' =>
    rw [List.length_append] at deep long
    have filled := derived.length_pos
    obtain ⟨length, rfl⟩ := Nat.exists_eq_add_one_of_ne_zero (by omega : length ≠ 0)
    have first := ih (decimals.mono (by simp +contextual)) (by omega : tokens.length ≤ depth)
      (by omega : tokens.length ≤ length + 1)
    have remaining := ih' (decimals.mono (by simp +contextual)) (by omega : others.length ≤ depth)
      (by omega : others.length ≤ length)
    obtain ⟨start, rest, rfl, starts⟩ := derived'.front
    exact beside_accepts first starts remaining
  | @product tokens first links derived signed derivations ih ih' =>
    have front := ih (decimals.mono (by simp +contextual)) (Nat.le_trans (by simp) deep)
      (Nat.le_trans (by simp) deep)
    have signs := signed_stops mem_productSigns productSigns_stop signed
    have inside : ∀ link ∈ links, Accepts (readerOf .row depth depth) Phrase.row.Stops
        link.tokens link.node := by
      intro link member
      obtain ⟨within, shorter⟩ := link_inside decimals member
      exact ih' link member within (Nat.le_trans shorter deep) (Nat.le_trans shorter deep)
    exact row_accepts front signs inside (Nat.lt_of_lt_of_le (links_short derived) long)
  | @sum tokens first links derived signed derivations ih ih' =>
    have front := ih (decimals.mono (by simp +contextual)) (Nat.le_trans (by simp) deep)
      (Nat.le_trans (by simp) deep)
    have signs := signed_stops mem_sumSigns sumSigns_stop signed
    have inside : ∀ link ∈ links, Accepts (readerOf .product depth depth) Phrase.product.Stops
        link.tokens link.node := by
      intro link member
      obtain ⟨within, shorter⟩ := link_inside decimals member
      exact ih' link member within (Nat.le_trans shorter deep) (Nat.le_trans shorter deep)
    exact row_accepts front signs inside (Nat.lt_of_lt_of_le (links_short derived) long)

def Leaves (reader : Reader Node) (Stops : TokenKind → Prop) : Prop :=
  ∀ stream node rest, reader stream = .ok (node, rest) → Stops rest.current.kind

theorem juxtaposition_leaves (operand : Reader Node) (bound : Nat) :
    Leaves (juxtaposition operand bound) Phrase.row.Stops := by
  induction bound with
  | zero =>
    intro stream node rest read
    cases read
  | succ bound ih =>
    intro stream node rest read
    simp only [juxtaposition, bind_eq_ok_iff, Prod.exists] at read
    obtain ⟨left, after, _, finished⟩ := read
    split at finished
    · simp only [bind_eq_ok_iff, Prod.exists] at finished
      obtain ⟨right, _, parsed, finished⟩ := finished
      cases finished
      exact ih after right rest parsed
    · next stops =>
      cases finished
      simpa [Phrase.Stops] using stops

theorem rowFrom_leaves {operator? : TokenKind → Option Operator} {operand : Reader Node}
    {Stops : TokenKind → Prop} (inner : Leaves operand Stops) {bound : Nat} {left node : Node}
    {stream rest : Stream} (stops : Stops stream.current.kind)
    (read : rowFrom operator? operand bound left stream = .ok (node, rest)) :
    Stops rest.current.kind ∧ operator? rest.current.kind = none := by
  induction bound generalizing left stream with
  | zero => cases read
  | succ bound ih =>
    rw [rowFrom] at read
    split at read
    · next unknown =>
      cases read
      exact ⟨stops, unknown⟩
    · simp only [bind_eq_ok_iff, Prod.exists] at read
      obtain ⟨right, after, parsed, read⟩ := read
      exact ih (inner _ right after parsed) read

theorem row_leaves {operator? : TokenKind → Option Operator} {operand : Reader Node}
    {Stops : TokenKind → Prop} (inner : Leaves operand Stops) (bound : Nat) :
    Leaves (row operator? operand bound) fun kind => Stops kind ∧ operator? kind = none := by
  intro stream node rest read
  simp only [row, bind_eq_ok_iff, Prod.exists] at read
  obtain ⟨first, after, parsed, read⟩ := read
  exact rowFrom_leaves inner (inner stream first after parsed) read

theorem term_leaves (bound : Nat) : Leaves (term bound) Phrase.sum.Stops := by
  cases bound with
  | zero =>
    intro stream node rest read
    cases read
  | succ bound => exact row_leaves (row_leaves (juxtaposition_leaves _ bound) bound) bound

end Grammar

end PlotScript

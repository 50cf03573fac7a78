import PlotScript.Proofs.Grammar.Script
import PlotScript.Proofs.Grammar.Spans

namespace PlotScript

namespace Grammar

open Reader Outcome

theorem last_tokens (token : Token) (rest : Stream) : Stream.last ⟨token, rest.tokens⟩ = rest.last :=
  List.getLastD_cons ..

theorem last_prepend (tokens : List Token) (rest : Stream) :
    (rest.prepend tokens).last = rest.last := by
  induction tokens with
  | nil => rfl
  | cons token tokens ih => rw [Stream.prepend, last_tokens, ih]

theorem Scanned.last {stream : Stream} (scanned : Scanned stream.tokens) :
    stream.last.kind = .endOfText := by
  generalize same : stream.tokens = tokens at scanned
  induction scanned generalizing stream with
  | stop last =>
    obtain ⟨current, later⟩ := stream
    cases same
    exact last
  | more _ _ remaining ih =>
    obtain ⟨current, later⟩ := stream
    obtain ⟨after, rfl, _⟩ := remaining.stream
    obtain ⟨rfl, rfl⟩ := List.cons.inj same
    rw [last_tokens]
    exact ih rfl

theorem Scanned.ends {stream : Stream} (scanned : Scanned stream.tokens) : stream.Ends := by
  rw [Stream.Ends, scanned.last]
  decide

theorem Legible.left {tokens others : List Token} (legible : Legible (tokens ++ others)) :
    Legible tokens :=
  fun token inside => legible token (inside.before others)

theorem Legible.right {tokens others : List Token} (legible : Legible (tokens ++ others)) :
    Legible others :=
  fun token inside => legible token (inside.behind tokens)

theorem Legible.short {tokens : List Token} (legible : Legible tokens) (decimals : Decimals tokens)
    {token : Token} (inside : InDirective tokens token) :
    token.value.length ≤ Text.Integer.digitLimit := by
  have read := legible token inside
  obtain ⟨isInteger, before, hash, between, after, rfl, _⟩ := inside
  rw [magnitudeOf_integer (decimals token (by simp) isInteger.1) isInteger.2,
    String.length_toList] at read
  split at read
  · cases read
  · next small => exact Nat.not_lt.mp small

theorem ofTokens_tokens (stream : Stream) :
    Node.ofTokens stream.tokens = statements stream.bound stream := rfl

theorem ofTokens_empty {line : Token} (isEnd : line.kind = .endOfLine) (rest : Stream) :
    Node.ofTokens (line :: rest.tokens) = Node.ofTokens rest.tokens := by
  have step : Node.ofTokens (line :: rest.tokens) =
      statements (rest.bound + 1) (rest.prepend [line]) := rfl
  rw [step, statements, Stream.current_prepend, isEnd]
  rfl

theorem bound_prepend (tokens : List Token) (rest : Stream) :
    (rest.prepend tokens).bound = rest.bound + tokens.length := by
  have lengths := congrArg List.length (Stream.tokens_prepend tokens rest)
  simp only [Stream.tokens, List.length_append, List.length_cons] at lengths
  simp only [Stream.bound, Stream.length]
  omega

theorem ofTokens_line {tokens : List Token} {line : Token} {node : Node} {rest : Stream}
    (shape : Statement tokens node) (decimals : Decimals tokens) (legible : Legible tokens)
    (isEnd : line.kind = .endOfLine) (ends : rest.Ends) :
    Node.ofTokens (tokens ++ line :: rest.tokens) =
      (Node.ofTokens rest.tokens).map (node :: ·) := by
  have whole : tokens ++ line :: rest.tokens = ((rest.prepend [line]).prepend tokens).tokens := by
    rw [Stream.tokens_prepend]
    rfl
  have bound : ((rest.prepend [line]).prepend tokens).bound = rest.bound + tokens.length + 1 := by
    rw [bound_prepend, bound_prepend, List.length_singleton]
    omega
  have read := statement_accepts shape decimals (fun token inside => legible.short decimals inside)
    (by rw [Stream.bound]; omega : tokens.length < rest.bound + tokens.length)
    (rest.prepend [line]) isEnd
  -- The bound left over from the whole script is not that of the rest alone.
  have remaining := (statements_bound ends (Nat.le_add_right rest.bound tokens.length)
    (Nat.le_refl rest.bound)).1
  rw [whole, ofTokens_tokens, ofTokens_tokens, bound, statements]
  obtain ⟨first, others, rfl, notText, notLine⟩ := shape.front
  split
  · next isText => exact absurd isText notText
  · next isLine => exact absurd isLine notLine
  · simp only [read, ok_bind, expect_prepend isEnd, Stream.prepend_nil, remaining]
    cases statements rest.bound rest <;> rfl

theorem Program.filled {tokens : List Token} {nodes : List Node} (program : Program tokens nodes) :
    tokens ≠ [] := by
  obtain ⟨stream, rfl⟩ := program.front
  exact List.cons_ne_nil _ _

theorem Program.single {last : Token} {nodes : List Node} (program : Program [last] nodes) :
    nodes = [] := by
  generalize same : [last] = tokens at program
  cases program with
  | stop _ => rfl
  | empty _ remaining =>
    obtain ⟨_, rfl⟩ := List.cons.inj same
    exact absurd rfl remaining.filled
  | line shape _ remaining =>
    obtain ⟨first, rest, rfl, _⟩ := shape.front
    have lengths := congrArg List.length same
    simp at lengths

theorem Program.ofTokens_append {front : List Token} {line last : Token} {nodes : List Node}
    (program : Program (front ++ [line, last]) nodes) (decimals : Decimals (front ++ [line, last]))
    (legible : Legible (front ++ [line, last])) {line' : Token} (isEnd : line'.kind = .endOfLine)
    {rest : Stream} (ends : rest.Ends) :
    Node.ofTokens (front ++ line' :: rest.tokens) =
      (Node.ofTokens rest.tokens).map (nodes ++ ·) := by
  generalize split : front ++ [line, last] = tokens at program decimals legible
  have behind (others : List Token) :
      others ++ line' :: rest.tokens = (rest.prepend (others ++ [line'])).tokens := by
    rw [Stream.tokens_prepend, List.append_assoc]
    rfl
  -- The last two tokens are found again behind each line, by comparing lists from their ends: the line
  -- that closes the program is the one that gives way.
  induction program generalizing front with
  | stop _ =>
    have lengths := congrArg List.length split
    simp at lengths
  | @empty token remaining nodes isEnd' program ih =>
    cases front with
    | nil =>
      obtain ⟨rfl, rfl⟩ := List.cons.inj split
      rw [program.single, List.nil_append, ofTokens_empty isEnd]
      cases Node.ofTokens rest.tokens <;> rfl
    | cons head front =>
      obtain ⟨rfl, rfl⟩ := List.cons.inj split
      have later := ih rfl (decimals.mono (by simp +contextual)) (@Legible.right [head] _ legible)
      rw [List.cons_append, ← later, behind front, ofTokens_empty isEnd']
  | @line tokens remaining token node nodes shape isEnd' program ih =>
    obtain ⟨body, final, rfl⟩ := List.eq_nil_or_concat remaining |>.resolve_left program.filled
    have whole : (front ++ [line]) ++ [last] = (tokens ++ token :: body) ++ [final] := by
      simpa using split
    obtain ⟨inner, same⟩ := List.append_inj' whole rfl
    obtain ⟨rfl, _⟩ := List.cons.inj same
    have within : Decimals tokens := decimals.mono (by simp +contextual)
    rcases List.eq_nil_or_concat body with rfl | ⟨body, before, rfl⟩
    · obtain ⟨rfl, _⟩ := List.append_inj' inner rfl
      rw [ofTokens_line shape within legible.left isEnd ends, @Program.single last nodes program]
      rfl
    · have inner' : front ++ [line] = (tokens ++ token :: body) ++ [before] := by simpa using inner
      obtain ⟨rfl, same⟩ := List.append_inj' inner' rfl
      obtain ⟨rfl, _⟩ := List.cons.inj same
      have later := @ih body (by simp) (decimals.mono (by simp +contextual))
        (@Legible.right (tokens ++ [token]) _ (by simpa using legible))
      have ends' : (rest.prepend (body ++ [line'])).Ends := by
        rw [Stream.Ends, last_prepend]
        exact ends
      rw [List.append_assoc, List.cons_append, behind body,
        ofTokens_line shape within legible.left isEnd' ends', ← behind body, later]
      cases Node.ofTokens rest.tokens <;> rfl

theorem Scanned.mapSpans {tokens : List Token} (scanned : Scanned tokens) (move : Span → Span) :
    Scanned (tokens.map (Token.mapSpan move)) := by
  induction scanned with
  | stop last => exact .stop last
  | more before decimal _ ih => exact .more before decimal ih

theorem scan_closes {source text : String} {tokens : List Token}
    (scanned : Token.scan source text = .ok tokens) :
    ∃ front line last, tokens = front ++ [line, last] := by
  obtain ⟨pieces, _, rfl⟩ := Lexis.tokens_of_scan scanned
  exact ⟨_, _, _, rfl⟩

theorem ofTokens_below {source first second : String} {front others : List Token}
    {line last line' : Token} {nodes : List Node}
    (scanned : Token.scan source first = .ok (front ++ [line, last]))
    (read : Node.ofTokens (front ++ [line, last]) = .ok nodes) (isEnd : line'.kind = .endOfLine)
    (scanned' : Token.scan source second = .ok others) (offset : Nat) :
    Node.ofTokens (front ++ line' :: others.map (Token.mapSpan (.shift offset))) =
      ((Node.ofTokens others).map fun found =>
        nodes ++ found.map (Node.mapSpans (.shift offset))).mapError
          (Failure.mapSpans (.shift offset)) := by
  have whole := scanned_of_scan scanned
  obtain ⟨program, legible⟩ := whole.program read
  have moved := (scanned_of_scan scanned').mapSpans (.shift offset)
  obtain ⟨rest, same', _⟩ := moved.stream
  have hulls := Span.shift_hull offset
  rw [same', program.ofTokens_append whole.decimals legible isEnd (Scanned.ends (same' ▸ moved)),
    ← same', ofTokens_mapSpans hulls]
  cases Node.ofTokens others <;> rfl

/-- Two scripts with a line end between them are the one and then the other. Behind a script that is
read every other is scanned and read, or refused for the same cause, as if it stood alone, but for its
place. -/
theorem ofScript_below {source first : String} {tokens : List Token} {nodes : List Node}
    (scanned : Token.scan source first = .ok tokens) (read : Node.ofTokens tokens = .ok nodes)
    (second : String) :
    Token.scan source (first ++ "\n" ++ second) =
      ((Token.scan source second).map fun others =>
        tokens.dropLast.dropLast ++ ⟨.endOfLine, "", source, first.length, first.length + 1⟩ ::
          others.map (Token.mapSpan (.shift (first.length + 1)))).mapError
            (Diagnostic.mapSpan (.shift (first.length + 1))) ∧
    Node.ofScript source (first ++ "\n" ++ second) =
      ((Node.ofScript source second).map fun others =>
        nodes ++ others.map (Node.mapSpans (.shift (first.length + 1)))).mapError
          (Failure.mapSpans (.shift (first.length + 1))) := by
  have below := Lexis.scan_below scanned second
  refine ⟨below, ?_⟩
  obtain ⟨front, line, last, rfl⟩ := scan_closes scanned
  have closed : (front ++ [line, last]).dropLast.dropLast = front := by simp
  rw [Node.ofScript, Node.ofScript, below, closed]
  cases scanned' : Token.scan source second with
  | error diagnostic => rfl
  | ok others => exact ofTokens_below scanned read rfl scanned' _

theorem ofScript_below_resolution :
    Node.ofScript "curve" "#resolution(2,1)\nx=y" =
      .ok [.directive (.resolution 2 1) (some ⟨"curve", 0, 16⟩),
        .equals (.symbol "x" (some ⟨"curve", 17, 18⟩)) (.symbol "y" (some ⟨"curve", 19, 20⟩))
          (some ⟨"curve", 17, 20⟩)] ∧
    Node.ofScript "curve" "#resolution(2,1)\nx=)" =
      .error (.diagnostic ⟨.illegalToken, some ⟨"curve", 19, 20⟩⟩) := by
  let tokens : List Token := [⟨.hash, "", "curve", 0, 1⟩, ⟨.directive, "resolution", "curve", 1, 11⟩,
    ⟨.leftParen, "", "curve", 11, 12⟩, ⟨.number, "2", "curve", 12, 13⟩, ⟨.comma, "", "curve", 13, 14⟩,
    ⟨.number, "1", "curve", 14, 15⟩, ⟨.rightParen, "", "curve", 15, 16⟩,
    ⟨.endOfLine, "", "curve", 16, 16⟩, ⟨.endOfText, "", "curve", 16, 16⟩]
  have scanned : Token.scan "curve" "#resolution(2,1)" = .ok tokens := by decide +kernel
  have read : Node.ofTokens tokens =
      .ok [.directive (.resolution 2 1) (some ⟨"curve", 0, 16⟩)] := rfl
  have equation : Node.ofScript "curve" "x=y" =
      .ok [.equals (.symbol "x" (some ⟨"curve", 0, 1⟩)) (.symbol "y" (some ⟨"curve", 2, 3⟩))
        (some ⟨"curve", 0, 3⟩)] := by decide +kernel
  have refusal : Node.ofScript "curve" "x=)" =
      .error (.diagnostic ⟨.illegalToken, some ⟨"curve", 2, 3⟩⟩) := by decide +kernel
  constructor
  · have below := (ofScript_below scanned read "x=y").2
    rw [equation] at below
    exact below
  · have below := (ofScript_below scanned read "x=)").2
    rw [refusal] at below
    exact below

end Grammar

end PlotScript

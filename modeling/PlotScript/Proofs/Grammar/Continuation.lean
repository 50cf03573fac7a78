import PlotScript.Proofs.Grammar.Halting

/-!
Where a script is given up. The token that a diagnostic is about is the first one that no script can
have there: what stands before it goes on to a script that is read, and with it nothing does.
-/

namespace PlotScript

namespace Grammar

open Reader Outcome

namespace Item

def text : Item := .mark .string .text ⟨_, @Lexis.Spells.string [] "" .nil⟩

def line : Item := .mark .endOfLine .endOfLine ⟨_, .lineEnd (.inl rfl)⟩

def Plain : Item → Prop
  | sum => False
  | _ => True

theorem Fits.readable {item : Item} {tokens : List Token} (fits : item.Fits tokens)
    (plain : item.Plain) : Readable tokens := by
  cases item with
  | mark kind expected spelled =>
    obtain ⟨token, rfl, rfl⟩ := fits
    refine readable_nil.cons fun number => ?_
    obtain ⟨whole, filled, _, same | ⟨fraction, _, same⟩⟩ := spelled.scanned.2 number
    · exact filled same.symm
    · simp [blankToken] at same
  | integer => exact fits.choose_spec.2
  | sum => exact plain.elim

end Item

theorem FitItems.readable {items : List Item} {tokens : List Token} (fits : FitItems items tokens)
    (plain : ∀ item ∈ items, item.Plain) : Readable tokens := by
  induction items generalizing tokens with
  | nil =>
    rw [(fits : tokens = [])]
    exact readable_nil
  | cons item items ih =>
    obtain ⟨head, tail⟩ := List.forall_mem_cons.mp plain
    obtain ⟨part, rest, rfl, first, later⟩ := fits
    exact (first.readable head).append (ih later tail)

def argumentItems : DirectiveName → List Item
  | .frame => [.integer, .comma, .integer, .comma, .integer, .comma, .integer]
  | .resolution => [.integer, .comma, .integer]
  | .output => [.text]
  | .printNow => []

def directiveItems (name : DirectiveName) : List Item :=
  .opening :: (argumentItems name ++ [.closing, .line])

theorem directiveItems_plain (name : DirectiveName) : ∀ item ∈ directiveItems name, item.Plain := by
  cases name <;> simp [directiveItems, argumentItems, Item.Plain, Item.opening, Item.closing,
    Item.comma, Item.text, Item.line]

theorem arguments_items (bound : Nat) (name : DirectiveName) (stream : Stream) :
    (arguments name stream).map Prod.snd = readItems bound (argumentItems name) stream := by
  have separated {α : Type} {next : Int × Stream → Except Failure (α × Stream)} {items : List Item}
      {stream : Stream}
      (same : ∀ value rest, (next (value, rest)).map Prod.snd = readItems bound items rest) :
      (integerThenComma stream >>= next).map Prod.snd =
        readItems bound (.integer :: .comma :: items) stream := by
    simp only [integerThenComma, bind_assoc, pure_bind]
    refine rest_bind fun value rest => ?_
    exact rest_bind fun comma last => same value last
  cases name with
  | frame =>
    refine separated fun x first => ?_
    refine separated fun y second => ?_
    refine separated fun width third => ?_
    exact rest_bind fun height last => rfl
  | resolution =>
    refine separated fun width first => ?_
    exact rest_bind fun height last => rfl
  | output => exact rest_bind fun path last => rfl
  | printNow => rfl

theorem arguments_fit {name : DirectiveName} {tokens : List Token}
    (fits : FitItems (argumentItems name) tokens) : ∃ command, Arguments name tokens command := by
  cases name with
  | frame =>
    obtain ⟨first, _, rfl, ⟨x, shape, _⟩, _, _, rfl, ⟨comma, rfl, separates⟩, second, _, rfl,
      ⟨y, shape', _⟩, _, _, rfl, ⟨comma', rfl, separates'⟩, third, _, rfl, ⟨width, shape'', _⟩, _, _,
      rfl, ⟨comma'', rfl, separates''⟩, fourth, _, rfl, ⟨height, last, _⟩, rfl⟩ := fits
    have whole := Arguments.frame shape separates shape' separates' shape'' separates'' last
    exact ⟨_, by simpa using whole⟩
  | resolution =>
    obtain ⟨first, _, rfl, ⟨width, shape, _⟩, _, _, rfl, ⟨comma, rfl, separates⟩, second, _, rfl,
      ⟨height, last, _⟩, rfl⟩ := fits
    have whole := Arguments.resolution shape separates last
    exact ⟨_, by simpa using whole⟩
  | output =>
    obtain ⟨_, _, rfl, ⟨token, rfl, kind⟩, rfl⟩ := fits
    exact ⟨_, .output kind⟩
  | printNow =>
    rw [(fits : tokens = [])]
    exact ⟨_, .printNow⟩

def Line (tokens : List Token) : Prop :=
  ∃ body line node, tokens = body ++ [line] ∧ line.kind = .endOfLine ∧ Statement body node ∧
    Legible body

theorem directive_fits {hash name : Token} {known : DirectiveName} {tokens : List Token}
    (isHash : hash.kind = .hash) (kind : name.kind = .directive) (word : name.value = known.word)
    (fits : FitItems (directiveItems known) tokens) : Line (hash :: name :: tokens) := by
  have readable := fits.readable (directiveItems_plain known)
  obtain ⟨_, _, rfl, ⟨opening, rfl, opens⟩, fits⟩ := fits
  obtain ⟨inside, _, rfl, shape, _, _, rfl, ⟨closing, rfl, closes⟩, _, _, rfl, ⟨line, rfl, ends⟩,
    rfl⟩ := fits.of_append
  obtain ⟨command, shape⟩ := arguments_fit shape
  have body : Readable (hash :: name :: opening :: inside ++ [closing]) :=
    ((readable.mono (by simp +contextual [or_imp])).cons (by simp [kind])).cons (by simp [isHash])
  exact ⟨_, line, _, by simp, ends, .directive isHash kind word opens shape closes, body.legible⟩

def readLine (bound : Nat) (stream : Stream) : Except Failure Stream :=
  (statement bound stream >>= fun (_, rest) => expect .endOfLine .endOfLine rest).map Prod.snd

def readName (bound : Nat) (stream : Stream) : Except Failure Stream :=
  expect .directive .directiveName stream >>= fun (name, rest) =>
    match DirectiveName.ofWord? name.value with
    | none => fail (.unknownDirective name.value) name
    | some known => readItems bound (directiveItems known) rest

theorem readLine_directive {bound : Nat} {stream : Stream} (isHash : stream.current.kind = .hash) :
    readLine bound stream = readName bound stream.advance := by
  rw [readLine, statement, if_pos isHash, directive, readName]
  cases expect .directive .directiveName stream.advance with
  | error failure => rfl
  | ok result =>
    obtain ⟨name, rest⟩ := result
    simp only [ok_bind]
    cases DirectiveName.ofWord? name.value with
    | none => rfl
    | some known =>
      simp only [bind_assoc, pure_bind]
      refine rest_bind fun opening first => ?_
      rw [readItems_append, ← arguments_items]
      refine rest_bind fun command second => ?_
      exact rest_bind fun closing third => (bind_pure _).symm

theorem readName_halts (bound : Nat) :
    Halts (readName bound) (fun tokens => ∀ hash : Token, hash.kind = .hash → Line (hash :: tokens))
      (fun depth _ => readName (depth + 1)) := by
  have filled : Fillable fun rest => ∀ hash : Token, hash.kind = .hash → Line (hash :: rest) := by
    obtain ⟨rest, spelled, fits⟩ := items_fill (directiveItems .printNow)
    let name : Token := ⟨.directive, DirectiveName.printNow.word, "", 0, 0⟩
    have known : Spelled name := ⟨_, .directive .printNow⟩
    exact ⟨name :: rest, List.forall_mem_cons.mpr ⟨known, spelled⟩,
      fun hash isHash => directive_fits isHash rfl rfl fits⟩
  intro stream found scanned failed
  rw [readName] at failed
  by_cases kind : stream.current.kind = .directive
  · obtain ⟨front, remaining⟩ := scanned.advance (by simp [kind])
    rw [expect, if_pos kind, ok_bind] at failed
    dsimp only at failed
    cases word : DirectiveName.ofWord? stream.current.value with
    | none =>
      rw [word] at failed
      cases failed
      refine .here rfl filled fun _ _ later => ?_
      rw [readName, expect, if_pos kind, ok_bind]
      simp only [word]
      rfl
    | some known =>
      rw [word] at failed
      refine (items_halt (term_halts bound) _ remaining failed).behind [stream.current] front ?_ ?_
      · exact fun others fits hash isHash => directive_fits isHash kind (directiveWord word) fits
      · intro size depth length next deep long _ fails
        rw [List.length_singleton] at deep long
        rw [readName, expect_prepend kind, ok_bind]
        simp only [word, Stream.prepend_nil]
        exact fails depth length (by omega) (by omega)
  · rw [expect, if_neg kind] at failed
    cases failed
    refine .here rfl filled fun _ _ later => ?_
    rw [readName, expect, if_neg kind]
    rfl

theorem readLine_equation {bound : Nat} {stream : Stream} (plain : stream.current.kind ≠ .hash) :
    readLine bound stream = (term bound stream).map Prod.snd >>= fun rest =>
      if rest.current.kind = .equals then readItems bound [.sum, .line] rest.advance
      else readItems bound [.line] rest := by
  rw [readLine, statement, if_neg plain, equation, bind_assoc]
  refine rest_bind fun left rest => ?_
  dsimp only
  by_cases isEquals : rest.current.kind = .equals
  · rw [if_pos isEquals, if_pos isEquals, bind_assoc]
    refine rest_bind fun right last => ?_
    exact (bind_pure _).symm
  · rw [if_neg isEquals, if_neg isEquals]
    exact (bind_pure _).symm

theorem readLine_behind {part : List Token} {left : Node} (derived : Derives .sum part left)
    (decimals : Decimals part) {bound : Nat} (small : part.length < bound) {next : Stream}
    (stops : Phrase.sum.Stops next.current.kind) :
    readLine bound (next.prepend part) =
      if next.current.kind = .equals then readItems bound [.sum, .line] next.advance
      else readItems bound [.line] next := by
  have passes := sum_accepts derived decimals small next stops
  obtain ⟨first, others, rfl, _⟩ := derived.front
  rw [readLine_equation (derived.plain first List.mem_cons_self), passes]
  rfl

theorem readEquation_halts {bound : Nat} {stream : Stream} {found : Diagnostic}
    (plain : stream.current.kind ≠ .hash) (scanned : Scanned stream.tokens)
    (failed : readLine bound stream = .error (.diagnostic found)) :
    Halted Line (fun depth _ => readLine (depth + 1)) stream found := by
  rw [readLine_equation plain] at failed
  rcases bind_eq_error_iff.mp failed with failed | ⟨rest, passed, failed⟩
  · have halted := Item.sum.halts (term_halts bound) scanned failed
    refine (halted.extend ?_).map (fun _ line => line) ?_
    · rintro body ⟨node, derived⟩
      obtain ⟨_, spelled, line, rfl, ends⟩ := Item.line.fills
      exact ⟨[line], spelled, body, line, _, rfl, ends, .term derived, legible_of_plain derived.plain⟩
    · intro size depth length next deep long same fails
      have fails := fails depth length deep long
      rw [Item.read] at fails
      rw [readLine_equation (same ▸ plain), fails]
      rfl
  obtain ⟨part, front, ⟨left, derived⟩, stops, remaining⟩ := Item.sum.read_sound scanned passed
  have decimals := scanned.decimals_front front
  split at failed
  · next isEquals =>
    obtain ⟨middle, remaining⟩ := remaining.advance (by simp [isEquals])
    have whole : stream.tokens = (part ++ [rest.current]) ++ rest.advance.tokens := by
      rw [front, middle]
      simp
    have halted := items_halt (term_halts bound) [.sum, .line] remaining failed
    refine halted.behind _ whole (fun others fits => ?_) ?_
    · obtain ⟨body, _, rfl, ⟨right, derived'⟩, _, _, rfl, ⟨line, rfl, ends⟩, rfl⟩ := fits
      refine ⟨part ++ rest.current :: body, line, _, by simp, ends,
        .equation derived isEquals derived', legible_of_plain ?_⟩
      simpa [isEquals, or_imp, forall_and] using ⟨derived.plain, derived'.plain⟩
    · intro size depth length next deep long _ fails
      rw [List.length_append, List.length_singleton] at deep long
      have small : part.length < depth + 1 := by omega
      have passes := @readLine_behind _ _ derived decimals _ small (next.prepend [rest.current]) stops
      rw [Stream.prepend_append, passes, Stream.current_prepend, if_pos isEquals]
      exact fails depth length (by omega) (by omega)
  · next notEquals =>
    have halted := items_halt (term_halts bound) [.line] remaining failed
    refine halted.behind part front (fun others fits => ?_) ?_
    · obtain ⟨_, _, rfl, ⟨line, rfl, ends⟩, rfl⟩ := fits
      exact ⟨part, line, _, by simp, ends, .term derived, legible_of_plain derived.plain⟩
    · intro size depth length next deep long same fails
      rw [readLine_behind derived decimals (by omega) (same ▸ stops), if_neg (same ▸ notEquals)]
      exact fails depth length (by omega) (by omega)

theorem readLine_halts (bound : Nat) :
    Halts (readLine bound) Line (fun depth _ => readLine (depth + 1)) := by
  intro stream found scanned failed
  by_cases isHash : stream.current.kind = .hash
  · obtain ⟨front, remaining⟩ := scanned.advance (by simp [isHash])
    rw [readLine_directive isHash] at failed
    refine (readName_halts bound remaining failed).behind [stream.current] front ?_ ?_
    · exact fun others fits => fits stream.current isHash
    · intro size depth length next deep long _ fails
      rw [List.length_singleton] at deep long
      rw [@readLine_directive _ (next.prepend [stream.current]) isHash]
      exact fails depth length (by omega) (by omega)
  · exact readEquation_halts isHash scanned failed

/-- Lines that may stand in front of every script that is read. -/
def Runs (tokens : List Token) : Prop :=
  Decimals tokens → ∀ {rest : Stream} {nodes}, rest.Ends → Node.ofTokens rest.tokens = .ok nodes →
    ∃ others, Node.ofTokens (tokens ++ rest.tokens) = .ok others

theorem Line.runs {tokens : List Token} (line : Line tokens) : Runs tokens := by
  intro decimals rest nodes ends read
  obtain ⟨body, line, node, rfl, isEnd, shape, legible⟩ := line
  have whole := ofTokens_line shape (decimals.mono (by simp +contextual)) legible isEnd ends
  rw [read] at whole
  refine ⟨node :: nodes, ?_⟩
  rw [List.append_assoc]
  exact whole

theorem Runs.append {tokens others : List Token} (runs : Runs tokens) (later : Runs others) :
    Runs (tokens ++ others) := by
  intro decimals rest nodes ends read
  obtain ⟨nodes', read'⟩ := later (decimals.mono (by simp +contextual)) ends read
  rw [← Stream.tokens_prepend] at read'
  have ends' : (rest.prepend others).Ends := by
    rw [Stream.Ends, last_prepend]
    exact ends
  obtain ⟨nodes'', read''⟩ := runs (decimals.mono (by simp +contextual)) ends' read'
  exact ⟨nodes'', by rw [List.append_assoc, ← Stream.tokens_prepend]; exact read''⟩

theorem runs_empty {line : Token} (isEnd : line.kind = .endOfLine) : Runs [line] := by
  intro _ rest nodes _ read
  exact ⟨nodes, (ofTokens_empty isEnd rest).trans read⟩

theorem Runs.closed {tokens : List Token} (runs : Runs tokens) (decimals : Decimals tokens)
    (source : String) (stop : Nat) :
    ∃ nodes, Node.ofTokens (tokens ++ Token.closing source stop) = .ok nodes := by
  let rest : Stream :=
    ⟨⟨.endOfLine, "", source, stop, stop⟩, [⟨.endOfText, "", source, stop, stop⟩]⟩
  have last : rest.last.kind = .endOfText := rfl
  have ends : rest.Ends := by
    rw [Stream.Ends, last]
    decide
  exact @runs decimals rest [] ends rfl

theorem readLine_sound {bound : Nat} {stream rest : Stream} (scanned : Scanned stream.tokens)
    (read : readLine bound stream = .ok rest) :
    ∃ part, stream.tokens = part ++ rest.tokens ∧ Line part ∧ Scanned rest.tokens := by
  obtain ⟨_, read⟩ := rest_eq_ok_iff.mp read
  obtain ⟨⟨node, after⟩, parsed, passed⟩ := bind_eq_ok_iff.mp read
  obtain ⟨body, front, ⟨shape, legible⟩, scanned⟩ := statement_sound bound scanned parsed
  obtain ⟨isEnd, back, scanned⟩ := expect_eq_ok (by decide) scanned passed
  exact ⟨body ++ [_], by rw [front, back]; simp, ⟨body, _, node, rfl, isEnd, shape, legible⟩, scanned⟩

theorem readLine_again {part : List Token} (line : Line part) (decimals : Decimals part) {bound : Nat}
    (small : part.length ≤ bound) (rest : Stream) : readLine bound (rest.prepend part) = .ok rest := by
  obtain ⟨body, line, node, rfl, isEnd, shape, legible⟩ := line
  rw [List.length_append, List.length_singleton] at small
  have within : Decimals body := decimals.mono (by simp +contextual)
  have passes := statement_accepts shape within (fun token inside => legible.short within inside)
    (by omega : body.length < bound) (rest.prepend [line]) isEnd
  rw [readLine, Stream.prepend_append, passes, ok_bind]
  dsimp only
  rw [expect_prepend isEnd]
  rfl

theorem statements_eq_error_iff {bound : Nat} {stream : Stream} {failure : Failure}
    (inner : stream.current.kind ≠ .endOfText) (filled : stream.current.kind ≠ .endOfLine) :
    statements (bound + 1) stream = .error failure ↔ readLine bound stream = .error failure ∨
      ∃ rest, readLine bound stream = .ok rest ∧ statements bound rest = .error failure := by
  rw [statements, readLine]
  split
  · next isText => exact absurd isText inner
  · next isLine => exact absurd isLine filled
  · cases statement bound stream with
    | error other => simp [bind, Except.bind, Except.map]
    | ok result =>
      obtain ⟨node, after⟩ := result
      simp only [ok_bind]
      cases expect .endOfLine .endOfLine after with
      | error other => simp [bind, Except.bind, Except.map]
      | ok passed =>
        obtain ⟨line, last⟩ := passed
        cases remaining : statements bound last <;>
          simp [remaining, bind, Except.bind, Except.map, pure, Except.pure]

theorem statements_halt (bound : Nat) :
    Halts (statements bound) Runs (fun depth _ => statements (depth + 2)) := by
  -- Each round passes an empty line or a statement with its end, and the offending token is behind them.
  induction bound with
  | zero =>
    intro stream found _ failed
    cases failed
  | succ bound ih =>
    intro stream found scanned failed
    by_cases isText : stream.current.kind = .endOfText
    · rw [statements, isText] at failed
      cases failed
    by_cases isEnd : stream.current.kind = .endOfLine
    · obtain ⟨front, remaining⟩ := scanned.advance isText
      have failed : statements bound stream.advance = .error (.diagnostic found) := by
        rw [statements, isEnd] at failed
        dsimp only at failed
        split at failed
        · cases failed
        · exact failed
      refine (ih remaining failed).behind [stream.current] front ?_ ?_
      · exact fun others runs => (runs_empty isEnd).append runs
      · intro size depth length next deep long _ fails
        rw [List.length_singleton] at deep long
        obtain ⟨depth, rfl⟩ := Nat.exists_eq_add_one_of_ne_zero (by omega : depth ≠ 0)
        rw [statements, Stream.current_prepend, isEnd]
        exact fails depth length (by omega) (by omega)
    rcases (statements_eq_error_iff isText isEnd).mp failed with failed | ⟨rest, passed, failed⟩
    · refine (readLine_halts bound scanned failed).map (fun _ line => line.runs) ?_
      intro size depth length next deep long same fails
      refine (statements_eq_error_iff (same ▸ isText) (same ▸ isEnd)).mpr (.inl ?_)
      exact fails depth length deep long
    · obtain ⟨part, front, line, remaining⟩ := readLine_sound scanned passed
      have decimals := scanned.decimals_front front
      refine (ih remaining failed).behind part front (fun others runs => line.runs.append runs) ?_
      intro size depth length next deep long _ fails
      have again := readLine_again line decimals (by omega : part.length ≤ depth + 1) next
      -- The line that has been read is not empty, so its first token decides the branch again.
      obtain ⟨first, others, rfl⟩ : ∃ first others, part = first :: others :=
        List.exists_cons_of_ne_nil (by rintro rfl; simp [Line] at line)
      obtain ⟨rfl, _⟩ := List.cons.inj front
      rw [List.length_cons] at deep long
      obtain ⟨depth, rfl⟩ := Nat.exists_eq_add_one_of_ne_zero (by omega : depth ≠ 0)
      have step := @statements_eq_error_iff (depth + 2) (next.prepend (stream.current :: others))
        (.diagnostic found) isText isEnd
      refine step.mpr (.inr ⟨next, again, ?_⟩)
      exact fails depth length (by omega) (by omega)

theorem scan_of_spelled (source : String) {tokens : List Token}
    (spelled : ∀ token ∈ tokens, Spelled token) (span : Span) :
    ∃ text others, Token.scan source text = .ok others ∧ ∃ front,
      others = front ++ Token.closing source text.length ∧
        front.map (Token.mapSpan fun _ => span) = tokens.map (Token.mapSpan fun _ => span) := by
  have written : ∃ chars pieces, Lexis.Decomposition pieces chars ∧ ∀ start,
      (Lexis.tokensFrom source start pieces).map (Token.mapSpan fun _ => span) =
        tokens.map (Token.mapSpan fun _ => span) := by
    induction tokens with
    | nil => exact ⟨[], [], .nil, fun _ => rfl⟩
    | cons token tokens ih =>
      obtain ⟨⟨chars, spells⟩, later⟩ := List.forall_mem_cons.mp spelled
      obtain ⟨rest, pieces, decomposed, listed⟩ := ih later
      obtain ⟨piece, alone, known⟩ := spells.alone
      have breaks : Lexis.Breaks ' ' := by decide
      have blank : Lexis.Decomposition (.blank ' ' :: pieces) (' ' :: rest) :=
        .cons (.blank (.inl rfl)) decomposed
      refine ⟨_, _, alone.append breaks blank, fun start => ?_⟩
      rw [List.singleton_append, Lexis.tokensFrom, known, Lexis.tokensFrom, Lexis.tokensAt,
        List.nil_append, List.singleton_append, List.map_cons, listed, List.map_cons]
      rfl
  obtain ⟨chars, pieces, decomposed, listed⟩ := written
  have scanned := Lexis.scanFrom_of_decomposition decomposed source 0
  refine ⟨String.ofList chars, _, ?_, _, rfl, listed 0⟩
  rw [Token.scan, String.toList_ofList, scanned, String.length_ofList, Nat.zero_add]

theorem ofTokens_place {tokens others : List Token} {nodes : List Node} (span : Span)
    (same : tokens.map (Token.mapSpan fun _ => span) = others.map (Token.mapSpan fun _ => span))
    (read : Node.ofTokens tokens = .ok nodes) : ∃ nodes', Node.ofTokens others = .ok nodes' := by
  have moved (list : List Token) := @ofTokens_mapSpans (fun _ => span)
    (fun _ _ => (Span.hull_self span).symm) list
  have moved := (moved tokens).symm.trans ((congrArg _ same).trans (moved others))
  rw [read] at moved
  cases found : Node.ofTokens others with
  | error failure =>
    rw [found] at moved
    cases moved
  | ok nodes' => exact ⟨nodes', rfl⟩

/-- A diagnostic of the parser is about the first token that can not stand where it does. The tokens
before it go on to a script that is read, with those of some other text; with the token they are refused
for the same cause whatever follows. -/
theorem ofTokens_correct_prefix {source text : String} {tokens : List Token} {found : Diagnostic}
    (scanned : Token.scan source text = .ok tokens)
    (refused : Node.ofTokens tokens = .error (.diagnostic found)) :
    ∃ before token after, tokens = before ++ token :: after ∧ found.span = some token.span ∧
      (found.cause = .illegalToken ∨ ∃ expected, found.cause = .missingToken expected) ∧
      (∃ completion others nodes, Token.scan source completion = .ok others ∧
        Node.ofTokens (before ++ others) = .ok nodes) ∧
      ∀ later, Node.ofTokens (before ++ token :: later) = .error (.diagnostic found) := by
  have whole := scanned_of_scan scanned
  have refusal := refusal_of_ofTokens scanned refused
  obtain ⟨stream, rfl, reading⟩ := whole.stream
  rw [reading] at refused
  obtain ⟨before, token, after, split, place, ⟨rest, spelled, runs⟩, refuses⟩ :=
    statements_halt stream.bound whole refused
  refine ⟨before, token, after, split, place, ?_, ?_, fun later => ?_⟩
  · generalize same : Failure.diagnostic found = failure at refusal
    cases refusal with
    | illegal member =>
      cases same
      exact .inl rfl
    | missing expected member =>
      cases same
      exact .inr ⟨expected, rfl⟩
    | long _ _ => cases same
  · obtain ⟨completion, others, scanned', front, rfl, same⟩ :=
      scan_of_spelled source spelled ⟨source, 0, 0⟩
    have decimals : Decimals (before ++ rest) := by
      intro token member
      rcases List.mem_append.mp member with member | member
      · exact whole.decimals token (by rw [split]; exact List.mem_append_left _ member)
      · exact (spelled token member).scanned.2
    obtain ⟨nodes, read⟩ := runs.closed decimals source completion.length
    have alike : (before ++ rest ++ Token.closing source completion.length).map
          (Token.mapSpan fun _ => ⟨source, 0, 0⟩) =
        (before ++ (front ++ Token.closing source completion.length)).map
          (Token.mapSpan fun _ => ⟨source, 0, 0⟩) := by
      simp [same]
    obtain ⟨nodes', read'⟩ := ofTokens_place ⟨source, 0, 0⟩ alike read
    exact ⟨completion, _, nodes', scanned', read'⟩
  · have start : before ++ token :: later = ((⟨token, later⟩ : Stream).prepend before).tokens :=
      (Stream.tokens_prepend before ⟨token, later⟩).symm
    rw [start, ofTokens_tokens, bound_prepend]
    have bound : (⟨token, later⟩ : Stream).bound + before.length =
        (later.length + before.length + 1) + 2 := by
      simp only [Stream.bound, Stream.length]
      omega
    rw [bound]
    exact @refuses _ (before.length + 1) (by omega) (by omega) later

theorem ofTokens_correct_prefix_pending : ∃ tokens found,
    Token.scan "curve" "#resolution(2,1)\nx=(2+)" = .ok tokens ∧
    Node.ofTokens tokens = .error (.diagnostic found) ∧
    found = ⟨.illegalToken, some ⟨"curve", 22, 23⟩⟩ ∧
    ∃ before token after, tokens = before ++ token :: after ∧ token.span = ⟨"curve", 22, 23⟩ ∧
      (∃ completion others nodes, Token.scan "curve" completion = .ok others ∧
        Node.ofTokens (before ++ others) = .ok nodes) ∧
      ∀ later, Node.ofTokens (before ++ token :: later) = .error (.diagnostic found) := by
  let tokens : List Token := [⟨.hash, "", "curve", 0, 1⟩, ⟨.directive, "resolution", "curve", 1, 11⟩,
    ⟨.leftParen, "", "curve", 11, 12⟩, ⟨.number, "2", "curve", 12, 13⟩, ⟨.comma, "", "curve", 13, 14⟩,
    ⟨.number, "1", "curve", 14, 15⟩, ⟨.rightParen, "", "curve", 15, 16⟩,
    ⟨.endOfLine, "", "curve", 16, 17⟩, ⟨.symbol, "x", "curve", 17, 18⟩, ⟨.equals, "", "curve", 18, 19⟩,
    ⟨.leftParen, "", "curve", 19, 20⟩, ⟨.number, "2", "curve", 20, 21⟩, ⟨.plus, "", "curve", 21, 22⟩,
    ⟨.rightParen, "", "curve", 22, 23⟩, ⟨.endOfLine, "", "curve", 23, 23⟩,
    ⟨.endOfText, "", "curve", 23, 23⟩]
  let found : Diagnostic := ⟨.illegalToken, some ⟨"curve", 22, 23⟩⟩
  have scanned : Token.scan "curve" "#resolution(2,1)\nx=(2+)" = .ok tokens := by decide +kernel
  have refused : Node.ofTokens tokens = .error (.diagnostic found) := rfl
  obtain ⟨before, token, after, split, place, _, goes, stays⟩ := ofTokens_correct_prefix scanned refused
  exact ⟨tokens, found, scanned, refused, rfl, before, token, after, split,
    (Option.some.inj place).symm, goes, stays⟩

end Grammar

end PlotScript

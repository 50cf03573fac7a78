import Mathlib.Data.List.Basic
import Mathlib.Data.List.Induction
import PlotScript.Proofs.Grammar.Lines
import PlotScript.Proofs.Grammar.Places

/-!
The extent of a node. Its span goes from the first of its tokens to the last, so the tokens of a
script that lie within the span are those the node comes from, and taken alone they are read as that
node again.
-/

namespace PlotScript

def Node.alone (term : Node) : Node := .equals (.symbol "y" term.span) term term.span

namespace Grammar

open Node (Placed)

def Covers (node : Node) (tokens : List Token) : Prop :=
  ∃ span, node.span = some span ∧ ∀ token ∈ tokens, token.span.Within span

section

variable {outer : Span} {tokens middle others : List Token} {left right node : Node}

theorem Spread.hull_covers {first last : Token} (spread : Spread outer (first :: tokens ++ [last])) :
    ∀ token ∈ first :: tokens ++ [last], token.span.Within (first.span.hull last.span) := by
  obtain ⟨opens, closes⟩ :=
    Span.within_hull (spread.within first (by simp)) (spread.within last (by simp))
  have between := spread.between.2.within
  simp only [List.cons_append, List.forall_mem_cons, List.forall_mem_append]
  exact ⟨opens, between, closes, by simp⟩

theorem Covers.join (spread : Spread outer (tokens ++ (middle ++ others))) (covers : Covers left tokens)
    (covers' : Covers right others) (placed : Placed outer left) (placed' : Placed outer right)
    (filled : tokens ≠ []) (filled' : others ≠ [])
    (hull : node.span = Span.hull? left.span right.span) :
    Covers node (tokens ++ (middle ++ others)) := by
  obtain ⟨first, found, inFirst⟩ := covers
  obtain ⟨second, found', inSecond⟩ := covers'
  obtain ⟨_, same, within⟩ := placed.inside
  obtain ⟨_, same', within'⟩ := placed'.inside
  cases found.symm.trans same
  cases found'.symm.trans same'
  obtain ⟨below, below'⟩ := Span.within_hull within within'
  refine ⟨first.hull second, by rw [hull, found, found']; rfl, ?_⟩
  simp only [List.forall_mem_append]
  refine ⟨fun token member => (inFirst token member).trans below, fun token member => ?_,
    fun token member => (inSecond token member).trans below'⟩
  obtain ⟨_, apart, across⟩ := List.pairwise_append.mp spread.apart
  obtain ⟨_, _, across'⟩ := List.pairwise_append.mp apart
  obtain ⟨head, front⟩ := List.exists_mem_of_ne_nil tokens filled
  obtain ⟨last, back⟩ := List.exists_mem_of_ne_nil others filled'
  have inner := spread.within token (by simp [member])
  have opens := (inFirst head front).trans below
  have closes := (inSecond last back).trans below'
  have before := across head front token (List.mem_append_left _ member)
  have behind := across' token member last back
  refine ⟨inner.source.trans within.source.symm, ?_, inner.forward, ?_⟩
  · exact Int.le_trans opens.start (Int.le_trans opens.forward before)
  · exact Int.le_trans behind (Int.le_trans closes.forward closes.stop)

end

theorem Derives.filled {phrase : Phrase} {tokens : List Token} {node : Node}
    (derived : Derives phrase tokens node) : tokens ≠ [] :=
  List.ne_nil_of_length_pos derived.length_pos

theorem covers_chained {outer : Span} {inner : Phrase} {tokens : List Token} {first : Node}
    {links : List Link} (spread : Spread outer (tokens ++ links.flatMap Link.all))
    (covers : Covers first tokens) (placed : Placed outer first) (filled : tokens ≠ [])
    (derivations : ∀ link ∈ links, Derives inner link.tokens link.node)
    (each : ∀ link ∈ links, Covers link.node link.tokens) :
    Covers (chained first links) (tokens ++ links.flatMap Link.all) := by
  induction links generalizing first tokens with
  | nil => simpa [chained] using covers
  | cons link links ih =>
    obtain ⟨derived, derivations⟩ := List.forall_mem_cons.mp derivations
    obtain ⟨covers', each⟩ := List.forall_mem_cons.mp each
    have whole : tokens ++ (link :: links).flatMap Link.all =
        (tokens ++ ([link.sign] ++ link.tokens)) ++ links.flatMap Link.all := by
      simp [Link.all]
    rw [whole] at spread ⊢
    have front := spread.sublist (List.sublist_append_left _ _)
    have placed' := derived.placed (front.sublist (List.sublist_append_of_sublist_right
      (List.sublist_append_right _ _)))
    have joins : (joined link.operator first link.node).span =
        Span.hull? first.span link.node.span := rfl
    exact ih spread (covers.join front covers' placed placed' filled derived.filled joins)
      (placed.join placed' rfl rfl) (by simp [filled]) derivations each

theorem Derives.covers {phrase : Phrase} {tokens : List Token} {node : Node} {outer : Span}
    (derived : Derives phrase tokens node) (spread : Spread outer tokens) : Covers node tokens := by
  induction derived with
  | @number token _ | @symbol token _ =>
    have own := (spread.within token List.mem_cons_self).itself
    exact ⟨token.span, rfl, by simpa using own⟩
  | group _ _ _ _ => exact ⟨_, Node.span_withSpan .., spread.hull_covers⟩
  | @trig name opening closing tokens _ _ _ _ _ _ _ _ =>
    exact ⟨_, rfl, @Spread.hull_covers _ (opening :: tokens) _ _ spread⟩
  | @power name opening comma closing tokens others _ _ _ _ _ _ _ _ _ _ _
  | @root name opening comma closing tokens others _ _ _ _ _ _ _ _ _ _ _ =>
    exact ⟨_, rfl, @Spread.hull_covers _ (opening :: tokens ++ comma :: others) _ _ spread⟩
  | alone _ ih => exact ih spread
  | @beside tokens others left right derived derived' ih ih' =>
    have front := spread.sublist (List.sublist_append_left _ _)
    have back := spread.sublist (List.sublist_append_right _ _)
    exact @Covers.join _ _ [] _ _ _ _ spread (ih front) (ih' back) (derived.placed front)
      (derived'.placed back) derived.filled derived'.filled rfl
  | product derived _ derivations ih ih' | sum derived _ derivations ih ih' =>
    have front := spread.sublist (List.sublist_append_left _ _)
    have links := spread.sublist (List.sublist_append_right _ _)
    refine covers_chained spread (ih front) (derived.placed front) derived.filled derivations ?_
    exact fun link among => ih' link among (links.sublist (sublist_links among))

theorem Statement.covers {tokens : List Token} {node : Node} {outer : Span}
    (shape : Statement tokens node) (spread : Spread outer tokens) : Covers node tokens := by
  cases shape with
  | @directive hash name opening closing known tokens _ _ _ _ _ _ _ =>
    exact ⟨_, rfl, @Spread.hull_covers _ (name :: opening :: tokens) _ _ spread⟩
  | @equation tokens others sign left right derived _ derived' =>
    have front := spread.sublist (List.sublist_append_left _ _)
    have back := spread.sublist (by simp : others.Sublist (tokens ++ sign :: others))
    exact @Covers.join _ _ [sign] _ _ _ _ spread (derived.covers front) (derived'.covers back)
      (derived.placed front) (derived'.placed back) derived.filled derived'.filled rfl
  | term derived => exact derived.covers spread

/-- Some of the tokens side by side make the node. -/
def Sliced (tokens : List Token) (node : Node) : Prop :=
  ∃ before part after, tokens = before ++ (part ++ after) ∧ Derives .sum part node

theorem Sliced.within {tokens : List Token} {node : Node} (sliced : Sliced tokens node)
    (front back : List Token) : Sliced (front ++ (tokens ++ back)) node := by
  obtain ⟨before, part, after, rfl, derived⟩ := sliced
  exact ⟨front ++ before, part, after ++ back, by simp, derived⟩

theorem Derives.whole {phrase : Phrase} {tokens : List Token} {node : Node}
    (derived : Derives phrase tokens node) : Sliced tokens node :=
  ⟨[], tokens, [], by simp, derived.toSum⟩

section

variable {tokens : List Token} {node : Node}

theorem all_within (all : node.All (Sliced tokens)) (front back : List Token) :
    node.All (Sliced (front ++ (tokens ++ back))) :=
  all.mono fun _ sliced => sliced.within front back

theorem sliced_chained {first : Node} {links : List Link} (all : first.All (Sliced tokens))
    (each : ∀ link ∈ links, link.node.All (Sliced link.tokens))
    (made : ∀ front back, links = front ++ back →
      Sliced (tokens ++ front.flatMap Link.all) (chained first front)) :
    (chained first links).All (Sliced (tokens ++ links.flatMap Link.all)) := by
  -- The last operation is the root of the tree, so the links are taken away from behind.
  induction links using List.reverseRecOn with
  | nil => simpa [chained] using all
  | append_singleton links link ih =>
    have own := made (links ++ [link]) [] (by simp)
    have left := ih (fun other member => each other (by simp [member]))
      fun front back split => made front (back ++ [link]) (by simp [split])
    have right := each link (by simp)
    rw [chained, List.foldl_append] at own ⊢
    refine ⟨own, ?_, ?_⟩
    · simpa [chained] using all_within left [] link.all
    · simpa [Link.all] using all_within right (tokens ++ links.flatMap Link.all ++ [link.sign]) []

end

theorem Derives.sliced {phrase : Phrase} {tokens : List Token} {node : Node}
    (derived : Derives phrase tokens node) : node.All (Sliced tokens) := by
  have pair {name opening comma closing : Token} {tokens others : List Token} {left right : Node}
      (all : left.All (Sliced tokens)) (all' : right.All (Sliced others)) :
      left.All (Sliced (name :: opening :: tokens ++ comma :: others ++ [closing])) ∧
        right.All (Sliced (name :: opening :: tokens ++ comma :: others ++ [closing])) := by
    constructor
    · simpa using all_within all [name, opening] (comma :: others ++ [closing])
    · simpa using all_within all' (name :: opening :: tokens ++ [comma]) [closing]
  induction derived with
  | number kind => exact (Derives.number kind).whole
  | symbol kind => exact (Derives.symbol kind).whole
  | @group opening closing tokens inner opens derived closes ih =>
    refine Node.all_iff.mpr ⟨(Derives.group opens derived closes).whole, fun child member => ?_⟩
    rw [Node.children_withSpan] at member
    have below := (Node.all_iff.mp ih).2 child member
    simpa using all_within below [opening] [closing]
  | @trig name opening closing tokens argument function kind word opens derived closes ih =>
    refine ⟨(Derives.trig function kind word opens derived closes).whole, ?_⟩
    simpa using all_within ih [name, opening] [closing]
  | power kind word opens derived separates derived' closes ih ih' =>
    exact ⟨(Derives.power kind word opens derived separates derived' closes).whole, pair ih ih'⟩
  | root kind word opens derived separates derived' closes ih ih' =>
    exact ⟨(Derives.root kind word opens derived separates derived' closes).whole, pair ih ih'⟩
  | alone _ ih => exact ih
  | @beside tokens others left right derived derived' ih ih' =>
    refine ⟨(Derives.beside derived derived').whole, ?_, ?_⟩
    · simpa using all_within ih [] others
    · simpa using all_within ih' tokens []
  | product derived signed derivations ih ih' =>
    refine sliced_chained ih ih' fun front back split => ?_
    subst split
    exact (Derives.product derived (fun link member => signed link (by simp [member]))
      fun link member => derivations link (by simp [member])).whole
  | sum derived signed derivations ih ih' =>
    refine sliced_chained ih ih' fun front back split => ?_
    subst split
    exact (Derives.sum derived (fun link member => signed link (by simp [member]))
      fun link member => derivations link (by simp [member])).whole

/-- The least stretch over tokens that stand one behind the other. -/
structure Extent (tokens : List Token) (span : Span) : Prop where
  covers : ∀ token ∈ tokens, token.span.Within span
  least : ∀ {outer}, Spread outer tokens → span.Within outer

theorem Statement.extent {tokens : List Token} {node : Node} {outer : Span}
    (shape : Statement tokens node) (spread : Spread outer tokens) :
    ∃ span, node.span = some span ∧ Extent tokens span := by
  obtain ⟨span, found, covers⟩ := shape.covers spread
  refine ⟨span, found, covers, fun spread' => ?_⟩
  obtain ⟨_, found', within⟩ := (shape.placed spread').inside
  cases found.symm.trans found'
  exact within

def tokensWithin (span : Span) (tokens : List Token) : List Token :=
  tokens.filter fun token => span.start ≤ token.span.start ∧ token.span.stop ≤ span.stop

section

variable {outer span : Span} {before part after : List Token}

theorem Extent.tokensWithin_eq (extent : Extent part span)
    (spread : Spread outer (before ++ (part ++ after)))
    (wide : ∀ token ∈ before ++ after, token.span.start < token.span.stop) :
    tokensWithin span (before ++ (part ++ after)) = part := by
  have outside : ∀ token ∈ before ++ after,
      ¬ (span.start ≤ token.span.start ∧ token.span.stop ≤ span.stop) := by
    intro token member ⟨start, stop⟩
    have forward := wide token member
    rcases List.mem_append.mp member with member | member
    · obtain ⟨front, back, rfl⟩ := List.append_of_mem member
      have behind := (@Spread.sides _ front _ token (by simpa using spread)).2
      have inner := extent.least (behind.sublist (by simp : part.Sublist (back ++ (part ++ after))))
      have least : token.span.stop ≤ span.start := inner.start
      omega
    · obtain ⟨front, back, rfl⟩ := List.append_of_mem member
      have ahead := (@Spread.sides _ (before ++ (part ++ front)) back token (by simpa using spread)).1
      have inner := extent.least (ahead.sublist (by simp : part.Sublist (before ++ (part ++ front))))
      have most : span.stop ≤ token.span.start := inner.stop
      omega
  have inside : ∀ token ∈ part, span.start ≤ token.span.start ∧ token.span.stop ≤ span.stop :=
    fun token member => ⟨(extent.covers token member).start, (extent.covers token member).stop⟩
  have front : tokensWithin span before = [] := by
    refine List.filter_eq_nil_iff.mpr fun token member => ?_
    simpa using outside token (List.mem_append_left _ member)
  have middle : tokensWithin span part = part := by
    refine List.filter_eq_self.mpr fun token member => ?_
    simpa using inside token member
  have back : tokensWithin span after = [] := by
    refine List.filter_eq_nil_iff.mpr fun token member => ?_
    simpa using outside token (List.mem_append_right _ member)
  have parts : tokensWithin span (before ++ (part ++ after)) =
      tokensWithin span before ++ (tokensWithin span part ++ tokensWithin span after) := by
    simp [tokensWithin]
  rw [parts, front, middle, back, List.nil_append, List.append_nil]

end

theorem Statement.back {tokens : List Token} {node : Node} (shape : Statement tokens node) :
    ∃ front last, tokens = front ++ [last] ∧ last.kind ∉ [TokenKind.endOfLine, .endOfText] := by
  have ends {phrase : Phrase} {tokens : List Token} {node : Node}
      (derived : Derives phrase tokens node) :
      ∃ front last, tokens = front ++ [last] ∧ last.kind ∉ [TokenKind.endOfLine, .endOfText] := by
    obtain ⟨front, last, rfl⟩ := (List.eq_nil_or_concat' tokens).resolve_left derived.filled
    have notLine := derived.lacks (by decide : .endOfLine ∈ foreignKinds) last (by simp)
    have notText := derived.lacks (by decide : .endOfText ∈ foreignKinds) last (by simp)
    exact ⟨front, last, rfl, by simp [notLine, notText]⟩
  cases shape with
  | directive _ _ _ _ _ closes => exact ⟨_, _, rfl, by simp [closes]⟩
  | @equation tokens others sign _ _ _ _ derived' =>
    obtain ⟨front, last, rfl, inner⟩ := ends derived'
    exact ⟨tokens ++ sign :: front, last, by simp, inner⟩
  | term derived => exact ends derived

theorem Statement.before_closing {body before part after : List Token} {source : String} {stop : Nat}
    {node : Node} (shape : Statement part node)
    (split : body ++ Token.closing source stop = before ++ (part ++ after)) :
    ∃ rest, after = rest ++ Token.closing source stop ∧ body = before ++ (part ++ rest) := by
  rw [← List.append_assoc] at split
  rcases List.append_eq_append_iff.mp split with ⟨more, whole, closed⟩ | ⟨more, whole, rfl⟩
  · rcases List.eq_nil_or_concat' more with rfl | ⟨more, other, rfl⟩
    · exact ⟨[], by simpa using closed.symm, by simpa using whole.symm⟩
    · obtain ⟨front, last, rfl, inner⟩ := shape.back
      rw [← List.append_assoc, ← List.append_assoc] at whole
      obtain ⟨_, same⟩ := List.append_inj' whole rfl
      obtain ⟨rfl, _⟩ := List.cons.inj same
      have kinds : ∀ token ∈ Token.closing source stop,
          token.kind ∈ [TokenKind.endOfLine, .endOfText] := by
        simp [Token.closing]
      exact absurd (kinds last (by simp [closed])) inner
  · exact ⟨more, rfl, by simpa using whole⟩

theorem tokensWithin_closing (span : Span) (source : String) (stop : Nat) :
    tokensWithin span (Token.closing source stop) = [] ∨
      tokensWithin span (Token.closing source stop) = Token.closing source stop := by
  by_cases inside : span.start ≤ stop ∧ stop ≤ span.stop
  · right
    simp [tokensWithin, Token.closing, inside]
  · left
    simp only [tokensWithin, Token.closing, List.filter_cons, inside, decide_false]
    rfl

theorem Statement.tokensWithin_eq {source text : String} {before part after : List Token} {node : Node}
    (scanned : Token.scan source text = .ok (before ++ (part ++ after))) (shape : Statement part node) :
    ∃ span closing, node.span = some span ∧
      tokensWithin span (before ++ (part ++ after)) = part ++ closing ∧
        (closing = [] ∨ closing = Token.closing source text.length) := by
  have spread := spread_of_scan scanned
  obtain ⟨span, found, extent⟩ := shape.extent (spread.sublist (by simp : part.Sublist _))
  obtain ⟨pieces, decomposed, split⟩ := Lexis.tokens_of_scan scanned
  obtain ⟨rest, rfl, body⟩ := shape.before_closing split.symm
  have laid := Lexis.laid_tokensFrom decomposed source 0
  have wide : ∀ token ∈ before ++ rest, token.span.start < token.span.stop := by
    intro token member
    have listed : token ∈ before ++ (part ++ rest) := by
      simp only [List.mem_append] at member ⊢
      exact member.imp_right .inr
    exact (laid.stands token (body ▸ listed)).bounds.2.2.1
  have inner : Spread _ (before ++ (part ++ rest)) := spread.sublist (by simp)
  refine ⟨span, tokensWithin span (Token.closing source text.length), found, ?_,
    tokensWithin_closing span source text.length⟩
  have parts : tokensWithin span (before ++ (part ++ (rest ++ Token.closing source text.length))) =
      tokensWithin span (before ++ (part ++ rest)) ++
        tokensWithin span (Token.closing source text.length) := by
    simp [tokensWithin]
  rw [parts, extent.tokensWithin_eq inner wide]

theorem ofTokens_stop {rest : Stream} (isText : rest.current.kind = .endOfText) :
    Node.ofTokens rest.tokens = .ok [] := by
  rw [ofTokens_tokens, Stream.bound, Reader.statements, isText]

theorem Statement.read_closed {part closing : List Token} {node : Node} {source : String} {stop : Nat}
    (shape : Statement part node) (decimals : Decimals part) (legible : Legible part)
    (closed : closing = [] ∨ closing = Token.closing source stop) {line last : Token}
    (isEnd : line.kind = .endOfLine) (isText : last.kind = .endOfText) :
    Node.ofTokens (part ++ closing ++ [line, last]) = .ok [node] := by
  have finish {ending : Token} {rest : Stream} (ends : ending.kind = .endOfLine)
      (stops : rest.current.kind = .endOfText) (finite : rest.last.kind = .endOfText) :
      Node.ofTokens (part ++ ending :: rest.tokens) = .ok [node] := by
    have finite : rest.Ends := by
      rw [Stream.Ends, finite]
      decide
    rw [ofTokens_line shape decimals legible ends finite, ofTokens_stop stops]
    rfl
  rcases closed with rfl | rfl
  · have read := @finish line ⟨last, []⟩ isEnd isText isText
    simpa [Stream.tokens] using read
  · have read := @finish ⟨.endOfLine, "", source, stop, stop⟩
      ⟨⟨.endOfText, "", source, stop, stop⟩, [line, last]⟩ rfl rfl isText
    simpa [Stream.tokens, Token.closing] using read

/-- The tokens within the span of the node, with the end of a script behind them, are read as that one
statement. -/
def Recovers (tokens : List Token) (node : Node) : Prop :=
  ∃ span, node.span = some span ∧ ∀ line last : Token, line.kind = .endOfLine →
    last.kind = .endOfText →
      Node.ofTokens (tokensWithin span tokens ++ [line, last]) = .ok [node]

theorem Statement.recovers {source text : String} {tokens before part after : List Token} {node : Node}
    (scanned : Token.scan source text = .ok tokens) (split : tokens = before ++ (part ++ after))
    (shape : Statement part node) (legible : Legible part) : Recovers tokens node := by
  subst split
  have decimals : Decimals part := (scanned_of_scan scanned).decimals.mono (by simp +contextual)
  obtain ⟨span, closing, found, within, closed⟩ := shape.tokensWithin_eq scanned
  refine ⟨span, found, fun line last isEnd isText => ?_⟩
  rw [within]
  exact shape.read_closed decimals legible closed isEnd isText

theorem Derives.recovers {source text : String} {tokens before part after : List Token} {term : Node}
    (scanned : Token.scan source text = .ok tokens) (split : tokens = before ++ (part ++ after))
    (derived : Derives .sum part term) : term.All fun node => Recovers tokens node.alone := by
  refine derived.sliced.mono fun node sliced => ?_
  obtain ⟨front, slice, back, rfl, own⟩ := sliced
  have split' : tokens = (before ++ front) ++ (slice ++ (back ++ after)) := by
    rw [split]
    simp
  exact (Statement.term own).recovers scanned split' (legible_of_plain own.plain)

/-- The spans of a script are exact. The tokens within the span of a statement are read as that
statement, and those within the span of a node of an expression as a line with that node alone. Only the
left side of a line without an equals sign comes from no tokens. -/
theorem ofTokens_recovers {source text : String} {tokens : List Token} {nodes : List Node}
    (scanned : Token.scan source text = .ok tokens) (read : Node.ofTokens tokens = .ok nodes)
    {node : Node} (member : node ∈ nodes) :
    Recovers tokens node ∧ ∀ left right span, node = .equals left right span →
      right.All (fun part => Recovers tokens part.alone) ∧
      (left.All (fun part => Recovers tokens part.alone) ∨
        node = right.alone ∧ ∀ stretch, node.span = some stretch →
          ∀ token ∈ tokensWithin stretch tokens, token.kind ≠ .equals) := by
  obtain ⟨program, legible⟩ := (scanned_of_scan scanned).program read
  obtain ⟨before, part, after, split, shape⟩ := program.statement_of_mem member
  rw [split] at legible
  refine ⟨shape.recovers scanned split legible.right.left, fun left right span same => ?_⟩
  subst same
  cases shape with
  | @equation first others sign _ _ derived _ derived' =>
    have split' : tokens = before ++ (first ++ (sign :: others ++ after)) := by simp [split]
    have split'' : tokens = (before ++ first ++ [sign]) ++ (others ++ after) := by simp [split]
    exact ⟨derived'.recovers scanned split'', .inl (derived.recovers scanned split')⟩
  | term derived =>
    refine ⟨derived.recovers scanned split, .inr ⟨rfl, fun stretch found token inside => ?_⟩⟩
    subst split
    obtain ⟨_, closing, found', within, closed⟩ := (Statement.term derived).tokensWithin_eq scanned
    cases found.symm.trans found'
    rw [within] at inside
    rcases List.mem_append.mp inside with inside | inside
    · exact derived.lacks (by decide) token inside
    · rcases closed with rfl | rfl
      · cases inside
      · have kinds : ∀ other ∈ Token.closing source text.length, other.kind ≠ .equals := by
          simp [Token.closing]
        exact kinds token inside

theorem ofTokens_recovers_group : ∃ tokens node group,
    Token.scan "curve" "x(x+y)" = .ok tokens ∧ Node.ofTokens tokens = .ok [node] ∧
    group = Node.arithmetic .add (.symbol "x" (some ⟨"curve", 2, 3⟩))
      (.symbol "y" (some ⟨"curve", 4, 5⟩)) (some ⟨"curve", 1, 6⟩) ∧
    Recovers tokens node ∧ Recovers tokens group.alone := by
  let tokens : List Token := [⟨.symbol, "x", "curve", 0, 1⟩, ⟨.leftParen, "", "curve", 1, 2⟩,
    ⟨.symbol, "x", "curve", 2, 3⟩, ⟨.plus, "", "curve", 3, 4⟩, ⟨.symbol, "y", "curve", 4, 5⟩,
    ⟨.rightParen, "", "curve", 5, 6⟩, ⟨.endOfLine, "", "curve", 6, 6⟩,
    ⟨.endOfText, "", "curve", 6, 6⟩]
  let group : Node := .arithmetic .add (.symbol "x" (some ⟨"curve", 2, 3⟩))
    (.symbol "y" (some ⟨"curve", 4, 5⟩)) (some ⟨"curve", 1, 6⟩)
  let term : Node := .arithmetic .mul (.symbol "x" (some ⟨"curve", 0, 1⟩)) group
    (some ⟨"curve", 0, 6⟩)
  have scanned : Token.scan "curve" "x(x+y)" = .ok tokens := by decide +kernel
  have read : Node.ofTokens tokens = .ok [term.alone] := rfl
  obtain ⟨whole, sides⟩ := ofTokens_recovers scanned read List.mem_cons_self
  obtain ⟨_, _, inner⟩ := (sides _ _ _ rfl).1
  exact ⟨tokens, term.alone, group, scanned, read, rfl, whole, inner.self⟩

end Grammar

end PlotScript

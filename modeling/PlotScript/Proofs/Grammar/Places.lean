import PlotScript.Proofs.Grammar
import PlotScript.Proofs.Lexis.Place
import PlotScript.Proofs.Parts
import PlotScript.Proofs.Span

namespace PlotScript

open PlotScript.Span (Inside)

namespace Node

/-- The node has a span, and the spans of its children lie within it. -/
def Holds (node : Node) : Prop :=
  ∃ span, node.span = some span ∧ ∀ child ∈ node.children, Inside child.span span

def Before (first second : Node) : Prop :=
  ∃ span span', first.span = some span ∧ second.span = some span' ∧ span.stop ≤ span'.start

/-- A whole tree of spans within each other, all of it within one stretch. -/
structure Placed (outer : Span) (node : Node) : Prop where
  nested : node.All Holds
  inside : Inside node.span outer

section

variable {inner outer span : Span} {left right part node : Node}

theorem Placed.mono (placed : Placed inner node) (within : inner.Within outer) : Placed outer node :=
  ⟨placed.nested, placed.inside.trans within⟩

theorem Placed.child (placed : Placed outer node) (member : part ∈ node.children) :
    Placed outer part := by
  obtain ⟨⟨span, found, holds⟩, below⟩ := all_iff.mp placed.nested
  obtain ⟨same, found', within⟩ := placed.inside
  cases found.symm.trans found'
  exact ⟨below part member, (holds part member).trans within⟩

theorem Placed.of_children (found : node.span = some span) (within : span.Within outer)
    (children : ∀ child ∈ node.children, Placed span child) : Placed outer node := by
  have holds : node.Holds := ⟨span, found, fun child member => (children child member).inside⟩
  have below : ∀ child ∈ node.children, child.All Holds :=
    fun child member => (children child member).nested
  exact ⟨all_iff.mpr ⟨holds, below⟩, span, found, within⟩

theorem Placed.join (placed : Placed outer left) (placed' : Placed outer right)
    (sides : node.children = [left, right]) (hull : node.span = Span.hull? left.span right.span) :
    Placed outer node := by
  obtain ⟨first, found, within⟩ := placed.inside
  obtain ⟨second, found', within'⟩ := placed'.inside
  obtain ⟨inFirst, inSecond⟩ := Span.within_hull within within'
  rw [found, found'] at hull
  refine .of_children hull (within.hull within') ?_
  rw [sides]
  simp only [List.forall_mem_cons]
  exact ⟨⟨placed.nested, first, found, inFirst⟩, ⟨placed'.nested, second, found', inSecond⟩, by simp⟩

theorem Placed.all (placed : Placed outer node) : node.All fun part => Inside part.span outer := by
  induction node using children_induction with
  | step node ih => exact all_iff.mpr ⟨placed.inside, fun child member =>
      ih child member (placed.child member)⟩

end

end Node

namespace Grammar

open Node (Placed)

structure Spread (outer : Span) (tokens : List Token) : Prop where
  within : ∀ token ∈ tokens, token.span.Within outer
  apart : tokens.Pairwise fun first second => first.span.stop ≤ second.span.start

section

variable {outer : Span} {tokens others : List Token}

theorem Spread.sublist (spread : Spread outer tokens) (part : others.Sublist tokens) :
    Spread outer others :=
  ⟨fun token member => spread.within token (part.mem member), spread.apart.sublist part⟩

theorem Spread.between {first last : Token} (spread : Spread outer (first :: tokens ++ [last])) :
    (first.span.hull last.span).Within outer ∧ Spread (first.span.hull last.span) tokens := by
  have opens := spread.within first (by simp)
  have closes := spread.within last (by simp)
  obtain ⟨behind, apart⟩ := List.pairwise_cons.mp spread.apart
  obtain ⟨apart, _, before⟩ := List.pairwise_append.mp apart
  refine ⟨opens.hull closes, ?_, apart⟩
  intro token member
  have inner := spread.within token (by simp [member])
  have left := behind token (by simp [member])
  have right := before token member last (by simp)
  refine ⟨inner.source.trans opens.source.symm, ?_, inner.forward, ?_⟩
  · exact Int.le_trans (Int.min_le_left ..) (Int.le_trans opens.forward left)
  · exact Int.le_trans right (Int.le_trans closes.forward (Int.le_max_right ..))

theorem Spread.sides {line : Token} (spread : Spread outer (tokens ++ line :: others)) :
    Spread ⟨outer.source, outer.start, line.span.start⟩ tokens ∧
      Spread ⟨outer.source, line.span.stop, outer.stop⟩ others := by
  obtain ⟨front, back, across⟩ := List.pairwise_append.mp spread.apart
  obtain ⟨behind, back⟩ := List.pairwise_cons.mp back
  constructor
  · refine ⟨fun token member => ?_, front⟩
    have inner := spread.within token (by simp [member])
    exact ⟨inner.source, inner.start, inner.forward, across token member line (by simp)⟩
  · refine ⟨fun token member => ?_, back⟩
    have inner := spread.within token (by simp [member])
    exact ⟨inner.source, behind token member, inner.forward, inner.stop⟩

end

theorem placed_chained {outer : Span} {first : Node} {links : List Link}
    (placed : Placed outer first) (each : ∀ link ∈ links, Placed outer link.node) :
    Placed outer (chained first links) := by
  induction links generalizing first with
  | nil => exact placed
  | cons link links ih =>
    obtain ⟨head, tail⟩ := List.forall_mem_cons.mp each
    have left : Placed outer (joined link.operator first link.node) := placed.join head rfl rfl
    exact ih left tail

theorem sublist_links {links : List Link} {link : Link} (member : link ∈ links) :
    link.tokens.Sublist (links.flatMap Link.all) := by
  have listed : link.all ∈ links.map Link.all := List.mem_map_of_mem member
  have whole : link.tokens.Sublist link.all := List.sublist_cons_self ..
  exact whole.trans (List.infix_of_mem_flatten listed).sublist

theorem Derives.placed {phrase : Phrase} {tokens : List Token} {node : Node} {outer : Span}
    (derived : Derives phrase tokens node) (spread : Spread outer tokens) : Placed outer node := by
  -- The outer stretch varies: what stands between parentheses is placed within them.
  induction derived generalizing outer with
  | @number token _ | @symbol token _ =>
    exact .of_children rfl (spread.within token List.mem_cons_self) (by simp [Node.children])
  | group _ _ _ ih =>
    obtain ⟨within, between⟩ := spread.between
    refine .of_children (Node.span_withSpan ..) within fun child member => ?_
    rw [Node.children_withSpan] at member
    exact (ih between).child member
  | trig function _ _ _ _ _ ih =>
    obtain ⟨within, between⟩ := spread.between
    have argument := ih (between.sublist (List.sublist_cons_self ..))
    exact .of_children rfl within (by simpa [Node.children] using argument)
  | @power name opening comma closing tokens others base exponent _ _ _ _ _ _ _ ih ih'
  | @root name opening comma closing tokens others base exponent _ _ _ _ _ _ _ ih ih' =>
    obtain ⟨within, between⟩ := @Spread.between _ (opening :: tokens ++ comma :: others) _ _ spread
    have front : tokens.Sublist (opening :: tokens ++ comma :: others) :=
      (List.sublist_append_left ..).cons opening
    have back : others.Sublist (opening :: tokens ++ comma :: others) :=
      (List.sublist_cons_self ..).trans (List.sublist_append_right ..)
    have first := ih (between.sublist front)
    have second := ih' (between.sublist back)
    exact .of_children rfl within (by simpa [Node.children] using ⟨first, second⟩)
  | alone _ ih => exact ih spread
  | beside _ _ ih ih' =>
    have left := ih (spread.sublist (List.sublist_append_left ..))
    have right := ih' (spread.sublist (List.sublist_append_right ..))
    exact left.join right rfl rfl
  | product _ _ _ ih ih' | sum _ _ _ ih ih' =>
    have links := spread.sublist (List.sublist_append_right ..)
    refine placed_chained (ih (spread.sublist (List.sublist_append_left ..))) fun link among => ?_
    exact ih' link among (links.sublist (sublist_links among))

theorem Statement.placed {tokens : List Token} {node : Node} {outer : Span}
    (shape : Statement tokens node) (spread : Spread outer tokens) : Placed outer node := by
  cases shape with
  | @directive hash name opening closing known tokens _ _ _ _ _ _ _ =>
    obtain ⟨within, _⟩ := @Spread.between _ (name :: opening :: tokens) _ _ spread
    exact .of_children rfl within (by simp [Node.children])
  | equation derived _ derived' =>
    have left := derived.placed (spread.sublist (List.sublist_append_left ..))
    have right := derived'.placed (spread.sublist (by simp))
    exact left.join right rfl rfl
  | term derived =>
    have right := derived.placed spread
    obtain ⟨span, found, within⟩ := right.inside
    refine .of_children found within ?_
    simp only [Node.children, List.forall_mem_cons]
    refine ⟨?_, ⟨right.nested, span, found, within.itself⟩, by simp⟩
    exact .of_children found within.itself (by simp [Node.children])

theorem Program.placed {tokens : List Token} {nodes : List Node} {outer : Span}
    (program : Program tokens nodes) (spread : Spread outer tokens) :
    (∀ node ∈ nodes, Placed outer node) ∧ nodes.Pairwise Node.Before := by
  induction program generalizing outer with
  | stop _ => simp
  | empty _ _ ih => exact ih (spread.sublist (List.sublist_cons_self ..))
  | @line tokens rest token node nodes shape _ _ ih =>
    have line := spread.within token (by simp)
    obtain ⟨front, back⟩ := spread.sides
    have head := shape.placed front
    obtain ⟨later, apart⟩ := ih back
    constructor
    · refine List.forall_mem_cons.mpr ⟨?_, fun other member => ?_⟩
      · exact head.mono ⟨rfl, Int.le_refl _, line.start, Int.le_trans line.forward line.stop⟩
      · have below := Int.le_trans line.start line.forward
        exact (later other member).mono ⟨rfl, below, line.stop, Int.le_refl _⟩
    · refine List.pairwise_cons.mpr ⟨fun other member => ?_, apart⟩
      obtain ⟨span, found, within⟩ := head.inside
      obtain ⟨span', found', within'⟩ := (later other member).inside
      refine ⟨span, span', found, found', ?_⟩
      calc
        span.stop ≤ token.span.start := within.stop
        _ ≤ token.span.stop := line.forward
        _ ≤ span'.start := within'.start

theorem spread_of_scan {source text : String} {tokens : List Token}
    (scanned : Token.scan source text = .ok tokens) : Spread ⟨source, 0, text.length⟩ tokens := by
  obtain ⟨pieces, decomposed, rfl⟩ := Lexis.tokens_of_scan scanned
  have laid := Lexis.laid_tokensFrom decomposed source 0
  have inner : ∀ token ∈ Lexis.tokensFrom source 0 pieces,
      token.span.Within ⟨source, 0, text.length⟩ := by
    intro token member
    obtain ⟨same, least, forward, most⟩ := (laid.stands token member).bounds
    rw [Nat.zero_add, String.length_toList] at most
    exact ⟨same, least, Int.le_of_lt forward, most⟩
  have last : ∀ token ∈ Token.closing source text.length,
      token.span = ⟨source, text.length, text.length⟩ := by
    simp [Token.closing]
  have least : (0 : Int) ≤ text.length := Int.natCast_nonneg _
  constructor
  · intro token member
    rcases List.mem_append.mp member with member | member
    · exact inner token member
    · rw [last token member]
      exact ⟨rfl, least, Int.le_refl _, Int.le_refl _⟩
  · refine List.pairwise_append.mpr ⟨laid.ordered, by simp [Token.closing], ?_⟩
    intro token member other closes
    rw [last other closes]
    exact (inner token member).stop

end Grammar

end PlotScript

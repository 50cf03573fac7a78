import PlotScript.Proofs.Lexis.Lines
import PlotScript.Proofs.Lexis.Place

namespace PlotScript

/-- The stretch when `size` characters have been put in at `place`: it moves if it begins there or
later. -/
def Span.makeRoom (place size : Nat) (span : Span) : Span :=
  if place ≤ span.start then span.shift size else span

def Span.Around (span : Span) (place : Nat) : Prop := span.start < place ∧ place < span.stop

instance (span : Span) (place : Nat) : Decidable (span.Around place) :=
  inferInstanceAs (Decidable (_ ∧ _))

namespace Lexis

open Lexeme (isLetter isDigit isWordChar)

theorem Longest.shorten {Shape : List Char → Prop} {run after more : List Char}
    (longest : Longest Shape run (after ++ more)) : Longest Shape run after := by
  refine ⟨longest.1, fun piece rest split shape => longest.2 piece (rest ++ more) ?_ shape⟩
  rw [split, List.append_assoc]

theorem Fits.shorten {piece : Lexeme} {after more : List Char} (fits : Fits piece (after ++ more)) :
    Fits piece after := by
  cases fits with
  | blank isBlank => exact .blank isBlank
  | lineEnd isEnd => exact .lineEnd isEnd
  | word longest allowed => exact .word longest.shorten allowed
  | numeral longest => exact .numeral longest.shorten
  | quotation quoted => exact .quotation quoted
  | sign known => exact .sign known

def AmidLetters (before after : List Char) : Prop :=
  (∃ c ∈ before.getLast?, isLetter c) ∧ ∃ c ∈ after.head?, isLetter c

instance (before after : List Char) : Decidable (AmidLetters before after) :=
  decidable_of_iff (before.getLast?.any isLetter ∧ after.head?.any isLetter)
    (by simp only [AmidLetters, Option.any_eq_true, Option.mem_def])

theorem AmidLetters.of_all {left right : List Char} (filled : left ≠ []) (filled' : right ≠ [])
    (letters : ∀ c ∈ left ++ right, isLetter c) : AmidLetters left right := by
  obtain ⟨c, rest, rfl⟩ := List.exists_cons_of_ne_nil filled'
  refine ⟨⟨left.getLast filled, List.getLast?_eq_some_getLast filled, ?_⟩, c, rfl, ?_⟩
  · exact letters _ (List.mem_append_left _ (List.getLast_mem filled))
  · exact letters c (List.mem_append_right left List.mem_cons_self)

theorem Fits.divided {piece : Lexeme} {after left right : List Char} (fits : Fits piece after)
    (divided : piece.chars = left ++ right) (filled : left ≠ []) (filled' : right ≠ [])
    (source : String) (start : Nat) :
    (∃ token ∈ tokensAt source start piece, token.span.Around (start + left.length)) ∨
      AmidLetters left right := by
  have least := List.length_pos_iff.mpr filled
  have least' := List.length_pos_iff.mpr filled'
  have lengths := congrArg List.length divided
  rw [List.length_append] at lengths
  have around {kind : TokenKind} {value : String} :
      Span.Around (Token.span ⟨kind, value, source, start, start + piece.chars.length⟩)
        (start + left.length) := by
    constructor <;> dsimp only <;> omega
  cases fits with
  | @word letters _ longest allowed =>
    by_cases directive : IsDirective letters
    · rw [tokensAt, if_pos directive]
      exact .inl ⟨_, List.mem_singleton_self _, around⟩
    by_cases function : IsFunction letters
    · rw [tokensAt, if_neg directive, if_pos function]
      exact .inl ⟨_, List.mem_singleton_self _, around⟩
    have plain := (allowed.resolve_left directive).resolve_left function
    exact .inr (.of_all filled filled' (divided ▸ longest.1.letters plain))
  | numeral _ => exact .inl ⟨_, List.mem_singleton_self _, around⟩
  | quotation _ =>
    refine .inl ⟨_, List.mem_singleton_self _, ?_⟩
    constructor
    · dsimp only
      omega
    · simp only [Lexeme.chars, List.length_append, List.length_cons, List.length_nil] at lengths
      dsimp only
      omega
  | _ =>
    simp only [Lexeme.chars, List.length_singleton] at lengths
    omega

theorem Decomposition.split {pieces : List Lexeme} {text before after : List Char}
    (decomposed : Decomposition pieces text) (same : text = before ++ after) (source : String)
    (start : Nat)
    (outside : ∀ token ∈ tokensFrom source start pieces,
      ¬ token.span.Around (start + before.length))
    (apart : ¬ AmidLetters before after) :
    ∃ front back, pieces = front ++ back ∧ Decomposition front before ∧ Decomposition back after := by
  induction decomposed generalizing before start with
  | nil =>
    obtain ⟨rfl, rfl⟩ := List.append_eq_nil_iff.mp same.symm
    exact ⟨[], [], rfl, .nil, .nil⟩
  | @cons piece pieces rest fits later ih =>
    by_cases filled : before = []
    · subst filled
      rw [List.nil_append] at same
      exact ⟨[], piece :: pieces, rfl, .nil, same ▸ .cons fits later⟩
    rcases List.append_eq_append_iff.mp same with ⟨beyond, rfl, rfl⟩ | ⟨shared, divided, rfl⟩
    · obtain ⟨front, back, rfl, first, second⟩ := ih rfl (start + piece.chars.length)
        (fun token member around => outside token (List.mem_append_right _ member)
          (by rwa [List.length_append, ← Nat.add_assoc]))
        fun ⟨⟨c, last, letter⟩, following⟩ =>
          apart ⟨⟨c, by simpa using .inl last, letter⟩, following⟩
      exact ⟨piece :: front, back, rfl, .cons fits.shorten first, second⟩
    · by_cases filled' : shared = []
      · subst filled'
        rw [List.append_nil] at divided
        exact ⟨[piece], pieces, rfl, divided ▸ .single (@Fits.shorten piece [] rest fits), later⟩
      · exfalso
        rcases fits.divided divided filled filled' source start with ⟨token, member, around⟩ | amid
        · exact outside token (List.mem_append_left _ member) around
        · obtain ⟨last, c, first, letter⟩ := amid
          exact apart ⟨last, c, by simpa using .inl first, letter⟩

theorem tokensFrom_append {front : List Lexeme} {text : List Char}
    (decomposed : Decomposition front text) (source : String) (start : Nat) (back : List Lexeme) :
    tokensFrom source start (front ++ back) =
      tokensFrom source start front ++ tokensFrom source (start + text.length) back := by
  induction decomposed generalizing start with
  | nil => rfl
  | @cons piece pieces after fits later ih =>
    rw [List.cons_append, tokensFrom, tokensFrom, ih, List.length_append, List.append_assoc,
      Nat.add_assoc]

theorem tokensFrom_shift {pieces : List Lexeme} {text : List Char}
    (decomposed : Decomposition pieces text) (source : String) (offset start : Nat) :
    tokensFrom source (start + offset) pieces =
      (tokensFrom source start pieces).map (Token.mapSpan (.shift offset)) := by
  induction decomposed generalizing start with
  | nil => rfl
  | @cons piece pieces after fits later ih =>
    obtain ⟨marks, _, placed⟩ := fits.marks
    rw [tokensFrom, tokensFrom, List.map_append, ← placed, ← placed, List.map_map,
      funext (mark_shift source offset start), Nat.add_right_comm, ih]
    rfl

theorem Decomposition.blanks {blanks after : List Char} {pieces : List Lexeme}
    (blank : ∀ c ∈ blanks, c = ' ' ∨ c = '\t') (decomposed : Decomposition pieces after) :
    Decomposition (blanks.map .blank ++ pieces) (blanks ++ after) := by
  induction blanks with
  | nil => exact decomposed
  | cons c rest ih =>
    exact .cons (.blank (blank c List.mem_cons_self))
      (ih fun c member => blank c (List.mem_cons_of_mem _ member))

theorem tokensFrom_blanks (source : String) (start : Nat) (blanks : List Char)
    (pieces : List Lexeme) :
    tokensFrom source start (blanks.map .blank ++ pieces) =
      tokensFrom source (start + blanks.length) pieces := by
  induction blanks generalizing start with
  | nil => rfl
  | cons c rest ih =>
    rw [List.map_cons, List.cons_append, tokensFrom, ih, List.length_cons, Nat.add_comm _ 1,
      ← Nat.add_assoc]
    rfl

theorem Decomposition.spaced {front back : List Lexeme} {before blanks after : List Char}
    (first : Decomposition front before) (second : Decomposition back after)
    (joined : Decomposition (front ++ back) (before ++ after))
    (blank : ∀ c ∈ blanks, c = ' ' ∨ c = '\t') :
    Decomposition (front ++ (blanks.map .blank ++ back)) (before ++ (blanks ++ after)) := by
  cases blanks with
  | nil => exact joined
  | cons c rest =>
    have breaks : Breaks c := by
      rcases blank c List.mem_cons_self with rfl | rfl <;> decide
    exact first.append breaks (second.blanks blank)

theorem mapSpan_makeRoom_of_lt {place size : Nat} {token : Token}
    (less : token.span.start < place) : token.mapSpan (.makeRoom place size) = token := by
  rw [Token.mapSpan, Span.makeRoom, if_neg (Int.not_le.mpr less)]

theorem mapSpan_makeRoom_of_le {place size : Nat} {token : Token}
    (least : place ≤ token.span.start) :
    token.mapSpan (.makeRoom place size) = token.mapSpan (.shift size) := by
  rw [Token.mapSpan, Span.makeRoom, if_pos least, Token.mapSpan]

theorem makeRoom_tokensFrom {front back : List Lexeme} {before after : List Char}
    (first : Decomposition front before) (second : Decomposition back after) (source : String)
    (size : Nat) :
    (tokensFrom source 0 (front ++ back) ++
        Token.closing source (before.length + after.length)).map
          (Token.mapSpan (.makeRoom before.length size)) =
      tokensFrom source 0 front ++ tokensFrom source (before.length + size) back ++
        Token.closing source (before.length + after.length + size) := by
  have ahead : ∀ token ∈ tokensFrom source 0 front,
      token.mapSpan (.makeRoom before.length size) = token := by
    intro token member
    have bounds := ((laid_tokensFrom first source 0).stands token member).bounds
    exact mapSpan_makeRoom_of_lt (by omega)
  have behind : ∀ token ∈ tokensFrom source before.length back,
      token.mapSpan (.makeRoom before.length size) = token.mapSpan (.shift size) := by
    intro token member
    have bounds := ((laid_tokensFrom second source before.length).stands token member).bounds
    exact mapSpan_makeRoom_of_le bounds.2.1
  have last : ∀ token ∈ Token.closing source (before.length + after.length),
      token.mapSpan (.makeRoom before.length size) = token.mapSpan (.shift size) := by
    intro token member
    refine mapSpan_makeRoom_of_le ?_
    simp only [Token.closing, List.mem_cons, List.not_mem_nil, or_false] at member
    rcases member with rfl | rfl <;> dsimp only <;> omega
  rw [tokensFrom_append first, Nat.zero_add, List.map_append, List.map_append,
    List.map_congr_left ahead, List.map_id', List.map_congr_left behind, ← tokensFrom_shift second,
    List.map_congr_left last, ← closing_shift]

theorem scan_spaced {source before after blanks : String} {tokens : List Token}
    (scanned : Token.scan source (before ++ after) = .ok tokens)
    (outside : ∀ token ∈ tokens, ¬ token.span.Around before.length)
    (apart : ¬ AmidLetters before.toList after.toList)
    (blank : ∀ c ∈ blanks.toList, c = ' ' ∨ c = '\t') :
    Token.scan source (before ++ blanks ++ after) =
      .ok (tokens.map (Token.mapSpan (.makeRoom before.length blanks.length))) := by
  obtain ⟨pieces, decomposed, rfl⟩ := tokens_of_scan scanned
  rw [String.toList_append] at decomposed
  obtain ⟨front, back, rfl, first, second⟩ := decomposed.split rfl source 0
    (fun token member => by
      rw [Nat.zero_add, String.length_toList]
      exact outside token (List.mem_append_left _ member)) apart
  have found := scanFrom_of_decomposition (first.spaced second decomposed blank) source 0
  have room := makeRoom_tokensFrom first second source blanks.length
  simp only [String.length_toList] at room
  rw [Token.scan, String.append_assoc, String.toList_append, String.toList_append, found,
    String.length_append, room, tokensFrom_append first, tokensFrom_blanks]
  simp [String.length_toList, Nat.add_assoc, Nat.add_comm]

end Lexis

end PlotScript

import PlotScript.Proofs.Lexis.Munch

namespace PlotScript

def Span.shift (offset : Nat) (span : Span) : Span :=
  ⟨span.source, span.start + offset, span.stop + offset⟩

theorem Span.shift_hull (offset : Nat) (first second : Span) :
    (first.hull second).shift offset = (first.shift offset).hull (second.shift offset) := by
  simp only [shift, hull, Span.mk.injEq, true_and]
  omega

section

variable (move : Span → Span)

def Token.mapSpan (token : Token) : Token := { token with span := move token.span }

def Diagnostic.mapSpan (diagnostic : Diagnostic) : Diagnostic :=
  { diagnostic with span := diagnostic.span.map move }

end

namespace Lexis

open Lexeme (isLetter isDigit isWordChar)

theorem mark_shift (source : String) (offset start : Nat) (mark : Mark) :
    mark.at source (start + offset) = (mark.at source start).mapSpan (.shift offset) := by
  simp only [Mark.at, Token.mapSpan, Span.shift, Token.mk.injEq, Span.mk.injEq, true_and]
  omega

theorem misfit_shift (source : String) (offset start : Nat) (misfit : Misfit) :
    misfit.at source (start + offset) = (misfit.at source start).mapSpan (.shift offset) := by
  simp only [Misfit.at, Diagnostic.mapSpan, Span.shift, Diagnostic.mk.injEq, Option.map_some,
    Option.some.injEq, Span.mk.injEq, true_and]
  omega

theorem closing_shift (source : String) (offset stop : Nat) :
    Token.closing source (stop + offset) =
      (Token.closing source stop).map (Token.mapSpan (.shift offset)) := by
  simp [Token.closing, Token.mapSpan, Span.shift]

theorem scanFrom_shift (source : String) (offset start passed : Nat) (text : List Char) :
    Token.scanFrom source (start + offset) passed text =
      ((Token.scanFrom source start passed text).map
        (List.map (Token.mapSpan (.shift offset)))).mapError (Diagnostic.mapSpan (.shift offset)) := by
  induction text generalizing start passed with
  | nil => exact congrArg Except.ok (closing_shift source offset start)
  | cons first rest ih =>
    have further : start + offset + 1 = start + 1 + offset := Nat.add_right_comm ..
    cases passed with
    | succ passed =>
      rw [Token.scanFrom, Token.scanFrom, further]
      exact ih (start + 1) passed
    | zero =>
      rw [Token.scanFrom, Token.scanFrom]
      cases Lexeme.next first rest with
      | error misfit => exact congrArg Except.error (misfit_shift source offset start misfit)
      | ok found =>
        obtain ⟨piece, _⟩ := found
        dsimp only
        cases piece.marks with
        | error misfit => exact congrArg Except.error (misfit_shift source offset start misfit)
        | ok marks =>
          dsimp only
          rw [further, ih (start + 1)]
          cases Token.scanFrom source (start + 1) (piece.chars.length - 1) rest with
          | error _ => rfl
          | ok tokens =>
            refine congrArg Except.ok ?_
            simp [funext (mark_shift source offset start)]

/-- No word and no numeral goes on with the character. -/
def Breaks (c : Char) : Prop := isWordChar c = false ∧ isDigit c = false ∧ c ≠ '.'

instance (c : Char) : Decidable (Breaks c) := inferInstanceAs (Decidable (_ ∧ _ ∧ _))

theorem Breaks.not_mem_word {c : Char} (breaks : Breaks c) {chars : List Char}
    (shape : WordRun chars) : c ∉ chars := by
  obtain ⟨first, rest, rfl, letter, inside⟩ := shape
  intro member
  rcases List.mem_cons.mp member with rfl | member
  · have isWord : isWordChar c = true := by simp [isWordChar, letter]
    rw [breaks.1] at isWord
    cases isWord
  · have isWord := inside c member
    rw [breaks.1] at isWord
    cases isWord

theorem Breaks.not_mem_numeral {c : Char} (breaks : Breaks c) {chars : List Char}
    (shape : NumeralRun chars) : c ∉ chars := by
  obtain ⟨notWord, notDigit, notPoint⟩ := breaks
  obtain ⟨first, rest, rfl, digit, tail, _⟩ := shape
  intro member
  rcases List.mem_cons.mp member with rfl | member
  · rw [notDigit] at digit
    cases digit
  · rcases tail c member with digit | rfl | point
    · rw [notDigit] at digit
      cases digit
    · cases notWord
    · exact notPoint point

theorem Longest.extend {Shape : List Char → Prop} {run after : List Char}
    (longest : Longest Shape run after) {c : Char} (absent : ∀ {chars}, Shape chars → c ∉ chars)
    (more : List Char) : Longest Shape run (after ++ c :: more) := by
  refine ⟨longest.1, fun piece rest split shape => ?_⟩
  -- A longer piece either lies within the old text or reaches over the break.
  rcases List.append_eq_append_iff.mp split with ⟨back, rfl, remaining⟩ | ⟨back, rfl, _⟩
  · cases back with
    | nil => exact longest.2 _ [] (by simp) shape
    | cons head back =>
      obtain ⟨rfl, _⟩ := List.cons.inj remaining
      exact absurd (by simp) (absent shape)
  · exact longest.2 piece back rfl shape

theorem Fits.extend {piece : Lexeme} {after : List Char} (fits : Fits piece after) {c : Char}
    (breaks : Breaks c) (more : List Char) : Fits piece (after ++ c :: more) := by
  cases fits with
  | blank isBlank => exact .blank isBlank
  | lineEnd isEnd => exact .lineEnd isEnd
  | word longest allowed => exact .word (longest.extend breaks.not_mem_word more) allowed
  | numeral longest => exact .numeral (longest.extend breaks.not_mem_numeral more)
  | quotation quoted => exact .quotation quoted
  | sign known => exact .sign known

theorem Decomposition.append {pieces others : List Lexeme} {text more : List Char} {c : Char}
    (first : Decomposition pieces text) (breaks : Breaks c)
    (second : Decomposition others (c :: more)) :
    Decomposition (pieces ++ others) (text ++ c :: more) := by
  induction first with
  | nil => exact second
  | cons fits _ ih =>
    rw [List.append_assoc]
    exact .cons (fits.extend breaks more) ih

theorem scanFrom_append {pieces : List Lexeme} {text : List Char}
    (decomposed : Decomposition pieces text) {c : Char} (breaks : Breaks c) (source : String)
    (start : Nat) (more : List Char) :
    Token.scanFrom source start 0 (text ++ c :: more) =
      (Token.scanFrom source (start + text.length) 0 (c :: more)).map
        (tokensFrom source start pieces ++ ·) := by
  induction decomposed generalizing start with
  | nil =>
    cases scanned : Token.scanFrom source (start + 0) 0 (c :: more) <;>
      exact scanned
  | @cons piece pieces after fits _ ih =>
    obtain ⟨first, rest, whole, read⟩ := (fits.extend breaks more).next
    obtain ⟨marks, marked, placed⟩ := fits.marks
    rw [List.append_assoc, whole, Token.scanFrom_lexeme read marked, ih, placed, List.length_append,
      Nat.add_assoc, tokensFrom]
    cases Token.scanFrom source (start + (piece.chars.length + after.length)) 0 (c :: more) with
    | error misfit => rfl
    | ok tokens => exact congrArg Except.ok (List.append_assoc ..).symm

theorem scanFrom_lineEnd (source : String) (start : Nat) (text : List Char) :
    Token.scanFrom source start 0 ('\n' :: text) =
      (Token.scanFrom source (start + 1) 0 text).map
        (⟨.endOfLine, "", source, start, start + 1⟩ :: ·) := by
  have read : Lexeme.next '\n' text = .ok (.lineEnd '\n', text) := rfl
  rw [Token.scanFrom_lexeme read rfl]
  rfl

theorem scan_below {source first : String} {tokens : List Token}
    (scanned : Token.scan source first = .ok tokens) (second : String) :
    Token.scan source (first ++ "\n" ++ second) =
      ((Token.scan source second).map fun others =>
        tokens.dropLast.dropLast ++ ⟨.endOfLine, "", source, first.length, first.length + 1⟩ ::
          others.map (Token.mapSpan (.shift (first.length + 1)))).mapError
            (Diagnostic.mapSpan (.shift (first.length + 1))) := by
  obtain ⟨pieces, decomposed, rfl⟩ := tokens_of_scan scanned
  have front : (tokensFrom source 0 pieces ++
      Token.closing source first.length).dropLast.dropLast = tokensFrom source 0 pieces := by
    simp [Token.closing]
  have breaks : Breaks '\n' := by decide
  have moved := scanFrom_shift source (first.length + 1) 0 0 second.toList
  rw [Nat.zero_add] at moved
  have text : (first ++ "\n" ++ second).toList = first.toList ++ '\n' :: second.toList := by
    simp
  rw [front, Token.scan, text, scanFrom_append decomposed breaks, scanFrom_lineEnd, Nat.zero_add,
    String.length_toList, moved, ← Token.scan]
  cases Token.scan source second <;> rfl

end Lexis

end PlotScript

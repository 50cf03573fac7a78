import PlotScript.Diagnostic

/-!
Lexemes: the longest pieces at the front of a script that mean something together. A piece is found
without knowing where in the script it stands; `Lexeme.next_append` says that the piece and the
rest make up the text, and `Lexeme.next_length` that the rest is shorter.
-/

namespace PlotScript

inductive Lexeme
  | blank (char : Char)
  | lineEnd (char : Char)
  /-- Letters and underscores, beginning with a letter. -/
  | word (letters : List Char)
  /-- Digits, underscores and at most one point, beginning with a digit. -/
  | numeral (chars : List Char)
  /-- The characters between two double quotes, and the text they stand for. -/
  | quotation (inside : List Char) (value : List Char)
  | sign (char : Char) (kind : TokenKind)
  deriving DecidableEq, Repr

/-- Why no lexeme begins here: the cause concerns `width` characters from `offset`. -/
structure Misfit where
  cause : Cause
  offset : Nat
  width : Nat
  deriving DecidableEq

namespace Lexeme

def isLetter (c : Char) : Bool := 'a' ≤ c && c ≤ 'z'

def isWordChar (c : Char) : Bool := isLetter c || c == '_'

def isDigit (c : Char) : Bool := '0' ≤ c && c ≤ '9'

def signKind? : Char → Option TokenKind
  | '+' => some .plus
  | '-' => some .minus
  | '*' => some .times
  | '/' => some .divide
  | '=' => some .equals
  | '(' => some .leftParen
  | ')' => some .rightParen
  | '#' => some .hash
  | ',' => some .comma
  | _ => none

def chars : Lexeme → List Char
  | blank char | lineEnd char | sign char _ => [char]
  | word letters => letters
  | numeral chars => chars
  | quotation inside _ => '"' :: inside ++ ['"']

/-- The longest run of digits and underscores, with one point where one is still allowed. -/
def numeralRun (pointAllowed : Bool) : List Char → List Char × List Char
  | [] => ([], [])
  | c :: rest =>
    if c = '.' then
      if pointAllowed then
        let (run, after) := numeralRun false rest
        (c :: run, after)
      else ([], c :: rest)
    else if isDigit c || c == '_' then
      let (run, after) := numeralRun pointAllowed rest
      (c :: run, after)
    else ([], c :: rest)

/-- Reads up to the closing quote: the characters before it, what they stand for, and the rest.
`offset` is where the text stands, counted from the opening quote. -/
def quotationRun (offset : Nat) : List Char → Except Misfit (List Char × List Char × List Char)
  | [] => .error ⟨.scriptEndsInText, offset, 0⟩
  | ['\\'] => .error ⟨.scriptEndsInText, offset + 1, 0⟩
  | '\\' :: c :: rest =>
    match Text.unescape? c with
    | none => .error ⟨.badEscape c, offset + 1, 1⟩
    | some meaning => do
      let (inside, value, after) ← quotationRun (offset + 2) rest
      return ('\\' :: c :: inside, meaning :: value, after)
  | c :: rest =>
    if c = '"' then .ok ([], [], rest)
    else if c = '\n' ∨ c = '\r' then .error ⟨.lineEndsInText, offset, 1⟩
    else do
      let (inside, value, after) ← quotationRun (offset + 1) rest
      return (c :: inside, c :: value, after)

def next (first : Char) (rest : List Char) : Except Misfit (Lexeme × List Char) :=
  if first = ' ' ∨ first = '\t' then .ok (.blank first, rest)
  else if first = '\n' ∨ first = '\r' then .ok (.lineEnd first, rest)
  else if isLetter first then
    .ok (.word (first :: rest.takeWhile isWordChar), rest.dropWhile isWordChar)
  else if isDigit first then
    let (run, after) := numeralRun true rest
    .ok (.numeral (first :: run), after)
  else if first = '"' then do
    let (inside, value, after) ← quotationRun 1 rest
    return (.quotation inside value, after)
  else
    match signKind? first with
    | some kind => .ok (.sign first kind, rest)
    | none => .error ⟨.illegalCharacter first, 0, 1⟩

theorem numeralRun_append (pointAllowed : Bool) (text : List Char) :
    (numeralRun pointAllowed text).1 ++ (numeralRun pointAllowed text).2 = text := by
  induction text generalizing pointAllowed with
  | nil => rfl
  | cons c rest ih =>
    unfold numeralRun
    split
    · split
      · simp [ih]
      · rfl
    · split
      · simp [ih]
      · rfl

theorem quotationRun_append {offset : Nat} {text inside value after : List Char}
    (read : quotationRun offset text = .ok (inside, value, after)) :
    text = inside ++ '"' :: after := by
  fun_induction quotationRun offset text generalizing inside value after with
  | case1 => cases read
  | case2 => cases read
  | case3 => cases read
  | case4 offset c rest meaning known ih =>
    cases inner : quotationRun (offset + 2) rest with
    | error misfit => rw [inner] at read; cases read
    | ok found =>
      rw [inner] at read
      cases read
      simp [ih inner]
  | case5 => cases read; simp_all
  | case6 => cases read
  | case7 offset c rest _ _ _ _ ih =>
    cases inner : quotationRun (offset + 1) rest with
    | error misfit => rw [inner] at read; cases read
    | ok found =>
      rw [inner] at read
      cases read
      simp [ih inner]

theorem next_shape {first : Char} {rest after : List Char} {lexeme : Lexeme}
    (found : next first rest = .ok (lexeme, after)) :
    first :: rest = lexeme.chars ++ after ∧ lexeme.chars ≠ [] := by
  unfold next at found
  split at found
  · cases found; exact ⟨rfl, by simp [chars]⟩
  split at found
  · cases found; exact ⟨rfl, by simp [chars]⟩
  split at found
  · cases found; exact ⟨by simp [chars, List.takeWhile_append_dropWhile], by simp [chars]⟩
  split at found
  · cases found; exact ⟨by simp [chars, numeralRun_append], by simp [chars]⟩
  split at found
  · next isQuote =>
    cases inner : quotationRun 1 rest with
    | error misfit => rw [inner] at found; cases found
    | ok read =>
      rw [inner] at found
      cases found
      exact ⟨by simp [chars, isQuote, quotationRun_append inner], by simp [chars]⟩
  split at found
  · cases found; exact ⟨rfl, by simp [chars]⟩
  · cases found

theorem next_append {first : Char} {rest after : List Char} {lexeme : Lexeme}
    (found : next first rest = .ok (lexeme, after)) : first :: rest = lexeme.chars ++ after :=
  (next_shape found).1

theorem next_length {first : Char} {rest after : List Char} {lexeme : Lexeme}
    (found : next first rest = .ok (lexeme, after)) : after.length ≤ rest.length := by
  obtain ⟨whole, filled⟩ := next_shape found
  have lengths := congrArg List.length whole
  have positive := List.length_pos_iff.mpr filled
  simp only [List.length_cons, List.length_append] at lengths
  omega

end Lexeme

end PlotScript

import PlotScript.Token.Scan

/-!
The lexical grammar, said without a scanner: a script is a row of lexemes, each as long as its
class allows, and each token is spelled by the characters it stands on.
-/

namespace PlotScript.Lexis

open Lexeme (isLetter isDigit isWordChar)

def escapes : List (Char × Char) :=
  [('\\', '\\'), ('n', '\n'), ('\n', '\n'), ('t', '\t'), ('\'', '\''), ('"', '"')]

def signs : List (Char × TokenKind) :=
  [('+', .plus), ('-', .minus), ('*', .times), ('/', .divide), ('=', .equals),
    ('(', .leftParen), (')', .rightParen), ('#', .hash), (',', .comma)]

/-- The characters between two quotes, with the text they stand for. -/
inductive Quoted : List Char → List Char → Prop
  | nil : Quoted [] []
  | plain {c : Char} {inside value : List Char} :
      c ∉ ['\n', '\r', '"', '\\'] → Quoted inside value → Quoted (c :: inside) (c :: value)
  | escaped {c meaning : Char} {inside value : List Char} :
      (c, meaning) ∈ escapes → Quoted inside value →
        Quoted ('\\' :: c :: inside) (meaning :: value)

def WordRun (chars : List Char) : Prop :=
  ∃ first rest, chars = first :: rest ∧ isLetter first ∧ ∀ c ∈ rest, isWordChar c

/-- Digits and underscores with at most `points` points among them. -/
def NumeralTail (points : Nat) (chars : List Char) : Prop :=
  (∀ c ∈ chars, isDigit c ∨ c = '_' ∨ c = '.') ∧ chars.count '.' ≤ points

def NumeralRun (chars : List Char) : Prop :=
  ∃ first rest, chars = first :: rest ∧ isDigit first ∧ NumeralTail 1 rest

/-- No longer piece of the text has the shape. -/
def Longest (Shape : List Char → Prop) (run after : List Char) : Prop :=
  Shape run ∧ ∀ more rest, after = more ++ rest → Shape (run ++ more) → more = []

def IsDirective (letters : List Char) : Prop := ∃ name : DirectiveName, letters = name.word.toList

def IsFunction (letters : List Char) : Prop := ∃ name : FunctionName, letters = name.word.toList

instance (letters : List Char) : Decidable (IsDirective letters) :=
  decidable_of_iff (∃ name ∈ DirectiveName.all, letters = name.word.toList)
    ⟨fun ⟨name, _, same⟩ => ⟨name, same⟩, fun ⟨name, same⟩ => ⟨name, by cases name <;> decide, same⟩⟩

instance (letters : List Char) : Decidable (IsFunction letters) :=
  decidable_of_iff (∃ name ∈ FunctionName.all, letters = name.word.toList)
    ⟨fun ⟨name, _, same⟩ => ⟨name, same⟩, fun ⟨name, same⟩ => ⟨name, by cases name <;> decide, same⟩⟩

/-- A lexeme as the grammar has it, in front of the text that follows. -/
inductive Fits : Lexeme → List Char → Prop
  | blank {c : Char} {after : List Char} : c = ' ' ∨ c = '\t' → Fits (.blank c) after
  | lineEnd {c : Char} {after : List Char} : c = '\n' ∨ c = '\r' → Fits (.lineEnd c) after
  | word {letters after : List Char} :
      Longest WordRun letters after →
        IsDirective letters ∨ IsFunction letters ∨ '_' ∉ letters → Fits (.word letters) after
  | numeral {chars after : List Char} :
      Longest NumeralRun chars after → Fits (.numeral chars) after
  | quotation {inside value after : List Char} :
      Quoted inside value → Fits (.quotation inside value) after
  | sign {c : Char} {kind : TokenKind} {after : List Char} :
      (c, kind) ∈ signs → Fits (.sign c kind) after

inductive Decomposition : List Lexeme → List Char → Prop
  | nil : Decomposition [] []
  | cons {piece : Lexeme} {pieces : List Lexeme} {after : List Char} :
      Fits piece after → Decomposition pieces after →
        Decomposition (piece :: pieces) (piece.chars ++ after)

def letterTokens (source : String) (start : Nat) : List Char → List Token
  | [] => []
  | c :: rest =>
    ⟨.symbol, c.toString, source, start, start + 1⟩ :: letterTokens source (start + 1) rest

def tokensAt (source : String) (start : Nat) : Lexeme → List Token
  | .blank _ => []
  | .lineEnd _ => [⟨.endOfLine, "", source, start, start + 1⟩]
  | .word letters =>
    if IsDirective letters then
      [⟨.directive, String.ofList letters, source, start, start + letters.length⟩]
    else if IsFunction letters then
      [⟨.function, String.ofList letters, source, start, start + letters.length⟩]
    else letterTokens source start letters
  | .numeral chars =>
    [⟨.number, String.ofList (chars.filter (· ≠ '_')), source, start, start + chars.length⟩]
  | .quotation inside value =>
    [⟨.string, String.ofList value, source, start, start + (inside.length + 2)⟩]
  | .sign _ kind => [⟨kind, "", source, start, start + 1⟩]

def tokensFrom (source : String) (start : Nat) : List Lexeme → List Token
  | [] => []
  | piece :: pieces =>
    tokensAt source start piece ++ tokensFrom source (start + piece.chars.length) pieces

/-- A row of digits, perhaps with a point behind the first or a later one. -/
def IsDecimal (chars : List Char) : Prop :=
  ∃ whole, whole ≠ [] ∧ (∀ c ∈ whole, isDigit c) ∧
    (chars = whole ∨ ∃ fraction, (∀ c ∈ fraction, isDigit c) ∧ chars = whole ++ '.' :: fraction)

/-- What the characters under a token say about it. -/
inductive Spells : List Char → TokenKind → String → Prop
  | sign {c : Char} {kind : TokenKind} : (c, kind) ∈ signs → Spells [c] kind ""
  | lineEnd {c : Char} : c = '\n' ∨ c = '\r' → Spells [c] .endOfLine ""
  | directive (name : DirectiveName) : Spells name.word.toList .directive name.word
  | function (name : FunctionName) : Spells name.word.toList .function name.word
  | letter {c : Char} : isLetter c → Spells [c] .symbol c.toString
  | number {chars : List Char} {value : String} :
      NumeralRun chars → value.toList = chars.filter (· ≠ '_') → IsDecimal value.toList →
        Spells chars .number value
  | string {inside : List Char} {value : String} :
      Quoted inside value.toList → Spells ('"' :: inside ++ ['"']) .string value

/-- The token stands on characters of the text that spell it; the text begins at `start`. -/
def Stands (source : String) (start : Nat) (text : List Char) (token : Token) : Prop :=
  ∃ before spelling after, text = before ++ spelling ++ after ∧ spelling ≠ [] ∧
    token.span = ⟨source, (start + before.length : Nat),
      (start + before.length + spelling.length : Nat)⟩ ∧
    Spells spelling token.kind token.value

def Covers (token : Token) (offset : Nat) : Prop :=
  token.span.start ≤ offset ∧ offset < token.span.stop

/-- Tokens in their order on a text that begins at `start`, apart from each other, with only blanks
between them. -/
structure Laid (source : String) (start : Nat) (text : List Char) (tokens : List Token) : Prop where
  stands : ∀ token ∈ tokens, Stands source start text token
  ordered : tokens.Pairwise fun first second => first.span.stop ≤ second.span.start
  blanks : ∀ before c after, text = before ++ c :: after →
    (∀ token ∈ tokens, ¬ Covers token (start + before.length)) → c = ' ' ∨ c = '\t'

end PlotScript.Lexis

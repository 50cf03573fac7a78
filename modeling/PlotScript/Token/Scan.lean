import PlotScript.Token.Lexeme

namespace PlotScript

/-- A token that does not yet know where its lexeme stands. -/
structure Mark where
  kind : TokenKind
  value : String
  offset : Nat
  width : Nat
  deriving DecidableEq, Repr

def Mark.at (source : String) (start : Nat) (mark : Mark) : Token :=
  let first := start + mark.offset
  ⟨mark.kind, mark.value, source, first, first + mark.width⟩

def Misfit.at (source : String) (start : Nat) (misfit : Misfit) : Diagnostic :=
  let first := start + misfit.offset
  ⟨misfit.cause, some ⟨source, first, first + misfit.width⟩⟩

namespace Lexeme

def letterMarks (offset : Nat) : List Char → List Mark
  | [] => []
  | c :: rest => ⟨.symbol, c.toString, offset, 1⟩ :: letterMarks (offset + 1) rest

/-- A word is a keyword or a row of letters; only keywords hold underscores. -/
def wordMarks (letters : List Char) : Except Misfit (List Mark) :=
  let word := String.ofList letters
  if (DirectiveName.ofWord? word).isSome then .ok [⟨.directive, word, 0, letters.length⟩]
  else if (FunctionName.ofWord? word).isSome then .ok [⟨.function, word, 0, letters.length⟩]
  else
    match letters.findIdx? (· = '_') with
    | some offset => .error ⟨.illegalCharacter '_', offset, 1⟩
    | none => .ok (letterMarks 0 letters)

def marks (lexeme : Lexeme) : Except Misfit (List Mark) :=
  match lexeme with
  | blank _ => .ok []
  | lineEnd _ => .ok [⟨.endOfLine, "", 0, 1⟩]
  | word letters => wordMarks letters
  | numeral chars => .ok [⟨.number, String.ofList (chars.filter (· ≠ '_')), 0, chars.length⟩]
  | quotation _ value => .ok [⟨.string, String.ofList value, 0, lexeme.chars.length⟩]
  | sign _ kind => .ok [⟨kind, "", 0, 1⟩]

end Lexeme

namespace Token

def closing (source : String) (stop : Nat) : List Token :=
  [⟨.endOfLine, "", source, stop, stop⟩, ⟨.endOfText, "", source, stop, stop⟩]

/-- The tokens of a text that stands at `start` and whose first `passed` characters belong to a
lexeme that has been read. -/
def scanFrom (source : String) (start passed : Nat) : List Char → Except Diagnostic (List Token)
  | [] => .ok (closing source start)
  | first :: rest =>
    match passed with
    | passed + 1 => scanFrom source (start + 1) passed rest
    | 0 =>
      match Lexeme.next first rest with
      | .error misfit => .error (misfit.at source start)
      | .ok (lexeme, _) =>
        match lexeme.marks with
        | .error misfit => .error (misfit.at source start)
        | .ok marks => do
          let tokens ← scanFrom source (start + 1) (lexeme.chars.length - 1) rest
          return marks.map (Mark.at source start) ++ tokens

def scan (source text : String) : Except Diagnostic (List Token) :=
  scanFrom source 0 0 text.toList

theorem scanFrom_passed (source : String) (start : Nat) (passed rest : List Char) :
    scanFrom source start passed.length (passed ++ rest) =
      scanFrom source (start + passed.length) 0 rest := by
  induction passed generalizing start with
  | nil => rfl
  | cons first passed ih =>
    simp only [List.length_cons, List.cons_append, scanFrom, ih]
    congr 1
    omega

theorem scanFrom_lexeme {source : String} {start : Nat} {first : Char} {rest after : List Char}
    {lexeme : Lexeme} {marks : List Mark} (found : Lexeme.next first rest = .ok (lexeme, after))
    (marked : lexeme.marks = .ok marks) :
    scanFrom source start 0 (first :: rest) =
      (scanFrom source (start + lexeme.chars.length) 0 after).map
        (marks.map (Mark.at source start) ++ ·) := by
  obtain ⟨whole, filled⟩ := Lexeme.next_shape found
  obtain ⟨head, tail, split⟩ := List.exists_cons_of_ne_nil filled
  rw [split, List.cons_append, List.cons.injEq] at whole
  have passed := scanFrom_passed source (start + 1) tail after
  have offset : start + lexeme.chars.length = start + 1 + tail.length := by
    rw [split, List.length_cons]
    omega
  rw [offset, ← passed, ← whole.2]
  simp only [scanFrom, found, marked, split, List.length_cons, Nat.add_sub_cancel]
  rfl

end Token

end PlotScript

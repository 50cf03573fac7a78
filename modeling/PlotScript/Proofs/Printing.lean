import PlotScript.Node.Printer
import PlotScript.Proofs.Lexis
import PlotScript.Proofs.Numeral.Printed

/-!
Trees as lines of a script. The trees that a script can write are told apart from all others, and the
lexemes of a printed tree are listed without its text.
-/

namespace PlotScript

/-- The number is printed without an exponent, and not as a word, and its text reads back. -/
def Decimal.Plain (number : Float) : Prop :=
  'e' ∉ (general number).toList ∧ general number ≠ "inf" ∧
    Literal.read? (general number) = some number

instance (number : Float) : Decidable (Decimal.Plain number) :=
  inferInstanceAs (Decidable (_ ∧ _ ∧ _))

namespace Node

def numbers : Node → List Float
  | number value _ => [value]
  | symbol _ _ | directive _ _ => []
  | trig _ argument _ => argument.numbers
  | equals left right _ | arithmetic _ left right _ | power left right _ | root left right _ _ =>
    left.numbers ++ right.numbers

def line : Node → String
  | equals left right _ => between left.text "=" right.text
  | node => node.text

theorem agrees_self {node : Node} (numbers : ∀ value ∈ node.numbers, value == value) :
    node.agrees node := by
  induction node <;> simp_all [agrees, Node.numbers, or_imp, forall_and]

end Node

def Directive.integers : Directive → List Int
  | frame x y width height => [x, y, width, height]
  | resolution width height => [width, height]
  | output _ | printNow => []

namespace Printing

/-- The trees that a script can write as an expression. -/
inductive Expression : Node → Prop
  | number {chars : List Char} {span : Option Span} :
      Lexis.IsDecimal chars → Expression (.number (Numeral.value chars) span)
  | symbol {c : Char} {span : Option Span} :
      Lexeme.isLetter c → Expression (.symbol c.toString span)
  | arithmetic {operator : Operator} {left right : Node} {span : Option Span} :
      Expression left → Expression right → Expression (.arithmetic operator left right span)
  | trig {function : Trig} {argument : Node} {span : Option Span} :
      Expression argument → Expression (.trig function argument span)
  | power {base exponent : Node} {span : Option Span} :
      Expression base → Expression exponent → Expression (.power base exponent span)
  | root {degree radicand : Node} {span : Option Span} :
      Expression degree → Expression radicand → Expression (.root degree radicand true span)

/-- The trees that a script can write as a statement. Its integers are not too long to be read, and a
text in it has no carriage return. -/
inductive Sentence : Node → Prop
  | equals {left right : Node} {span : Option Span} :
      Expression left → Expression right → Sentence (.equals left right span)
  | directive {command : Directive} {span : Option Span} :
      (∀ number ∈ command.integers, number.natAbs < 10 ^ Text.Integer.digitLimit) →
        (∀ path, command = .output path → '\r' ∉ path.toList) → Sentence (.directive command span)

def opening : Lexeme := .sign '(' .leftParen

def closing : Lexeme := .sign ')' .rightParen

def comma : Lexeme := .sign ',' .comma

def space : Lexeme := .blank ' '

def callLexemes (name : String) (arguments : List (List Lexeme)) : List Lexeme :=
  .word name.toList :: opening :: [comma, space].intercalate arguments ++ [closing]

def integerLexemes (number : Int) : List Lexeme :=
  if 0 ≤ number then [.numeral (Nat.toDigits 10 number.toNat)]
  else [.sign '-' .minus, .numeral (Nat.toDigits 10 (-number).toNat)]

def operatorLexeme : Operator → Lexeme
  | .add => .sign '+' .plus
  | .sub => .sign '-' .minus
  | .mul => .sign '*' .times
  | .div => .sign '/' .divide

def betweenLexemes (left : List Lexeme) (sign : Lexeme) (right : List Lexeme) : List Lexeme :=
  left ++ space :: sign :: space :: right

def pathLexeme (path : String) : Lexeme :=
  .quotation (path.toList.flatMap Text.visibleChar) path.toList

def directiveLexemes : Directive → List Lexeme
  | .frame x y width height =>
    callLexemes "frame" [integerLexemes x, integerLexemes y, integerLexemes width, integerLexemes height]
  | .resolution width height => callLexemes "resolution" [integerLexemes width, integerLexemes height]
  | .output path => callLexemes "export" [[pathLexeme path]]
  | .printNow => callLexemes "print_now" []

def lexemes : Node → List Lexeme
  | .number value _ => [.numeral (Decimal.general value).toList]
  | .symbol name _ => [.word name.toList]
  | .equals left right _ => betweenLexemes (lexemes left) (.sign '=' .equals) (lexemes right)
  | .arithmetic operator left right _ =>
    opening :: betweenLexemes (lexemes left) (operatorLexeme operator) (lexemes right) ++ [closing]
  | .trig function argument _ => callLexemes function.word [lexemes argument]
  | .power base exponent _ => callLexemes "pow" [lexemes base, lexemes exponent]
  | .root degree radicand _ _ => callLexemes "root" [lexemes degree, lexemes radicand]
  | .directive command _ => .sign '#' .hash :: directiveLexemes command

theorem Expression.finite_or_infinite {node : Node} (expression : Expression node) {value : Float}
    (member : value ∈ node.numbers) :
    (∃ significand exponent, Binary64.ofFloat value = .finite false significand exponent) ∨
      Binary64.ofFloat value = .infinite false := by
  induction expression with
  | number _ =>
    rw [List.mem_singleton.mp member]
    exact Numeral.ofFloat_value _
  | symbol _ => cases member
  | trig _ ih => exact ih member
  | arithmetic _ _ ih ih' | power _ _ ih ih' | root _ _ ih ih' =>
    exact (List.mem_append.mp member).elim ih ih'

theorem Expression.beq_self {node : Node} (expression : Expression node) {value : Float}
    (member : value ∈ node.numbers) : value == value := by
  have isNumber : Binary64.IsNumber value := by
    rcases expression.finite_or_infinite member with ⟨_, _, finite⟩ | infinite
    · simp [Binary64.IsNumber, finite]
    · simp [Binary64.IsNumber, infinite]
  exact Binary64.beq_iff.mpr ⟨isNumber, isNumber, rfl⟩

theorem Sentence.beq_self {node : Node} (sentence : Sentence node) {value : Float}
    (member : value ∈ node.numbers) : value == value := by
  cases sentence with
  | equals left right => exact (List.mem_append.mp member).elim left.beq_self right.beq_self
  | directive _ _ => cases member

theorem Expression.plain_decimal {node : Node} (expression : Expression node) {number : Float}
    (member : number ∈ node.numbers) (plain : Decimal.Plain number) :
    Lexis.IsDecimal (Decimal.general number).toList ∧
      Numeral.value (Decimal.general number).toList = number := by
  obtain ⟨positional, notWord, back⟩ := plain
  have decimal : Lexis.IsDecimal (Decimal.general number).toList := by
    rcases expression.finite_or_infinite member with ⟨_, _, finite⟩ | infinite
    · exact Numeral.isDecimal_general finite positional
    · simp [Decimal.general, infinite, Decimal.render] at notWord
  have read := Numeral.read?_decimal decimal
  rw [String.ofList_toList, back, Option.some_inj] at read
  exact ⟨decimal, read.symm⟩

end Printing

end PlotScript

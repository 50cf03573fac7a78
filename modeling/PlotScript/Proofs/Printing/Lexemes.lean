import Mathlib.Data.List.Forall2
import PlotScript.Proofs.Lexis.Lines
import PlotScript.Proofs.Lexis.Place
import PlotScript.Proofs.Printing

namespace PlotScript

namespace Lexis

open Lexeme (isDigit)

theorem Decomposition.sign {c : Char} {kind : TokenKind} {pieces : List Lexeme} {text : List Char}
    (known : (c, kind) ∈ signs) (rest : Decomposition pieces text) :
    Decomposition (.sign c kind :: pieces) (c :: text) :=
  .cons (.sign known) rest

theorem Decomposition.space {pieces : List Lexeme} {text : List Char}
    (rest : Decomposition pieces text) : Decomposition (.blank ' ' :: pieces) (' ' :: text) :=
  .cons (.blank (.inl rfl)) rest

theorem numeralRun_of_isDecimal {chars : List Char} (decimal : IsDecimal chars) :
    NumeralRun chars := by
  obtain ⟨integral, filled, digits, shape⟩ := decimal
  obtain ⟨first, rest, rfl⟩ := List.exists_cons_of_ne_nil filled
  have noPoint {digits : List Char} (all : ∀ c ∈ digits, isDigit c) : digits.count '.' = 0 := by
    refine List.count_eq_zero.mpr fun member => ?_
    cases all '.' member
  obtain ⟨digit, tail⟩ := List.forall_mem_cons.mp digits
  rcases shape with rfl | ⟨fraction, fractionDigits, rfl⟩
  · exact ⟨first, rest, rfl, digit, fun c member => .inl (tail c member), by simp [noPoint tail]⟩
  · refine ⟨first, rest ++ '.' :: fraction, rfl, digit, fun c member => ?_, ?_⟩
    · rcases List.mem_append.mp member with member | member
      · exact .inl (tail c member)
      · rcases List.mem_cons.mp member with rfl | member
        · exact .inr (.inr rfl)
        · exact .inl (fractionDigits c member)
    · simp [noPoint tail, noPoint fractionDigits]

theorem Decomposition.numeral {chars : List Char} (decimal : IsDecimal chars) :
    Decomposition [.numeral chars] chars :=
  .single (.numeral (.at_end (numeralRun_of_isDecimal decimal)))

end Lexis

namespace Printing

open Lexis

theorem integer_decomposition (number : Int) :
    Decomposition (integerLexemes number) (toString number).toList := by
  have digits (magnitude : Nat) :=
    Decomposition.numeral (Numeral.isDecimal_toDigits magnitude)
  rw [integerLexemes, Int.toString_eq_repr, Int.repr_eq_if]
  split
  · rw [Nat.repr_eq_ofList_toDigits, String.toList_ofList]
    exact digits number.toNat
  · have minus : ('-', TokenKind.minus) ∈ signs := by decide
    rw [Nat.repr_eq_ofList_toDigits]
    simpa using (digits (-number).toNat).sign minus

theorem quoted_visible {text : List Char} (noReturn : '\r' ∉ text) (noTick : '`' ∉ text) :
    Quoted (text.flatMap Text.visibleChar) text := by
  induction text with
  | nil => exact .nil
  | cons c rest ih =>
    rw [List.mem_cons, not_or] at noReturn noTick
    have inside := ih noReturn.2 noTick.2
    rw [List.flatMap_cons, Text.visibleChar.eq_def]
    split
    · exact .escaped (by decide) inside
    · exact .escaped (by decide) inside
    · exact absurd rfl noTick.1
    · exact .escaped (by decide) inside
    · exact .escaped (by decide) inside
    · exact .escaped (by decide) inside
    · next notLine _ _ _ notQuote notEscape =>
      refine .plain ?_ inside
      simp only [List.mem_cons, List.not_mem_nil, or_false, not_or]
      exact ⟨notLine, noReturn.1 ∘ Eq.symm, notQuote, notEscape⟩

theorem path_decomposition {path : String} (noReturn : '\r' ∉ path.toList)
    (noTick : '`' ∉ path.toList) :
    Decomposition [pathLexeme path] ("\"" ++ Text.visible path ++ "\"").toList := by
  have single := Decomposition.single (.quotation (quoted_visible noReturn noTick))
  simpa [Lexeme.chars, Text.visible, pathLexeme] using single

theorem between_decomposition {left right : List Lexeme} {text text' sign : String} {c : Char}
    {kind : TokenKind} (known : (c, kind) ∈ signs) (written : sign.toList = [c])
    (first : Decomposition left text.toList) (second : Decomposition right text'.toList) :
    Decomposition (betweenLexemes left (.sign c kind) right)
      (Node.between text sign text').toList := by
  have breaks : Breaks ' ' := by decide
  have body := first.append breaks (second.space.sign known).space
  simpa [Node.between, betweenLexemes, space, written] using body

theorem operation_decomposition {left right : List Lexeme} {text text' : String}
    (operator : Operator) (first : Decomposition left text.toList)
    (second : Decomposition right text'.toList) :
    Decomposition (opening :: betweenLexemes left (operatorLexeme operator) right ++ [closing])
      ("(" ++ Node.between text operator.sign text' ++ ")").toList := by
  have inside : Decomposition (betweenLexemes left (operatorLexeme operator) right)
      (Node.between text operator.sign text').toList := by
    cases operator <;> exact between_decomposition (by decide) (by simp [Operator.sign]) first second
  have breaks : Breaks ')' := by decide
  have opens : ('(', TokenKind.leftParen) ∈ signs := by decide
  have closes : (')', TokenKind.rightParen) ∈ signs := by decide
  have body := (inside.append breaks (Decomposition.nil.sign closes)).sign opens
  simpa [opening, closing] using body

theorem arguments_decomposition {arguments : List (List Lexeme)} {texts : List String}
    (each : List.Forall₂ (fun pieces text => Decomposition pieces text.toList) arguments texts) :
    Decomposition ([comma, space].intercalate arguments ++ [closing])
      ((listed texts).toList ++ [')']) := by
  have last : Decomposition [closing] [')'] := .sign (by decide) .nil
  simp only [listed, String.toList_intercalate]
  induction each with
  | nil => exact last
  | @cons pieces text arguments texts first others ih =>
    -- Behind an argument stands a comma, or the parenthesis when it is the last.
    cases others with
    | nil =>
      have breaks : Breaks ')' := by decide
      simpa using first.append breaks last
    | cons second others =>
      have breaks : Breaks ',' := by decide
      have separates : (',', TokenKind.comma) ∈ signs := by decide
      have body := first.append breaks (ih.space.sign separates)
      simpa [List.intercalate_cons_cons, comma, space] using body

theorem call_decomposition {name : String} (run : WordRun name.toList)
    (known : IsDirective name.toList ∨ IsFunction name.toList) {arguments : List (List Lexeme)}
    {texts : List String}
    (each : List.Forall₂ (fun pieces text => Decomposition pieces text.toList) arguments texts) :
    Decomposition (callLexemes name arguments) (call name texts).toList := by
  have breaks : Breaks '(' := by decide
  have word : Decomposition [.word name.toList] name.toList :=
    .single (.word (.at_end run) (known.imp_right .inl))
  have opens : ('(', TokenKind.leftParen) ∈ signs := by decide
  have body := word.append breaks ((arguments_decomposition each).sign opens)
  simpa [callLexemes, call, opening] using body

theorem function_decomposition (name : FunctionName) {arguments : List (List Lexeme)}
    {texts : List String}
    (each : List.Forall₂ (fun pieces text => Decomposition pieces text.toList) arguments texts) :
    Decomposition (callLexemes name.word arguments) (call name.word texts).toList :=
  call_decomposition (wordRun_function name) (.inr ⟨name, rfl⟩) each

theorem directive_decomposition (name : DirectiveName) {arguments : List (List Lexeme)}
    {texts : List String}
    (each : List.Forall₂ (fun pieces text => Decomposition pieces text.toList) arguments texts) :
    Decomposition (.sign '#' .hash :: callLexemes name.word arguments)
      (call ("#" ++ name.word) texts).toList := by
  have isHash : ('#', TokenKind.hash) ∈ signs := by decide
  have named := call_decomposition (wordRun_directive name) (.inl ⟨name, rfl⟩) each
  simpa [call] using named.sign isHash

theorem Expression.decomposition {node : Node} (expression : Expression node)
    (plain : ∀ value ∈ node.numbers, Decimal.Plain value) :
    Decomposition (lexemes node) node.text.toList := by
  have one {pieces : List Lexeme} {text : String} (inside : Decomposition pieces text.toList) :
      List.Forall₂ (fun pieces text => Decomposition pieces text.toList) [pieces] [text] :=
    .cons inside .nil
  induction expression with
  | @number chars span decimal =>
    have member : Numeral.value chars ∈ [Numeral.value chars] := List.mem_singleton_self _
    have printed := (@Expression.number chars span decimal).plain_decimal member (plain _ member)
    exact .numeral printed.1
  | symbol letter =>
    rw [lexemes, Node.text]
    simpa using Decomposition.letter letter
  | @arithmetic operator _ _ _ _ _ ih ih' =>
    have both := List.forall_mem_append.mp plain
    exact operation_decomposition operator (ih both.1) (ih' both.2)
  | @trig function argument _ _ ih =>
    have inside := one (ih plain)
    cases function with
    | sin => exact function_decomposition .sin inside
    | cos => exact function_decomposition .cos inside
    | tan => exact function_decomposition .tan inside
  | power _ _ ih ih' =>
    have both := List.forall_mem_append.mp plain
    exact function_decomposition .pow (.cons (ih both.1) (one (ih' both.2)))
  | root _ _ ih ih' =>
    have both := List.forall_mem_append.mp plain
    exact function_decomposition .root (.cons (ih both.1) (one (ih' both.2)))

theorem Sentence.decomposition {node : Node} (sentence : Sentence node)
    (plain : ∀ value ∈ node.numbers, Decimal.Plain value)
    (noTick : ∀ path span, node = .directive (.output path) span → '`' ∉ path.toList) :
    Decomposition (lexemes node) node.line.toList := by
  cases sentence with
  | equals left right =>
    have both := List.forall_mem_append.mp plain
    exact between_decomposition (by decide) (by simp) (left.decomposition both.1)
      (right.decomposition both.2)
  | @directive command span _ noReturn =>
    have integer := integer_decomposition
    cases command with
    | frame x y width height =>
      exact directive_decomposition .frame
        (.cons (integer x) (.cons (integer y) (.cons (integer width) (.cons (integer height) .nil))))
    | resolution width height =>
      exact directive_decomposition .resolution (.cons (integer width) (.cons (integer height) .nil))
    | output path =>
      have written := path_decomposition (noReturn path rfl) (noTick path span rfl)
      exact directive_decomposition .output (.cons written .nil)
    | printNow => exact directive_decomposition .printNow .nil

end Printing

end PlotScript

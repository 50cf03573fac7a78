import PlotScript.Text.Blank
import PlotScript.Text.Digit

namespace PlotScript.Text.Integer

inductive Fault
  | malformed
  | tooLong (digits : Nat)
  deriving DecidableEq, Repr

def digitLimit : Nat := 4300

/-- The digits of a run in which an underscore stands only between two digits. -/
def digits? : List Char → Option (List Nat)
  | [] => none
  | [c] => (digitValue? c).map ([·])
  | c :: '_' :: rest => do return (← digitValue? c) :: (← digits? rest)
  | c :: rest => do return (← digitValue? c) :: (← digits? rest)

def isRunChar (c : Char) : Bool := c == '_' || (digitValue? c).isSome

def unsigned (text : List Char) : Except Fault Nat :=
  match digits? (text.takeWhile isRunChar) with
  | none => .error .malformed
  | some digits =>
    if digitLimit < digits.length then .error (.tooLong digits.length)
    else if (text.dropWhile isRunChar).all isPadding then .ok (numberOf digits)
    else .error .malformed

def read (text : String) : Except Fault Int :=
  match text.toList.dropWhile isPadding with
  | '-' :: rest => (unsigned rest).map fun magnitude => -(magnitude : Int)
  | '+' :: rest => (unsigned rest).map fun magnitude => (magnitude : Int)
  | rest => (unsigned rest).map fun magnitude => (magnitude : Int)

end PlotScript.Text.Integer

import PlotScript.Node.Printer
import PlotScript.Token

/-!
What can go wrong with a script. A `Diagnostic` has a cause and the place it arose; a `Fault` is an
exception that no diagnostic describes; a `Failure` is whatever ends a run.
-/

namespace PlotScript

inductive Expected
  | endOfLine
  | directiveName
  | leftParen
  | rightParen
  | text
  | comma
  | integer
  deriving DecidableEq, Repr

def Expected.label : Expected → String
  | endOfLine => "EOL"
  | directiveName => "HeadFunc"
  | leftParen => "LeftParen"
  | rightParen => "RightParen"
  | text => "String"
  | comma => "Comma"
  | integer => "Integer, Minus"

inductive Cause
  | illegalCharacter (char : Char)
  | badEscape (char : Char)
  | lineEndsInText
  | scriptEndsInText
  | illegalToken
  | missingToken (expected : Expected)
  | unknownDirective (name : String)
  | unknownFunction (name : String)
  | emptyFrame
  | negativeResolution
  | repeatedDirective (name : DirectiveName)
  | unboundVariable (name : String)
  | divisionByZero (node : Node) (x : Float)
  | tooManyBranches (node : Node) (count : Nat) (limit : Int)
  | notAnExpression (node : Node)
  | notWritten (path reason : String)
  | noSpooler (platform : String)
  | spoolerNotRun (program reason : String)
  | spoolerFailed (program : String) (status : Int) (reason : String)
  deriving DecidableEq

namespace Cause

def kind : Cause → String
  | illegalCharacter _ => "IllegalCharacterError"
  | badEscape _ => "EscapeError"
  | lineEndsInText | scriptEndsInText => "EndError"
  | illegalToken => "IllegalTokenError"
  | missingToken _ => "MissingTokenError"
  | unknownDirective _ | unknownFunction _ | notAnExpression _ => "InternalError"
  | emptyFrame | negativeResolution => "InvalidValueError"
  | repeatedDirective _ => "HeaderAlreadyAccessedError"
  | unboundVariable _ => "InvalidVariableError"
  | divisionByZero _ _ => "DivisionByZeroError"
  | tooManyBranches _ _ _ => "BranchLimitError"
  | notWritten _ _ => "ExportError"
  | noSpooler _ => "UnsupportedPlatformError"
  | spoolerNotRun _ _ | spoolerFailed _ _ _ => "PrintCommandError"

def ticked (text : String) : String := "`" ++ text ++ "`"

def message : Cause → String
  | illegalCharacter char =>
    "Illegal character " ++ ticked (Text.visible char.toString) ++ " was found."
  | badEscape char => "Can not escape character: " ++ ticked (Text.visible char.toString) ++ "."
  | lineEndsInText => "Invalid EOL."
  | scriptEndsInText => "Invalid EOF."
  | illegalToken => "Expected (Literal, Variable, Function, LeftParen) not found."
  | missingToken expected => "Expected (" ++ expected.label ++ ") not found."
  | unknownDirective name => "Unknown directive: " ++ ticked name ++ "."
  | unknownFunction name => "Unknown function: " ++ ticked name ++ "."
  | emptyFrame => "Frame width and height must be at least 1."
  | negativeResolution => "Resolution width and height must be at least 0."
  | repeatedDirective name => "Header " ++ ticked name.word ++ " has already been accessed."
  | unboundVariable name => "Variable " ++ ticked name ++ " can not be evaluated."
  | divisionByZero node x =>
    "Division by zero in " ++ ticked node.text ++ " at x = " ++ Decimal.general x ++ "."
  | tooManyBranches node count limit =>
    ticked node.text ++ " produced " ++ toString count ++ " branches (limit " ++ toString limit ++
      ")."
  | notAnExpression node => "Can not evaluate " ++ ticked node.text ++ "."
  | notWritten path reason => "Could not write " ++ ticked path ++ ": " ++ reason
  | noSpooler platform => "No print spooler found on platform " ++ ticked platform ++ "."
  | spoolerNotRun program reason => "Could not run " ++ ticked program ++ ": " ++ reason
  | spoolerFailed program status reason =>
    ticked program ++ " exited with status " ++ toString status ++ ": " ++ reason

end Cause

structure Diagnostic where
  cause : Cause
  span : Option Span
  deriving DecidableEq

namespace Diagnostic

def kind (diagnostic : Diagnostic) : String := diagnostic.cause.kind

def message (diagnostic : Diagnostic) : String := diagnostic.cause.message

def describe (diagnostic : Diagnostic) : String :=
  let headline := diagnostic.kind ++ ": " ++ diagnostic.message
  match diagnostic.span with
  | none => headline
  | some span => headline ++ " (" ++ span.text ++ ")"

end Diagnostic

/-- What a call to the world outside raises. -/
inductive Raised
  | system (text : String)
  | value (text : String)
  /-- Bytes that are no text, an error of a value. -/
  | undecodable (text : String)
  | other (kind text : String)
  deriving DecidableEq, Repr

namespace Raised

def kind : Raised → String
  | system _ => "OSError"
  | value _ => "ValueError"
  | undecodable _ => "UnicodeDecodeError"
  | other kind _ => kind

def text : Raised → String
  | system text | value text | undecodable text | other _ text => text

def isSystem : Raised → Bool
  | system _ => true
  | _ => false

def isValue : Raised → Bool
  | value _ | undecodable _ => true
  | _ => false

end Raised

inductive Fault
  | floatDividedByZero
  | dividedByZero
  | integerOutOfRange
  | quotientOutOfRange
  | byteOutOfRange
  | tooManyDigits (count : Nat)
  | malformedInteger (text : String)
  | malformedNumber (text : String)
  | nullInPath
  /-- A count was compared with a limit that was never given. -/
  | limitMissing
  /-- Reading tokens that never stop starting operands. -/
  | endless
  /-- A call to the world outside raised what is not caught around it. -/
  | outside (raised : Raised)
  deriving DecidableEq, Repr

/-- What is quoted of a malformed integer: only the first characters of a long one. -/
def shownQuote (text : String) : String := String.ofList ((Text.quoted text).toList.take 200)

def Fault.message : Fault → String
  | floatDividedByZero => "float division by zero"
  | dividedByZero => "division by zero"
  | integerOutOfRange => "int too large to convert to float"
  | quotientOutOfRange => "integer division result too large for a float"
  | byteOutOfRange => "bytes must be in range(0, 256)"
  | tooManyDigits count =>
    "Exceeds the limit (4300 digits) for integer string conversion: value has " ++ toString count ++
      " digits; use sys.set_int_max_str_digits() to increase the limit"
  | malformedInteger text => "invalid literal for int() with base 10: " ++ shownQuote text
  | malformedNumber text => "could not convert string to float: " ++ Text.quoted text
  | nullInPath => "embedded null byte"
  | limitMissing => "'>' not supported between instances of 'int' and 'list'"
  | endless => "the tokens never end"
  | outside raised => raised.text

inductive Failure
  | diagnostic (diagnostic : Diagnostic)
  /-- Every diagnostic of one interpretation, in source order. -/
  | interpretation (diagnostics : List Diagnostic)
  | fault (fault : Fault)
  deriving DecidableEq

namespace Failure

def of (cause : Cause) (span : Option Span) : Failure := diagnostic ⟨cause, span⟩

def interpretationMessage (diagnostics : List Diagnostic) : String :=
  toString diagnostics.length ++ " error(s) while interpreting script"

end Failure

end PlotScript

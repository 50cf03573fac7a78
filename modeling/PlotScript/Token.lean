import PlotScript.Span

namespace PlotScript

inductive TokenKind
  | symbol
  | number
  | string
  | plus
  | minus
  | times
  | divide
  | equals
  | leftParen
  | rightParen
  | comma
  | hash
  | directive
  | function
  | endOfLine
  | endOfText
  /-- A kind that no production reads. -/
  | other (name : String)
  deriving DecidableEq, Repr

namespace TokenKind

def name : TokenKind → String
  | symbol => "variable"
  | number => "number"
  | string => "string"
  | plus => "+"
  | minus => "-"
  | times => "*"
  | divide => "/"
  | equals => "="
  | leftParen => "lparen"
  | rightParen => "rparen"
  | comma => ","
  | hash => "#"
  | directive => "headfunc"
  | function => "function"
  | endOfLine => "eol"
  | endOfText => "eof"
  | other name => name

def named : List TokenKind :=
  [symbol, number, string, plus, minus, times, divide, equals, leftParen, rightParen, comma,
    hash, directive, function, endOfLine, endOfText]

def ofName (text : String) : TokenKind :=
  (named.find? fun kind => kind.name == text).getD (other text)

def startsOperand : TokenKind → Bool
  | leftParen | number | symbol | function => true
  | _ => false

end TokenKind

/-- `value` is the text that matters to the parser, empty for signs and marks. -/
structure Token where
  kind : TokenKind
  value : String
  span : Span
  deriving DecidableEq, Repr

def Token.text (token : Token) : String :=
  if token.value.isEmpty then "<" ++ token.kind.name ++ ">"
  else "<" ++ token.kind.name ++ ": " ++ token.value ++ ">"

def Token.form (token : Token) : String :=
  "Token(" ++ Text.quoted token.kind.name ++ ", " ++ Text.quoted token.value ++ ", " ++
    token.span.form ++ ")"

inductive DirectiveName
  | frame
  | resolution
  | output
  | printNow
  deriving DecidableEq, Repr

namespace DirectiveName

def word : DirectiveName → String
  | frame => "frame"
  | resolution => "resolution"
  | output => "export"
  | printNow => "print_now"

def all : List DirectiveName := [frame, resolution, output, printNow]

def ofWord? (text : String) : Option DirectiveName := all.find? fun name => name.word == text

end DirectiveName

inductive FunctionName
  | sin
  | cos
  | tan
  | pow
  | root
  deriving DecidableEq, Repr

namespace FunctionName

def word : FunctionName → String
  | sin => "sin"
  | cos => "cos"
  | tan => "tan"
  | pow => "pow"
  | root => "root"

def all : List FunctionName := [sin, cos, tan, pow, root]

def ofWord? (text : String) : Option FunctionName := all.find? fun name => name.word == text

end FunctionName

end PlotScript

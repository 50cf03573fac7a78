import PlotScript.Token.Scan
import PlotScript.Number.Literal
import PlotScript.Text.Integer

namespace PlotScript

/-- Tokens still to be read; after the last one the last one again. -/
structure Stream where
  current : Token
  later : List Token
  deriving DecidableEq, Repr

def Stream.advance (stream : Stream) : Stream :=
  match stream.later with
  | [] => stream
  | next :: later => ⟨next, later⟩

def Stream.length (stream : Stream) : Nat := stream.later.length + 1

abbrev Reader (α : Type) := Stream → Except Failure (α × Stream)

namespace Reader

def fail {α : Type} (cause : Cause) (token : Token) : Except Failure α :=
  .error (.of cause token.span)

def endless {α : Type} : Except Failure α := .error (.fault .endless)

def expect (kind : TokenKind) (expected : Expected) : Reader Token := fun stream =>
  if stream.current.kind = kind then .ok (stream.current, stream.advance)
  else fail (.missingToken expected) stream.current

def numberOf (token : Token) : Except Failure Node :=
  match Literal.read? token.value with
  | some value => .ok (.number value token.span)
  | none => .error (.fault (.malformedNumber token.value))

def trigCall (function : Trig) (name : Token) (term : Reader Node) : Reader Node := fun stream => do
  let (_, stream) ← expect .leftParen .leftParen stream
  let (argument, stream) ← term stream
  let (close, stream) ← expect .rightParen .rightParen stream
  return (.trig function argument (name.span.hull close.span), stream)

def pairCall (build : Node → Node → Option Span → Node) (name : Token) (term : Reader Node) :
    Reader Node := fun stream => do
  let (_, stream) ← expect .leftParen .leftParen stream
  let (first, stream) ← term stream
  let (_, stream) ← expect .comma .comma stream
  let (second, stream) ← term stream
  let (close, stream) ← expect .rightParen .rightParen stream
  return (build first second (name.span.hull close.span), stream)

def functionCall (term : Reader Node) : Reader Node := fun stream =>
  let name := stream.current
  match FunctionName.ofWord? name.value with
  | none => fail (.unknownFunction name.value) name
  | some .sin => trigCall .sin name term stream.advance
  | some .cos => trigCall .cos name term stream.advance
  | some .tan => trigCall .tan name term stream.advance
  | some .pow => pairCall .power name term stream.advance
  | some .root => pairCall (fun degree radicand => .root degree radicand true) name term stream.advance

def group (term : Reader Node) : Reader Node := fun stream => do
  let (inner, after) ← term stream.advance
  let (close, after) ← expect .rightParen .rightParen after
  return (inner.withSpan (some (stream.current.span.hull close.span)), after)

def operand (term : Reader Node) : Reader Node := fun stream =>
  let token := stream.current
  match token.kind with
  | .leftParen => group term stream
  | .number => do return (← numberOf token, stream.advance)
  | .symbol => .ok (.symbol token.value token.span, stream.advance)
  | .function => functionCall term stream
  | _ => fail .illegalToken token

def join (operator : Operator) (left right : Node) : Node :=
  .arithmetic operator left right (Span.hull? left.span right.span)

/-- A row of operands side by side, multiplied from the right. -/
def juxtaposition (operand : Reader Node) : Nat → Reader Node
  | 0, _ => endless
  | bound + 1, stream => do
    let (left, stream) ← operand stream
    if stream.current.kind.startsOperand then
      let (right, stream) ← juxtaposition operand bound stream
      return (join .mul left right, stream)
    else return (left, stream)

/-- The rest of a row of operands with operators between them, grouped to the left. -/
def rowFrom (operator? : TokenKind → Option Operator) (operand : Reader Node) :
    Nat → Node → Reader Node
  | 0, _, _ => endless
  | bound + 1, left, stream =>
    match operator? stream.current.kind with
    | none => .ok (left, stream)
    | some operator => do
      let (right, stream) ← operand stream.advance
      rowFrom operator? operand bound (join operator left right) stream

def row (operator? : TokenKind → Option Operator) (operand : Reader Node) (bound : Nat) :
    Reader Node := fun stream => do
  let (left, stream) ← operand stream
  rowFrom operator? operand bound left stream

def productOperator? : TokenKind → Option Operator
  | .times => some .mul
  | .divide => some .div
  | _ => none

def sumOperator? : TokenKind → Option Operator
  | .plus => some .add
  | .minus => some .sub
  | _ => none

def term : Nat → Reader Node
  | 0 => fun _ => endless
  | bound + 1 =>
    let factor := juxtaposition (operand (term bound)) bound
    row sumOperator? (row productOperator? factor bound) bound

/-- An equation; a term alone is the right side of one for `y`. -/
def equation (bound : Nat) : Reader Node := fun stream => do
  let (left, stream) ← term bound stream
  if stream.current.kind = .equals then
    let (right, stream) ← term bound stream.advance
    return (.equals left right (Span.hull? left.span right.span), stream)
  else return (.equals (.symbol "y" left.span) left left.span, stream)

def magnitudeOf (token : Token) : Except Failure Int :=
  match Text.Integer.read token.value with
  | .ok value => .ok value
  | .error .malformed => .error (.fault (.malformedInteger token.value))
  | .error (.tooLong count) => .error (.fault (.tooManyDigits count))

def integer : Reader Int := fun stream => do
  let negative := stream.current.kind = .minus
  let stream := if negative then stream.advance else stream
  let token := stream.current
  if token.kind = .number ∧ '.' ∉ token.value.toList then
    let magnitude ← magnitudeOf token
    return (if negative then -magnitude else magnitude, stream.advance)
  else fail (.missingToken .integer) token

def integerThenComma : Reader Int := fun stream => do
  let (value, stream) ← integer stream
  let (_, stream) ← expect .comma .comma stream
  return (value, stream)

def arguments : DirectiveName → Reader Directive
  | .frame => fun stream => do
    let (x, stream) ← integerThenComma stream
    let (y, stream) ← integerThenComma stream
    let (width, stream) ← integerThenComma stream
    let (height, stream) ← integer stream
    return (.frame x y width height, stream)
  | .resolution => fun stream => do
    let (width, stream) ← integerThenComma stream
    let (height, stream) ← integer stream
    return (.resolution width height, stream)
  | .output => fun stream => do
    let (path, stream) ← expect .string .text stream
    return (.output path.value, stream)
  | .printNow => fun stream => .ok (.printNow, stream)

def directive : Reader Node := fun stream => do
  let start := stream.current.span
  let (name, stream) ← expect .directive .directiveName stream.advance
  match DirectiveName.ofWord? name.value with
  | none => fail (.unknownDirective name.value) name
  | some known =>
    let (_, stream) ← expect .leftParen .leftParen stream
    let (command, stream) ← arguments known stream
    let (close, stream) ← expect .rightParen .rightParen stream
    return (.directive command (start.hull close.span), stream)

def statement (bound : Nat) : Reader Node := fun stream =>
  if stream.current.kind = .hash then directive stream else equation bound stream

def statements : Nat → Stream → Except Failure (List Node)
  | 0, _ => endless
  | bound + 1, stream =>
    match stream.current.kind with
    | .endOfText => .ok []
    | .endOfLine => if stream.later.isEmpty then .ok [] else statements bound stream.advance
    | _ => do
      let (node, stream) ← statement bound stream
      let (_, stream) ← expect .endOfLine .endOfLine stream
      return node :: (← statements bound stream)

end Reader

/-- Every reading that ends does so within this bound. -/
def Stream.bound (stream : Stream) : Nat := stream.length + 2

def Node.ofTokens : List Token → Except Failure (List Node)
  | [] => .ok []
  | first :: rest =>
    let stream : Stream := ⟨first, rest⟩
    Reader.statements stream.bound stream

def Node.ofScript (source text : String) : Except Failure (List Node) :=
  match Token.scan source text with
  | .error diagnostic => .error (.diagnostic diagnostic)
  | .ok tokens => Node.ofTokens tokens

end PlotScript

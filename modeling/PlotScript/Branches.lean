import PlotScript.Number.Root

/-!
Values of an expression at one `x`. An implicit root stands for both signs, so an expression has a
list of values, one for every choice of signs that gives a number.
-/

namespace PlotScript

def freeName : String := "x"

def defaultLimit : Int := 4096

def Operator.apply : Operator → Float → Float → Float
  | add => (· + ·)
  | sub => (· - ·)
  | mul => (· * ·)
  | div => (· / ·)

def Trig.apply : Trig → Float → Float
  | sin => Float.sin
  | cos => Float.cos
  | tan => Float.tan

namespace Branches

def within (limit : Int) (node : Node) (count : Nat) : Except Failure Unit :=
  if limit < count then .error (.of (.tooManyBranches node count limit) node.span) else .ok ()

/-- Every left value with every right value, the left ones slower. -/
def pairs (left right : List Float) : List (Float × Float) :=
  left.flatMap fun a => right.map fun b => (a, b)

def cross (limit : Int) (node : Node) (left right : List Float) :
    Except Failure (List (Float × Float)) := do
  within limit node (left.length * right.length)
  return pairs left right

def combine (operation : Float → Float → Float) (pairs : List (Float × Float)) : List Float :=
  pairs.map fun (a, b) => operation a b

def numbers (values : List Float) : List Float := values.filter fun value => !value.isNaN

def signs (explicit : Bool) (root : Float) : List Float :=
  if explicit then [root] else [root, -root]

/-- The roots of every pair; `count` values came before these. -/
def roots (limit : Int) (node : Node) (explicit : Bool) :
    Nat → List (Float × Float) → Except Failure (List Float)
  | _, [] => .ok []
  | count, (degree, radicand) :: rest =>
    match Root.principal degree radicand with
    | .error fault => .error (.fault fault)
    | .ok none => roots limit node explicit count rest
    | .ok (some root) => do
      let found := signs explicit root
      let total := count + found.length
      within limit node total
      return found ++ (← roots limit node explicit total rest)

/-- Quotients, refused as soon as one divisor is zero. -/
def quotients (node : Node) (x : Float) (pairs : List (Float × Float)) :
    Except Failure (List Float) :=
  if pairs.any fun (_, divisor) => divisor == 0 then .error (.of (.divisionByZero node x) node.span)
  else .ok (combine (· / ·) pairs)

def arithmetic (node : Node) (x : Float) (operator : Operator) (pairs : List (Float × Float)) :
    Except Failure (List Float) :=
  match operator with
  | .div => quotients node x pairs
  | _ => .ok (combine operator.apply pairs)

def agree : List Float → List Float → Bool
  | [], [] => true
  | a :: as, b :: bs => a == b && agree as bs
  | _, _ => false

def form (values : List Float) : String :=
  "MultiValue\x7b" ++ listed (values.map Decimal.general) ++ "\x7d"

end Branches

open Branches in
/-- The values at `x`, from the inside out and from left to right; an equation has the differences
of its sides. -/
def Node.branches (limit : Int) (x : Float) : Node → Except Failure (List Float)
  | .number value _ => .ok [value]
  | .symbol name span =>
    if name = freeName then .ok [x] else .error (.of (.unboundVariable name) span)
  | node@(.arithmetic operator left right _) => do
    let a ← left.branches limit x
    let b ← right.branches limit x
    let pairs ← cross limit node a b
    Branches.arithmetic node x operator pairs
  | .trig function argument _ => do
    return (← argument.branches limit x).map function.apply
  | node@(.power base exponent _) => do
    let a ← base.branches limit x
    let b ← exponent.branches limit x
    let pairs ← cross limit node a b
    return numbers (combine Power.power pairs)
  | node@(.root degree radicand explicit _) => do
    let a ← degree.branches limit x
    let b ← radicand.branches limit x
    roots limit node explicit 0 (Branches.pairs a b)
  | node@(.equals left right _) => do
    let a ← left.branches limit x
    let b ← right.branches limit x
    let pairs ← cross limit node a b
    return combine (· - ·) pairs
  | node@(.directive _ span) => .error (.of (.notAnExpression node) span)

end PlotScript

import PlotScript.Span

namespace PlotScript

inductive Operator
  | add
  | sub
  | mul
  | div
  deriving DecidableEq, Repr

inductive Trig
  | sin
  | cos
  | tan
  deriving DecidableEq, Repr

inductive Directive
  | frame (x y width height : Int)
  | resolution (width height : Int)
  | output (path : String)
  | printNow
  deriving DecidableEq, Repr

/-- A tree, each node with the stretch of script it covers. A root is explicit when the script
wrote it, and implicit when it came from undoing a power. -/
inductive Node
  | number (value : Float) (span : Option Span)
  | symbol (name : String) (span : Option Span)
  | equals (left right : Node) (span : Option Span)
  | arithmetic (operator : Operator) (left right : Node) (span : Option Span)
  | trig (function : Trig) (argument : Node) (span : Option Span)
  | power (base exponent : Node) (span : Option Span)
  | root (degree radicand : Node) (explicit : Bool) (span : Option Span)
  | directive (command : Directive) (span : Option Span)
  deriving DecidableEq

namespace Node

def span : Node → Option Span
  | number _ span | symbol _ span | equals _ _ span | arithmetic _ _ _ span | trig _ _ span
  | power _ _ span | root _ _ _ span | directive _ span => span

def withSpan (span : Option Span) : Node → Node
  | number value _ => number value span
  | symbol name _ => symbol name span
  | equals left right _ => equals left right span
  | arithmetic operator left right _ => arithmetic operator left right span
  | trig function argument _ => trig function argument span
  | power base exponent _ => power base exponent span
  | root degree radicand explicit _ => root degree radicand explicit span
  | directive command _ => directive command span

def sides? : Node → Option (Node × Node)
  | equals left right _ | arithmetic _ left right _ => some (left, right)
  | _ => none

def preorder (depth : Nat) : Node → List (Nat × Node)
  | node@(number _ _) | node@(symbol _ _) | node@(directive _ _) => [(depth, node)]
  | node@(trig _ argument _) => (depth, node) :: argument.preorder (depth + 1)
  | node@(equals left right _) | node@(arithmetic _ left right _) =>
    (depth, node) :: left.preorder (depth + 1) ++ right.preorder (depth + 1)
  | node@(power base exponent _) =>
    (depth, node) :: base.preorder (depth + 1) ++ exponent.preorder (depth + 1)
  | node@(root degree radicand _ _) =>
    (depth, node) :: degree.preorder (depth + 1) ++ radicand.preorder (depth + 1)

/-- Equality that ignores spans; numbers are compared as numbers. -/
def agrees : Node → Node → Bool
  | number a _, number b _ => a == b
  | symbol a _, symbol b _ => a == b
  | equals a b _, equals c d _ => a.agrees c && b.agrees d
  | arithmetic f a b _, arithmetic g c d _ => f == g && a.agrees c && b.agrees d
  | trig f a _, trig g b _ => f == g && a.agrees b
  | power a b _, power c d _ => a.agrees c && b.agrees d
  | root a b e _, root c d f _ => a.agrees c && b.agrees d && e == f
  | directive a _, directive b _ => a == b
  | _, _ => false

def listAgrees : List Node → List Node → Bool
  | [], [] => true
  | a :: as, b :: bs => a.agrees b && listAgrees as bs
  | _, _ => false

def distinct (nodes : List Node) : List Node := nodes.eraseDupsBy agrees

theorem span_withSpan (span : Option Span) (node : Node) : (node.withSpan span).span = span := by
  cases node <;> rfl

end Node

end PlotScript

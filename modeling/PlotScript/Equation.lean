import PlotScript.Node

namespace PlotScript

def boundName : String := "y"

namespace Node

def isBound : Node → Bool
  | symbol name _ => name == boundName
  | _ => false

def boundCount : Node → Nat
  | symbol name _ => if name = boundName then 1 else 0
  | number _ _ | directive _ _ => 0
  | trig _ argument _ => argument.boundCount
  | equals left right _ | arithmetic _ left right _ => left.boundCount + right.boundCount
  | power base exponent _ => base.boundCount + exponent.boundCount
  | root degree radicand _ _ => degree.boundCount + radicand.boundCount

end Node

namespace Equation

/-- From `a op known = right` to `a = right inverse known`. -/
def inverse : Operator → Operator
  | .add => .sub
  | .sub => .add
  | .mul => .div
  | .div => .mul

def undoRight (operator : Operator) (known right : Node) (span : Option Span) : Node :=
  match operator with
  | .add => .arithmetic .sub right known span
  | .sub => .arithmetic .sub known right span
  | .mul => .arithmetic .div right known span
  | .div => .arithmetic .div known right span

/-- What `y` equals when `left = right`, `left` holding one `y` that is not below a function of
it, an exponent or a degree. -/
def isolate : Node → Node → Option Node
  | .symbol name _, right => if name = boundName then some right else none
  | .arithmetic operator a b span, right =>
    let span := Span.hull? span right.span
    if a.boundCount ≠ 0 then isolate a (.arithmetic (inverse operator) right b span)
    else isolate b (undoRight operator a right span)
  | .power base exponent span, right =>
    if base.boundCount ≠ 0 then
      isolate base (.root exponent right false (Span.hull? span right.span))
    else none
  | .root degree radicand _ span, right =>
    if radicand.boundCount ≠ 0 then
      isolate radicand (.power right degree (Span.hull? span right.span))
    else none
  | _, _ => none

def solve (left right : Node) : Option Node :=
  if left.boundCount = 1 ∧ right.boundCount = 0 then isolate left right else none

end Equation

end PlotScript

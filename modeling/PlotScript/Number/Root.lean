import PlotScript.Diagnostic
import PlotScript.Number.Power

namespace PlotScript.Root

section Recurrence

variable {α : Type} [Add α] [Sub α] [Mul α] [Div α] [OfNat α 1]

def next (degree radicand guess power : α) : α :=
  ((degree - 1) * guess + radicand / power) / degree

/-- Follows the recurrence until two guesses are close or the steps are used up; nothing when a
power is refused. -/
def descend (power? : α → Option α) (close : α → α → Bool) (degree radicand : α) :
    Nat → α → Option α
  | 0, guess => some guess
  | steps + 1, guess =>
    match power? guess with
    | none => none
    | some power =>
      let following := next degree radicand guess power
      if close guess following then some following
      else descend power? close degree radicand steps following

end Recurrence

def divisor? (base exponent : Float) : Option Float :=
  (Power.checked? base exponent).filter fun power => !(power == 0)

def close (tolerance guess following : Float) : Bool :=
  (following - guess).abs ≤ tolerance * following.abs

def newton (steps : Nat) (tolerance degree radicand : Float) : Except Fault (Option Float) :=
  if radicand == 0 then .ok (some 0)
  else if degree == 0 then .error .floatDividedByZero
  else
    .ok ((descend (fun guess => divisor? guess (degree - 1)) (close tolerance) degree radicand steps
      (radicand / degree)).filter Float.isFinite)

def defaultSteps : Nat := 25

def defaultTolerance : Float := 1e-9

/-- Whether a degree and a radicand have a real root: both finite, the degree above zero, and an odd
whole number when the radicand is below zero. -/
def hasReal (degree radicand : Float) : Bool :=
  degree.isFinite && radicand.isFinite && 0 < degree && (0 ≤ radicand || Power.isOdd degree)

def principal (degree radicand : Float) : Except Fault (Option Float) :=
  if hasReal degree radicand then newton defaultSteps defaultTolerance degree radicand else .ok none

end PlotScript.Root

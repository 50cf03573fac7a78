import PlotScript.Number.Binary64

namespace PlotScript.Power

def notANumber : Float := 0 / 0

def wholeParity? (significand : Nat) (exponent : Int) : Option Bool :=
  if 0 ≤ exponent then some (exponent = 0 ∧ significand % 2 = 1)
  else
    let unit := Nat.pow 2 (-exponent).toNat
    if significand % unit = 0 then some (significand / unit % 2 = 1) else none

/-- Whether a double is a whole number and, if so, whether it is odd; infinities count as even. -/
def parity? (value : Float) : Option Bool :=
  match Binary64.ofFloat value with
  | .nan => none
  | .infinite _ => some false
  | .finite _ significand exponent => wholeParity? significand exponent

def isOdd (value : Float) : Bool := parity? value == some true

def isNegative (value : Float) : Bool :=
  match Binary64.ofFloat value with
  | .nan => false
  | .infinite negative => negative
  | .finite negative _ _ => negative

def ofMagnitude (magnitude exponent : Float) : Float :=
  if magnitude == 1 then 1 else (Float.pow magnitude exponent).abs

/-- The power of a base below zero (the negative zero included): the sign follows the parity of a
whole exponent; no other exponent gives a number, unless the base is zero or infinite. -/
def ofNegative (base exponent : Float) : Float :=
  match parity? exponent with
  | some true => -ofMagnitude base.abs exponent
  | some false => ofMagnitude base.abs exponent
  | none => if base == 0 || base.isInf then ofMagnitude base.abs exponent else notANumber

/-- `base ^ exponent`: a zero exponent and the base one always give one. -/
def power (base exponent : Float) : Float :=
  if exponent == 0 then 1
  else if base == 1 then 1
  else if exponent == 1 then base
  else if base.isNaN || exponent.isNaN then notANumber
  else if isNegative base then ofNegative base exponent
  else ofMagnitude base exponent

/-- The power, refused when finite arguments give none or one beyond the largest double. -/
def checked? (base exponent : Float) : Option Float :=
  let result := power base exponent
  if base.isFinite && exponent.isFinite && !result.isFinite then none else some result

end PlotScript.Power

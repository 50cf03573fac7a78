import PlotScript.Number.Rounding

/-!
The layout of a double: sign, significand and power of two, and the double nearest to a
quotient of whole numbers.
-/

namespace PlotScript

/-- What the bits of a double stand for; a finite one is `± significand * 2 ^ exponent`. -/
inductive Binary64
  | nan
  | infinite (negative : Bool)
  | finite (negative : Bool) (significand : Nat) (exponent : Int)
  deriving DecidableEq, Repr

namespace Binary64

def leastExponent : Int := -1074

def signUnit : Nat := 0x8000000000000000

def exponentUnit : Nat := 0x10000000000000

def infinityBits : Nat := 0x7ff0000000000000

def ofFloat (value : Float) : Binary64 :=
  let bits := value.toBits.toNat
  let negative := decide (signUnit ≤ bits)
  let biased : Nat := bits / exponentUnit % 2048
  let fraction : Nat := bits % exponentUnit
  if biased = 2047 then
    if fraction = 0 then .infinite negative else .nan
  else if biased = 0 then .finite negative fraction leastExponent
  else .finite negative (fraction + exponentUnit) ((biased : Int) - 1075)

/-- The power of two that leaves `num / den` a significand of 53 bits, or the least one. -/
def exponentOf (num den : Nat) : Int :=
  let rough : Int := (num.log2 : Int) - (den.log2 : Int) - 52
  let (scaled, unit) := Rounding.scale 2 num den rough
  max leastExponent (if scaled < exponentUnit * unit then rough - 1 else rough)

/-- The bits of the double nearest to `num / den`, an even significand on a tie;
`none` when that lies beyond the largest double. -/
def nearestBits? (num den : Nat) : Option Nat :=
  if num = 0 then some 0
  else
    let exponent := exponentOf num den
    let (scaled, unit) := Rounding.scale 2 num den exponent
    let bits := (exponent - leastExponent).toNat * exponentUnit + Rounding.nearest scaled unit
    if bits < infinityBits then some bits else none

def signed (negative : Bool) (magnitude : Float) : Float :=
  if negative then -magnitude else magnitude

def ofBits (negative : Bool) (bits : Nat) : Float :=
  signed negative (Float.ofBits bits.toUInt64)

def nearest (negative : Bool) (num den : Nat) : Float :=
  ofBits negative ((nearestBits? num den).getD infinityBits)

def ofInt? (value : Int) : Option Float :=
  (nearestBits? value.natAbs 1).map (ofBits (value < 0))

/-- The double nearest to a quotient, when one is in range; the sign of a zero quotient is the
product of the signs. -/
def ofQuotient? (num den : Int) : Option Float :=
  (nearestBits? num.natAbs den.natAbs).map (ofBits (decide (num < 0) != decide (den < 0)))

end Binary64

end PlotScript

import PlotScript.Number.Binary64

/-!
Decimal text of doubles. Two formats share one printer: six significant digits, and the fewest
digits that read back as the same double.
-/

namespace PlotScript

/-- The positive number `digits * 10 ^ (exponent + 1 - number of digits)`: its first digit
counts units of `10 ^ exponent`. -/
structure Decimal where
  digits : List Char
  exponent : Int
  deriving DecidableEq, Repr

namespace Decimal

def digitCount (n : Nat) : Nat := (Nat.toDigits 10 n).length

/-- The `e` with `10 ^ e ≤ num / den < 10 ^ (e + 1)`. -/
def exponentOf (num den : Nat) : Int :=
  if den ≤ num then (digitCount (num / den) : Int) - 1
  else
    let count := digitCount (den / num)
    if num * Nat.pow 10 (count - 1) = den then 1 - (count : Int) else -(count : Int)

def ofCoefficient (coefficient : Nat) (unit : Int) : Decimal :=
  let digits := Nat.toDigits 10 coefficient
  ⟨(digits.reverse.dropWhile (· = '0')).reverse, unit + digits.length - 1⟩

/-- The nearest decimal of at most `count` significant digits, an even last digit on a tie. -/
def ofQuotient (count : Nat) (num den : Nat) : Decimal :=
  let unit := exponentOf num den - (count - 1)
  let (scaled, divisor) := Rounding.scale 10 num den unit
  ofCoefficient (Rounding.nearest scaled divisor) unit

def bitsOf? (coefficient : Nat) (unit : Int) : Option Nat :=
  let (scaled, divisor) := Rounding.scale 10 coefficient 1 (-unit)
  Binary64.nearestBits? scaled divisor

def readingBack? (bits num den count : Nat) : Option Decimal :=
  let unit := exponentOf num den - (count - 1)
  let (scaled, divisor) := Rounding.scale 10 num den unit
  let below := scaled / divisor
  ([Rounding.nearest scaled divisor, below, below + 1].find? fun coefficient =>
    bitsOf? coefficient unit == some bits).map fun coefficient => ofCoefficient coefficient unit

/-- The decimal of fewest digits that reads as `bits`, which stand for `num / den`;
seventeen digits always do. -/
def shortest (bits num den : Nat) : Decimal :=
  ((List.range 17).findSome? fun fewer => readingBack? bits num den (fewer + 1)).getD
    (ofQuotient 17 num den)

/-- How decimals are laid out: the exponents written without an exponent part, and whether a whole
number shows a zero after its point. -/
structure Style where
  least : Int
  beyond : Int
  showPoint : Bool
  deriving DecidableEq, Repr

/-- Six significant digits, positional from `10 ^ -4` up to and without `10 ^ 6`. -/
def Style.general : Style := ⟨-4, 6, false⟩

def Style.exact : Style := ⟨-4, 16, true⟩

def withFraction (style : Style) (whole fraction : List Char) : List Char :=
  if fraction.isEmpty then
    if style.showPoint then whole ++ ['.', '0'] else whole
  else whole ++ '.' :: fraction

def positional (style : Style) (value : Decimal) : List Char :=
  if value.exponent < 0 then
    withFraction style ['0'] (List.replicate ((-value.exponent).toNat - 1) '0' ++ value.digits)
  else
    let width := value.exponent.toNat + 1
    withFraction style
      (value.digits.take width ++ List.replicate (width - value.digits.length) '0')
      (value.digits.drop width)

def exponentText (exponent : Int) : List Char :=
  let digits := Nat.toDigits 10 exponent.natAbs
  'e' :: (if exponent < 0 then '-' else '+') :: (if digits.length < 2 then '0' :: digits else digits)

def scientific (value : Decimal) : List Char :=
  let fraction := value.digits.drop 1
  value.digits.take 1 ++ (if fraction.isEmpty then [] else '.' :: fraction) ++
    exponentText value.exponent

def text (style : Style) (value : Decimal) : List Char :=
  if style.least ≤ value.exponent ∧ value.exponent < style.beyond then positional style value
  else scientific value

def quotientOf (significand : Nat) (exponent : Int) : Nat × Nat :=
  Rounding.scale 2 significand 1 (-exponent)

def render (style : Style) (digits : Nat → Nat → Decimal) : Binary64 → String
  | .nan => "nan"
  | .infinite negative => if negative then "-inf" else "inf"
  | .finite negative significand exponent =>
    let magnitude :=
      if significand = 0 then withFraction style ['0'] []
      else
        let (num, den) := quotientOf significand exponent
        text style (digits num den)
    String.ofList (if negative then '-' :: magnitude else magnitude)

def general (value : Float) : String :=
  render .general (ofQuotient 6) (.ofFloat value)

def exact (value : Float) : String :=
  render .exact (shortest (value.toBits.toNat % Binary64.signUnit)) (.ofFloat value)

end Decimal

end PlotScript

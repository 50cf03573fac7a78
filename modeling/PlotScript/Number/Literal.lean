import PlotScript.Number.Binary64
import PlotScript.Text.Blank
import PlotScript.Text.Digit

namespace PlotScript.Literal

/-- Digits up to the first character that is none, an underscore only between two digits. -/
def digitRun : List Char → List Nat × List Char
  | [] => ([], [])
  | c :: '_' :: rest =>
    match Text.digitValue? c, digitRun rest with
    | none, _ => ([], c :: '_' :: rest)
    | some digit, ([], _) => ([digit], '_' :: rest)
    | some digit, (digits, after) => (digit :: digits, after)
  | c :: rest =>
    match Text.digitValue? c, digitRun rest with
    | none, _ => ([], c :: rest)
    | some digit, (digits, after) => (digit :: digits, after)

/-- No double lies above `10 ^ 400`, and none but zero below `10 ^ -400`. -/
def decimalReach : Int := 400

def ofDecimal (negative : Bool) (coefficient : Nat) (digits : Nat) (unit : Int) : Float :=
  if coefficient = 0 then Binary64.nearest negative 0 1
  else if decimalReach < unit then Binary64.ofBits negative Binary64.infinityBits
  else if unit + digits < -decimalReach then Binary64.nearest negative 0 1
  else
    let (num, den) := Rounding.scale 10 coefficient 1 (-unit)
    Binary64.nearest negative num den

def powerOfTen? : List Char → Option Int
  | [] => some 0
  | mark :: rest =>
    if mark = 'e' ∨ mark = 'E' then
      let (negative, digitsText) := match rest with
        | '-' :: after => (true, after)
        | '+' :: after => (false, after)
        | after => (false, after)
      match digitRun digitsText with
      | (digit :: digits, []) =>
        let magnitude : Int := Text.numberOf (digit :: digits)
        some (if negative then -magnitude else magnitude)
      | _ => none
    else none

def unsigned? (negative : Bool) (text : List Char) : Option Float :=
  let word := text.map Char.toLower
  if word = "inf".toList ∨ word = "infinity".toList then
    some (Binary64.ofBits negative Binary64.infinityBits)
  else if word = "nan".toList then some (0 / 0)
  else
    let (whole, afterWhole) := digitRun text
    let (fraction, afterFraction) := match afterWhole with
      | '.' :: rest => digitRun rest
      | rest => ([], rest)
    if whole.isEmpty && fraction.isEmpty then none
    else do
      let power ← powerOfTen? afterFraction
      let digits := whole ++ fraction
      return ofDecimal negative (Text.numberOf digits) digits.length (power - fraction.length)

def read? (text : String) : Option Float :=
  match Text.trimWhile Text.isPadding text.toList with
  | '-' :: rest => unsigned? true rest
  | '+' :: rest => unsigned? false rest
  | rest => unsigned? false rest

end PlotScript.Literal

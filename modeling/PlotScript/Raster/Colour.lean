import PlotScript.Diagnostic
import PlotScript.Raster

namespace PlotScript

abbrev Colour := List UInt8

namespace Colour

def black : List Int := [0, 0, 0, 255]

def white : List Int := [255, 255, 255, 255]

def ofEntries : List Int → Except Fault Colour
  | [] => .ok []
  | entry :: rest =>
    if 0 ≤ entry ∧ entry < 256 then do return entry.toNat.toUInt8 :: (← ofEntries rest)
    else .error .byteOutOfRange

end Colour

/-- Row by row, the colour of each pixel; both colours are checked, used or not. -/
def Raster.bytes (raster : Raster) (foreground background : List Int) :
    Except Fault (List UInt8) := do
  let foreground ← Colour.ofEntries foreground
  let background ← Colour.ofEntries background
  return raster.rows.flatMap fun row =>
    row.flatMap fun pixel => if pixel then foreground else background

end PlotScript

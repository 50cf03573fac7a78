import PlotScript.Raster.Colour

namespace PlotScript.Raster

def pamHeader (raster : Raster) : String :=
  "\n".intercalate ["P7", "WIDTH " ++ toString raster.width, "HEIGHT " ++ toString raster.height,
    "DEPTH 4", "MAXVAL 255", "TUPLTYPE RGB_ALPHA", "ENDHDR", ""]

def pam (raster : Raster) : Except Fault ByteArray := do
  let bytes ← raster.bytes Colour.black Colour.white
  return raster.pamHeader.toUTF8 ++ ⟨bytes.toArray⟩

end PlotScript.Raster

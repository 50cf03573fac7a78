import PlotScript.Host
import PlotScript.Text.Path

namespace PlotScript.Raster

/-- What is caught around the writing of a file. -/
def caught (raised : Raised) : Bool := raised.isSystem || raised.isValue

def unlessRaised (path : String) : Option Raised → Run Unit
  | none => pure ()
  | some raised => Run.raise caught (.notWritten path) raised

def makeFolder (host : Host) (path : String) : Run Unit :=
  let folder := String.ofList (Text.Path.folder path.toList)
  if folder.isEmpty then pure ()
  else do
    Run.effect (.makeFolder folder)
    unlessRaised path host.noFolder?

def write (host : Host) (raster : Raster) (path : String) : Run Unit := do
  makeFolder host path
  unlessRaised path host.noSave?
  Run.effect (.save path raster)
  Run.log .info .image ("Exported " ++ raster.form ++ " to " ++ path)

end PlotScript.Raster

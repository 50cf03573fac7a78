import PlotScript.CommandLine.Report
import PlotScript.Raster.Pam

/-!
The program: draws the script that its argument names. What a run asks of the world is known from
the outcomes so far, so the run is planned again with every outcome that is learnt. Images are
written as portable arbitrary maps; no spooler is started.
-/

open PlotScript PlotScript.CommandLine

def openingOf : IO.Error → Opening
  | .noFileOrDirectory .. => .missing
  | failure => .refused (toString failure)

def openScript (path : String) : IO Opening := do
  if path.contains '\x00' then return .nullInPath
  try return .bytes (← IO.FS.readBinFile path).toList
  catch failure => return openingOf failure

def writeImage (path : String) (raster : Raster) : IO Unit :=
  match raster.pam with
  | .ok bytes => IO.FS.writeBinFile path bytes
  | .error fault => throw (IO.userError fault.message)

/-- Carries out one effect and notes in the host what it raised. -/
def perform (host : Host) (effect : Effect) : IO Host := do
  match effect with
  | .makeFolder path =>
    try
      IO.FS.createDirAll path
      return host
    catch failure => return { host with noFolder? := some (.system (toString failure)) }
  | .save path raster =>
    try
      writeImage path raster
      return host
    catch failure => return { host with noSave? := some (.system (toString failure)) }
  | .spool _ => return host

def performAll (host : Host) : List Effect → IO Host
  | [] => return host
  | effect :: rest => do
    let after ← perform host effect
    if after = host then performAll after rest else return after

def draw (options : Options) : IO UInt32 := do
  let opening ← openScript options.script
  let host : Host := { programs := [] }
  match Report.ofOpening host options opening with
  | .error fault =>
    IO.eprintln fault.message
    return 1
  | .ok plan =>
    let learnt ← performAll host plan.journal.effects
    match Report.ofOpening learnt options opening with
    | .error fault =>
      IO.eprintln fault.message
      return 1
    | .ok report =>
      IO.eprint (report.errors options)
      IO.print report.output
      return report.status.toUInt32

def main (arguments : List String) : IO UInt32 := do
  match Options.ofArguments arguments with
  | .error ending => return ending.status.toUInt32
  | .ok options => draw options

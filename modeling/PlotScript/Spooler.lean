import PlotScript.Host
import PlotScript.Text.Blank

namespace PlotScript.Spooler

def known : List String := ["lp", "lpr"]

/-- A platform that is not named is the host's. -/
def platformOf (host : Host) : Option String → String
  | none => host.platform
  | some name => if name.isEmpty then host.platform else name

def isWindows (platform : String) : Bool := ['w', 'i', 'n'].isPrefixOf platform.toList

def command? (host : Host) (platform path : String) : Option (List String) :=
  if isWindows platform then some ["cmd", "/C", "mspaint", "/pt", path]
  else (known.find? host.programs.contains).map fun program => [program, path]

def command (host : Host) (platform? : Option String) (path : String) : Run (List String) :=
  let platform := platformOf host platform?
  match command? host platform path with
  | some command => pure command
  | none => Run.fail (.noSpooler platform)

def trimmed (text : String) : String := String.ofList (Text.trim text.toList)

/-- Runs the spooler on a file; its exit status must be zero. Only errors of the system are caught. -/
def print (host : Host) (platform? : Option String) (path : String) : Run Int := do
  let command ← command host platform? path
  let program := command.headD ""
  Run.log .info .printing
    ("Printing " ++ path ++ " with " ++ Cause.ticked (" ".intercalate command))
  Run.effect (.spool command)
  match host.spooling.result with
  | .error raised => Run.raise Raised.isSystem (.spoolerNotRun program) raised
  | .ok (status, errors) =>
    if status = 0 then return status
    else Run.fail (.spoolerFailed program status (trimmed errors))

end PlotScript.Spooler

import PlotScript.CommandLine.Arguments
import PlotScript.Plot
import PlotScript.Text.LineEnd
import PlotScript.Text.Utf8

namespace PlotScript.CommandLine

inductive Opening
  | bytes (bytes : List UInt8)
  | missing
  | refused (reason : String)
  | nullInPath
  deriving DecidableEq, Repr

structure Report where
  status : Nat
  output : String
  journal : Journal := {}
  deriving DecidableEq

namespace Report

def line (text : String) : String := text ++ "\n"

def quote (path : String) : String := "'" ++ path ++ "'"

def unreadable (path reason : String) : Report :=
  ⟨1, line ("Error: Could not read " ++ quote path ++ ": " ++ reason), {}⟩

def missing (path : String) : Report :=
  ⟨1, line ("Error: File " ++ quote path ++ " not found"), {}⟩

def request (options : Options) (limit : Int) (text : String) : Request where
  source := options.script
  text := text
  output := options.output
  allowPrint := options.allowPrint
  limit := limit

/-- A fault is no diagnostic: it ends the program without a report. -/
def ofOutcome : Except Failure Plot × Journal → Except Fault Report
  | (.ok plot, journal) => .ok ⟨0, line ("Image saved to: " ++ plot.path), journal⟩
  | (.error (.diagnostic diagnostic), journal) => .ok ⟨1, line diagnostic.describe, journal⟩
  | (.error (.interpretation diagnostics), journal) =>
    .ok ⟨1, line ("\n".intercalate (diagnostics.map Diagnostic.describe)), journal⟩
  | (.error (.fault fault), _) => .error fault

/-- A limit below every count: the first comparison with it fails. -/
def leastLimit : Int := -1

def withoutLimit : Except Failure Plot × Journal → Except Failure Plot × Journal
  | (.error (.diagnostic ⟨.tooManyBranches _ _ _, _⟩), journal) =>
    (.error (.fault .limitMissing), journal)
  | outcome => outcome

def ofText (host : Host) (options : Options) (text : String) : Except Fault Report :=
  match options.limit? with
  | some limit => ofOutcome (Plot.run host (request options limit text)).outcome
  | none => ofOutcome (withoutLimit (Plot.run host (request options leastLimit text)).outcome)

def ofOpening (host : Host) (options : Options) : Opening → Except Fault Report
  | .missing => .ok (missing options.script)
  | .refused reason => .ok (unreadable options.script reason)
  | .nullInPath => .error .nullInPath
  | .bytes bytes =>
    match Text.Utf8.decode bytes with
    | .error fault => .ok (unreadable options.script fault.message)
    | .ok chars => ofText host options (String.ofList (Text.unifyLineEnds chars))

def level (options : Options) : Level := if options.debug then .debug else .info

def errors (options : Options) (report : Report) : String :=
  String.join ((LogLine.atLeast (level options) report.journal.log).map fun entry => line entry.text)

end Report

end PlotScript.CommandLine

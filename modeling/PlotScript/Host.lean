import PlotScript.Diagnostic
import PlotScript.Log
import PlotScript.Raster

/-!
The world outside. A `Host` says how each thing that a run may ask for turns out; a `Journal` keeps
what was logged and what was asked for. A `Run` ends with a value or a failure and has a journal
either way.
-/

namespace PlotScript

/-- How running a spooler turns out. -/
inductive Spooling
  | raised (found : Raised)
  /-- It has ended, but what it wrote can not be read as text. -/
  | undecodable (status : Int) (reason : String)
  | finished (status : Int) (errors : String)
  deriving DecidableEq, Repr

/-- What the call has: the output is decoded before the status can be looked at. -/
def Spooling.result : Spooling → Except Raised (Int × String)
  | raised found => .error found
  | undecodable _ reason => .error (.undecodable reason)
  | finished status errors => .ok (status, errors)

structure Host where
  platform : String := "linux"
  /-- The programs that can be found. -/
  programs : List String := ["lp"]
  /-- What making a folder raises, if anything. -/
  noFolder? : Option Raised := none
  /-- What saving an image raises, if anything. -/
  noSave? : Option Raised := none
  spooling : Spooling := .finished 0 ""
  deriving DecidableEq, Repr

inductive Effect
  | makeFolder (path : String)
  | save (path : String) (raster : Raster)
  | spool (command : List String)
  deriving DecidableEq

structure Journal where
  log : List LogLine := []
  effects : List Effect := []
  deriving DecidableEq

abbrev Run (α : Type) := ExceptT Failure (StateM Journal) α

namespace Run

def log (level : Level) (topic : Topic) (message : String) : Run Unit :=
  modify fun journal => { journal with log := journal.log ++ [⟨level, topic, message⟩] }

def logAll (lines : List LogLine) : Run Unit :=
  modify fun journal => { journal with log := journal.log ++ lines }

def effect (effect : Effect) : Run Unit :=
  modify fun journal => { journal with effects := journal.effects ++ [effect] }

def ofExcept {α : Type} (result : Except Failure α) : Run α := ExceptT.mk (pure result)

def fail {α : Type} (cause : Cause) : Run α := throw (.of cause none)

/-- Ends with what was raised, told as a cause where it is caught. -/
def raise {α : Type} (caught : Raised → Bool) (cause : String → Cause) (raised : Raised) : Run α :=
  if caught raised then fail (cause raised.text) else throw (.fault (.outside raised))

def outcome {α : Type} (run : Run α) : Except Failure α × Journal := run.run.run {}

end Run

end PlotScript

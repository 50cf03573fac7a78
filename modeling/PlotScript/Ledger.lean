import PlotScript.Layout

/-!
A layout as an interpreter keeps it: each directive has a flag, and values that are there before it is
used. A statement is checked, then it claims its flag, then it writes, so one that fails leaves what it
has changed until then.
-/

namespace PlotScript

structure Ledger where
  setFrame : Bool := false
  setResolution : Bool := false
  setPath : Bool := false
  printNow : Bool := false
  position : Int × Int := (0, 0)
  size : Int × Int := (100, 100)
  resolution : Int × Int := (0, 0)
  path : String := defaultPath
  equations : List Node := []
  deriving DecidableEq

namespace Ledger

abbrev Update (α : Type) := ExceptT Diagnostic (StateM Ledger) α

def flag (ledger : Ledger) : DirectiveName → Bool
  | .frame => ledger.setFrame
  | .resolution => ledger.setResolution
  | .output => ledger.setPath
  | .printNow => ledger.printNow

def withFlag (ledger : Ledger) : DirectiveName → Ledger
  | .frame => { ledger with setFrame := true }
  | .resolution => { ledger with setResolution := true }
  | .output => { ledger with setPath := true }
  | .printNow => { ledger with printNow := true }

def withEquation (ledger : Ledger) (right : Node) : Ledger :=
  { ledger with equations := ledger.equations ++ [right] }

def claim (name : DirectiveName) (span : Option Span) : Update Unit := do
  if (← get).flag name then throw ⟨.repeatedDirective name, span⟩
  modify (withFlag · name)

def direct (span : Option Span) : Directive → Update Unit
  | .frame x y width height => do
    if width ≤ 0 ∨ height ≤ 0 then throw ⟨.emptyFrame, span⟩
    claim .frame span
    modify ({ · with position := (x, y) })
    modify ({ · with size := (width, height) })
  | .resolution width height => do
    if width < 0 ∨ height < 0 then throw ⟨.negativeResolution, span⟩
    claim .resolution span
    modify ({ · with resolution := (width, height) })
  | .output path => do
    claim .output span
    modify ({ · with path })
  | .printNow => claim .printNow span

def equate (left right : Node) : Update Unit :=
  if left.isBound then modify (withEquation · right)
  else
    match Equation.solve left right with
    | none => pure ()
    | some solved => modify (withEquation · solved)

def apply : Node → Update Unit
  | .directive command span => direct span command
  | .equals left right _ => equate left right
  | _ => pure ()

def outcome (ledger : Ledger) (node : Node) : Except Diagnostic Unit × Ledger :=
  (apply node).run.run ledger

def after (ledger : Ledger) (node : Node) : Ledger := (ledger.outcome node).2

end Ledger

end PlotScript

import PlotScript.Diagnostic
import PlotScript.Equation
import PlotScript.Log

/-!
Layouts: what a script asks for. Each directive counts once; an equation counts by its solution for
`y`. `Interpretation` folds the statements of a script into a layout, and goes on after an error.
-/

namespace PlotScript

structure Frame where
  x : Int
  y : Int
  width : Int
  height : Int
  deriving DecidableEq, Repr

def Frame.default : Frame := ⟨0, 0, 100, 100⟩

structure Resolution where
  width : Int
  height : Int
  deriving DecidableEq, Repr

/-- A zero asks for one pixel per unit of the frame. -/
def Resolution.default : Resolution := ⟨0, 0⟩

def defaultPath : String := "export.png"

/-- What the directives so far have set, and the equations so far, in source order. -/
structure Layout where
  frame? : Option Frame := none
  resolution? : Option Resolution := none
  path? : Option String := none
  printNow : Bool := false
  equations : List Node := []
  deriving DecidableEq

namespace Layout

def frame (layout : Layout) : Frame := layout.frame?.getD .default

def resolution (layout : Layout) : Resolution := layout.resolution?.getD .default

def path (layout : Layout) : String := layout.path?.getD defaultPath

def flags (layout : Layout) : List Bool :=
  [layout.frame?.isSome, layout.resolution?.isSome, layout.path?.isSome, layout.printNow]

def orElse (size fallback : Int) : Int := if size = 0 then fallback else size

def pixels (layout : Layout) : Resolution :=
  ⟨orElse layout.resolution.width layout.frame.width,
    orElse layout.resolution.height layout.frame.height⟩

def pair (first second : Int) : String :=
  "(" ++ toString first ++ ", " ++ toString second ++ ")"

def form (layout : Layout) : String :=
  call "Layout" [
    "position=" ++ pair layout.frame.x layout.frame.y,
    "size=" ++ pair layout.frame.width layout.frame.height,
    "resolution=" ++ pair layout.resolution.width layout.resolution.height,
    "export=" ++ Text.quoted layout.path,
    "print_now=" ++ truth layout.printNow,
    "equations=" ++ toString layout.equations.length]

def withEquation (layout : Layout) (right : Node) : Layout :=
  { layout with equations := layout.equations ++ [right] }

def once (used : Bool) (name : DirectiveName) (span : Option Span) (next : Layout) :
    Except Diagnostic Layout :=
  if used then .error ⟨.repeatedDirective name, span⟩ else .ok next

def direct (layout : Layout) (span : Option Span) : Directive → Except Diagnostic Layout
  | .frame x y width height =>
    if width ≤ 0 ∨ height ≤ 0 then .error ⟨.emptyFrame, span⟩
    else once layout.frame?.isSome .frame span { layout with frame? := some ⟨x, y, width, height⟩ }
  | .resolution width height =>
    if width < 0 ∨ height < 0 then .error ⟨.negativeResolution, span⟩
    else once layout.resolution?.isSome .resolution span
      { layout with resolution? := some ⟨width, height⟩ }
  | .output path => once layout.path?.isSome .output span { layout with path? := some path }
  | .printNow => once layout.printNow .printNow span { layout with printNow := true }

def note (level : Level) (message : String) : LogLine := ⟨level, .layout, message⟩

def equate (layout : Layout) (node left right : Node) : Layout × List LogLine :=
  if left.isBound then (layout.withEquation right, [])
  else
    match Equation.solve left right with
    | none =>
      (layout, [note .warning
        ("Can not solve " ++ Cause.ticked node.text ++ " for " ++ boundName ++
          "; equation ignored")])
    | some solved =>
      (layout.withEquation solved, [note .debug
        ("Rewrote " ++ Cause.ticked node.text ++ " as " ++ boundName ++ " = " ++ solved.text)])

def apply (layout : Layout) (node : Node) : Except Diagnostic (Layout × List LogLine) :=
  match node with
  | .directive command span => (layout.direct span command).map fun next => (next, [])
  | .equals left right _ => .ok (layout.equate node left right)
  | _ =>
    .ok (layout, [note .warning
      ("Ignoring unsupported top-level node " ++ Cause.ticked node.text)])

end Layout

structure Interpretation where
  layout : Layout := {}
  errors : List Diagnostic := []
  log : List LogLine := []
  deriving DecidableEq

namespace Interpretation

/-- A statement in error is noted and changes nothing else. -/
def step (state : Interpretation) (node : Node) : Interpretation :=
  match state.layout.apply node with
  | .error diagnostic => { state with errors := state.errors ++ [diagnostic] }
  | .ok (layout, log) => { state with layout, log := state.log ++ log }

def ofNodes (nodes : List Node) : Interpretation := nodes.foldl step {}

def result (state : Interpretation) : Except Failure Layout :=
  if state.errors.isEmpty then .ok state.layout else .error (.interpretation state.errors)

end Interpretation

end PlotScript

import PlotScript.Node.Parser
import PlotScript.Raster.Render

/-!
A dialogue over one layout: statements are added, whole scripts interpreted, and the equations so
far evaluated or drawn. An error is the answer to its step and the session goes on.
-/

namespace PlotScript

structure Session where
  state : Interpretation := {}
  limit : Int := defaultLimit
  deriving DecidableEq

namespace Session

inductive Command
  /-- Adds statements to the layout, up to the first error. -/
  | apply (text : String)
  /-- Starts again from a script. -/
  | interpret (text : String)
  /-- Asks for the errors of the last interpretation. -/
  | errors
  | limit (limit : Int)
  | evaluate (x : Float)
  | render
  /-- Reads a text twice. -/
  | reread (text : String)
  deriving DecidableEq

inductive Answer
  | done
  | errors (descriptions : List String)
  | values (perEquation : List (List Float))
  | raster (raster : Raster)
  | same (tokens statements : Bool)
  deriving DecidableEq

def source : String := "s"

structure Reply where
  answer : Except Failure Answer
  log : List LogLine
  session : Session

def reply (session : Session) (answer : Except Failure Answer) : Reply := ⟨answer, [], session⟩

/-- Applies statements one by one; those before an error stay applied. -/
def applyAll (layout : Layout) (log : List LogLine) :
    List Node → Except Diagnostic Unit × List LogLine × Layout
  | [] => (.ok (), log, layout)
  | node :: rest =>
    match layout.apply node with
    | .error diagnostic => (.error diagnostic, log, layout)
    | .ok (next, lines) => applyAll next (log ++ lines) rest

def apply (session : Session) (nodes : List Node) : Reply :=
  let (result, log, layout) := applyAll session.state.layout [] nodes
  ⟨(result.mapError .diagnostic).map fun _ => .done, log,
    { session with state := { session.state with layout } }⟩

def interpret (session : Session) (nodes : List Node) : Reply :=
  let state := Interpretation.ofNodes nodes
  ⟨state.result.map fun _ => .done, state.log, { session with state }⟩

def reread (text : String) : Except Failure Answer := do
  let first ← (Token.scan source text).mapError .diagnostic
  let second ← (Token.scan source text).mapError .diagnostic
  let nodes ← Node.ofTokens second
  let again ← Node.ofTokens second
  return .same (first == second) (Node.listAgrees nodes again)

def evaluate (session : Session) (x : Float) : Except Failure Answer :=
  (session.state.layout.equations.mapM (Node.branches session.limit x)).map .values

def answer (session : Session) : Command → Reply
  | .apply text =>
    match Node.ofScript source text with
    | .error failure => session.reply (.error failure)
    | .ok nodes => session.apply nodes
  | .interpret text =>
    match Node.ofScript source text with
    | .error failure => session.reply (.error failure)
    | .ok nodes => session.interpret nodes
  | .errors => session.reply (.ok (.errors (session.state.errors.map Diagnostic.describe)))
  | .limit limit => { session with limit }.reply (.ok .done)
  | .evaluate x => session.reply (session.evaluate x)
  | .render => session.reply ((session.state.layout.render session.limit).map .raster)
  | .reread text => session.reply (reread text)

def replies (session : Session) : List Command → List Reply
  | [] => []
  | command :: rest =>
    let reply := session.answer command
    reply :: reply.session.replies rest

end Session

end PlotScript

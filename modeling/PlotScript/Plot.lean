import PlotScript.Export
import PlotScript.Node.Parser
import PlotScript.Raster.Render
import PlotScript.Spooler

namespace PlotScript

def Token.line (tokens : List Token) : String := " ".intercalate (tokens.map Token.text)

namespace Layout

def debugNodes (nodes : List Node) : List LogLine :=
  nodes.map fun node => ⟨.debug, .script, "Node: " ++ node.text⟩

def ofScript (source text : String) : Run Layout := do
  Run.log .info .script ("Tokenizing " ++ source ++ "...")
  let tokens ← Run.ofExcept ((Token.scan source text).mapError .diagnostic)
  Run.log .debug .script ("Tokens: " ++ Token.line tokens)
  Run.log .info .script "Parsing..."
  let nodes ← Run.ofExcept (Node.ofTokens tokens)
  Run.logAll (debugNodes nodes)
  Run.log .info .script "Interpreting..."
  let state := Interpretation.ofNodes nodes
  Run.logAll state.log
  Run.ofExcept state.result

def renderingLine (layout : Layout) : String :=
  "Rendering " ++ toString layout.equations.length ++ " equation(s) at " ++
    toString layout.pixels.width ++ "x" ++ toString layout.pixels.height

end Layout

structure Request where
  source : String := "<script>"
  text : String
  /-- Where to write the image instead of the path in the script. -/
  output : String := ""
  allowPrint : Bool := true
  limit : Int := defaultLimit
  deriving DecidableEq, Repr

structure Plot where
  layout : Layout
  raster : Raster
  path : String
  deriving DecidableEq

namespace Plot

def publish (host : Host) (allowPrint : Bool) (plot : Plot) : Run Plot := do
  plot.raster.write host plot.path
  if plot.layout.printNow && allowPrint then
    let _ ← Spooler.print host none plot.path
  return plot

def run (host : Host) (request : Request) : Run Plot := do
  let layout ← Layout.ofScript request.source request.text
  Run.log .info .raster layout.renderingLine
  let raster ← Run.ofExcept (layout.render request.limit)
  let path := if request.output.isEmpty then layout.path else request.output
  publish host request.allowPrint ⟨layout, raster, path⟩

end Plot

end PlotScript

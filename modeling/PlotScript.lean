import PlotScript.Host.Folder
import PlotScript.Main
import PlotScript.Session
import PlotScript.Proofs.Drawing.Column
import PlotScript.Proofs.Drawing.Signs
import PlotScript.Proofs.Grammar.Script
import PlotScript.Proofs.Isolation
import PlotScript.Proofs.Power.Solution
import PlotScript.Proofs.Interpretation
import PlotScript.Proofs.Session
import PlotScript.Proofs.Grammar.Bound
import PlotScript.Proofs.Grammar.Spans
import PlotScript.Proofs.Grammar.Lines
import PlotScript.Proofs.Numeral.Printed
import PlotScript.Proofs.Printing
import PlotScript.Proofs.Printing.Lexemes
import PlotScript.Proofs.Printing.Trees
import PlotScript.Proofs.Printing.RoundTrip
import PlotScript.Proofs.Branches
import PlotScript.Proofs.Lexis.Misfit
import PlotScript.Proofs.Grammar.Refusal
import PlotScript.Proofs.Drawing.Failure
import PlotScript.Proofs.Internal
import PlotScript.Proofs.Grammar.Places
import PlotScript.Proofs.Places
import PlotScript.Proofs.Erasure.Drawing
import PlotScript.Proofs.Drawing.Pixels
import PlotScript.Proofs.Run
import PlotScript.Proofs.Report
import PlotScript.Proofs.Equations
import PlotScript.Proofs.Errands
import PlotScript.Proofs.Descent
import PlotScript.Proofs.Grammar.Continuation
import PlotScript.Proofs.Grammar.Extent
import PlotScript.Proofs.Branches.Count
import PlotScript.Proofs.Isolation.Layers
import PlotScript.Proofs.Printing.Quotation
import PlotScript.Proofs.Drawing.Straddle
import PlotScript.Proofs.Lexis.Blanks
import PlotScript.Proofs.Grammar.Spacing
import PlotScript.Proofs.Drawing.Tiling
import PlotScript.Proofs.Drawing.Bytes
import PlotScript.Proofs.Erasure.Agreement
import PlotScript.Proofs.Grammar.Ending
import PlotScript.Proofs.Descent.Unrounded
import PlotScript.Proofs.Descent.Signs
import PlotScript.Proofs.Ledger

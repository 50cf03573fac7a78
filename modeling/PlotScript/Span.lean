import PlotScript.Text.Quoted

namespace PlotScript

/-- Offsets count characters; `stop` is one past the last. -/
structure Span where
  source : String
  start : Int
  stop : Int
  deriving DecidableEq, Repr

namespace Span

def hull (first second : Span) : Span :=
  ⟨first.source, min first.start second.start, max first.stop second.stop⟩

/-- A missing stretch adds nothing. -/
def hull? : Option Span → Option Span → Option Span
  | none, second => second
  | first, none => first
  | some first, some second => some (first.hull second)

def text (span : Span) : String :=
  span.source ++ ":" ++ toString span.start ++ "-" ++ toString span.stop

def form (span : Span) : String :=
  "SourceRange(" ++ Text.quoted span.source ++ ", " ++ toString span.start ++ ", " ++
    toString span.stop ++ ")"

def missing : String := "None"

def text? (span : Option Span) : String := (span.map text).getD missing

def form? (span : Option Span) : String := (span.map form).getD missing

theorem hull_self (span : Span) : span.hull span = span := by
  simp [hull]

end Span

end PlotScript

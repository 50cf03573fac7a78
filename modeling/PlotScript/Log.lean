namespace PlotScript

inductive Level
  | debug
  | info
  | warning
  | error
  deriving DecidableEq, Repr

def Level.rank : Level → Nat
  | debug => 10
  | info => 20
  | warning => 30
  | error => 40

def Level.name : Level → String
  | debug => "DEBUG"
  | info => "INFO"
  | warning => "WARNING"
  | error => "ERROR"

inductive Topic
  | script
  | layout
  | raster
  | image
  | printing
  deriving DecidableEq, Repr

def Topic.logger : Topic → String
  | script => "plot_lang.main"
  | layout => "plot_lang.interpreter"
  | raster => "plot_lang.rasterizer"
  | image => "plot_lang.exporter"
  | printing => "plot_lang.printer"

structure LogLine where
  level : Level
  topic : Topic
  message : String
  deriving DecidableEq, Repr

def LogLine.text (line : LogLine) : String :=
  line.level.name ++ " " ++ line.topic.logger ++ ": " ++ line.message

def LogLine.atLeast (level : Level) (lines : List LogLine) : List LogLine :=
  lines.filter fun line => level.rank ≤ line.level.rank

end PlotScript

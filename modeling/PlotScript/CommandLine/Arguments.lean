import PlotScript.Branches
import PlotScript.Text.Integer

/-!
The arguments of the command line: one script to draw, and switches before or after it. Long names
may be cut short while they stay unambiguous, a value may be attached to its switch, and everything
behind two dashes is an operand.
-/

namespace PlotScript.CommandLine

inductive Switch
  | help
  | output
  | noPrint
  | limit
  | debug
  deriving DecidableEq, Repr

namespace Switch

def all : List Switch := [help, output, noPrint, limit, debug]

def short? : Switch → Option Char
  | help => some 'h'
  | output => some 'o'
  | _ => none

def long : Switch → List Char
  | help => "--help".toList
  | output => "--output".toList
  | noPrint => "--no-print".toList
  | limit => "--max-branches".toList
  | debug => "--debug".toList

def takesValue : Switch → Bool
  | output | limit => true
  | _ => false

def ofShort? (c : Char) : Option Switch := all.find? fun switch => switch.short? == some c

def ofLong? (text : List Char) : Option Switch := all.find? fun switch => switch.long == text

def withPrefix (start : List Char) : List Switch :=
  all.filter fun switch => start.isPrefixOf switch.long

end Switch

inductive Attachment
  | none
  | glued (text : List Char)
  | assigned (text : List Char)
  deriving DecidableEq, Repr

inductive Argument
  | operand (text : List Char)
  /-- The two dashes. -/
  | dashes
  | short (switch : Switch) (attachment : Attachment)
  | long (switch : Switch) (attachment : Attachment)
  | unknown
  | ambiguous
  deriving DecidableEq, Repr

def isDigit (c : Char) : Bool := (Text.digitValue? c).isSome

/-- Digits, or digits behind a point with any digits before it; one line feed may follow. -/
def isUnsignedNumber (text : List Char) : Bool :=
  let body := if text.getLast? = some '\n' then text.dropLast else text
  let fraction := body.dropWhile isDigit
  match fraction with
  | [] => !body.isEmpty
  | '.' :: digits => !digits.isEmpty && digits.all isDigit
  | _ => false

def splitAssignment (text : List Char) : List Char × Attachment :=
  match text.dropWhile (· ≠ '=') with
  | [] => (text, .none)
  | _ :: value => (text.takeWhile (· ≠ '='), .assigned value)

namespace Argument

def unnamed (text : List Char) : Argument :=
  if isUnsignedNumber (text.drop 1) || text.contains ' ' then .operand text else .unknown

def ofLong (text : List Char) : Argument :=
  let (name, attachment) := splitAssignment text
  match Switch.ofLong? name with
  | some switch => .long switch attachment
  | none =>
    match Switch.withPrefix name with
    | [] => unnamed text
    | [switch] => .long switch attachment
    | _ => .ambiguous

def ofShort (text : List Char) (c : Char) (rest : List Char) : Argument :=
  match Switch.ofShort? c with
  | none => unnamed text
  | some switch =>
    match rest with
    | [] => .short switch .none
    | '=' :: value => .short switch (.assigned value)
    | value => .short switch (.glued value)

def ofText (text : List Char) : Argument :=
  match text with
  | '-' :: '-' :: _ => ofLong text
  | '-' :: c :: rest => ofShort text c rest
  | _ => .operand text

def ofTexts : List (List Char) → List Argument
  | [] => []
  | text :: rest =>
    if text = ['-', '-'] then .dashes :: rest.map .operand else ofText text :: ofTexts rest

def isSwitch : Argument → Bool
  | short _ _ | long _ _ | unknown => true
  | _ => false

end Argument

structure Options where
  script : String := ""
  output : String := ""
  allowPrint : Bool := true
  /-- Missing when its switch was given the two dashes. -/
  limit? : Option Int := some defaultLimit
  debug : Bool := false
  deriving DecidableEq, Repr

inductive Ending
  | help
  | usage
  deriving DecidableEq, Repr

def Ending.status : Ending → Nat
  | help => 0
  | usage => 2

/-- What has been read so far; `surplus` arguments end the program once all are read. -/
structure Reading where
  options : Options := {}
  hasScript : Bool := false
  surplus : Bool := false
  deriving DecidableEq, Repr

namespace Reading

def assign (reading : Reading) (value : List Char) (switch : Switch) : Except Ending Reading :=
  let given := value ≠ ['-', '-']
  match switch with
  | .output =>
    .ok { reading with options.output := if given then String.ofList value else "" }
  | .limit =>
    if given then
      match Text.Integer.read (String.ofList value) with
      | .ok limit => .ok { reading with options.limit? := some limit }
      | .error _ => .error .usage
    else .ok { reading with options.limit? := none }
  | _ => .error .usage

def turnOn (reading : Reading) : Switch → Except Ending Reading
  | .help => .error .help
  | .noPrint => .ok { reading with options.allowPrint := false }
  | .debug => .ok { reading with options.debug := true }
  | _ => .error .usage

/-- How letters behind the help switch end: each is a switch of its own up to one that takes the
letters behind it for its value, and the program ends with help unless one of them is misused.
`ready` tells whether an operand follows. -/
def helpCluster (ready : Bool) : List Char → Ending
  | [] => .help
  | ['o'] => if ready then .help else .usage
  | 'o' :: _ => .help
  | 'h' :: rest => helpCluster ready rest
  | _ => .usage

def startsWithOperand : List Argument → Bool
  | .operand _ :: _ => true
  | _ => false

/-- The first operand is the script; the two dashes may stand before or behind it. -/
def takeScript (reading : Reading) : List Argument → Option (Reading × List Argument)
  | arguments =>
    if reading.hasScript then none
    else
      let named (text : List Char) : Reading :=
        { reading with hasScript := true, options.script := String.ofList text }
      match arguments with
      | .dashes :: .operand text :: rest => some (named text, rest)
      | .operand text :: .dashes :: rest => some (named text, rest)
      | .operand text :: rest => some (named text, rest)
      | _ => none

def finish (reading : Reading) (arguments : List Argument) : Except Ending Options :=
  let (reading, rest) := (reading.takeScript arguments).getD (reading, arguments)
  if reading.hasScript && rest.isEmpty && !reading.surplus then .ok reading.options
  else .error .usage

/-- One switch and, where it takes one, its value; `bound` only has to exceed the number of
arguments. -/
def run : Nat → Reading → List Argument → Except Ending Options
  | 0, _, _ => .error .usage
  | bound + 1, reading, arguments =>
    if !arguments.any Argument.isSwitch then reading.finish arguments
    else
      match arguments with
      | .unknown :: rest => run bound { reading with surplus := true } rest
      | .short switch .none :: rest | .long switch .none :: rest =>
        if switch.takesValue then
          match rest with
          | .operand value :: rest => do run bound (← reading.assign value switch) rest
          | _ => .error .usage
        else do run bound (← reading.turnOn switch) rest
      | .short switch (.glued value) :: rest | .short switch (.assigned value) :: rest =>
        if switch.takesValue then do run bound (← reading.assign value switch) rest
        else if value.isEmpty then .error .usage
        else .error (helpCluster (startsWithOperand rest) value)
      | .long switch (.assigned value) :: rest | .long switch (.glued value) :: rest =>
        if switch.takesValue then do run bound (← reading.assign value switch) rest
        else .error .usage
      | arguments =>
        match reading.takeScript arguments with
        | some (reading, rest) => run bound reading rest
        | none =>
          run bound { reading with surplus := true } (arguments.dropWhile (!·.isSwitch))

end Reading

def Options.ofArguments (texts : List String) : Except Ending Options :=
  let arguments := Argument.ofTexts (texts.map String.toList)
  if arguments.contains .ambiguous then .error .usage
  else Reading.run (2 * arguments.length + 1) {} arguments

end PlotScript.CommandLine

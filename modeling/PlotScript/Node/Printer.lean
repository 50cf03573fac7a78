import PlotScript.Node
import PlotScript.Number.Decimal
import PlotScript.Text.Escape
import PlotScript.Text.Quoted

namespace PlotScript

def Operator.sign : Operator → String
  | add => "+"
  | sub => "-"
  | mul => "*"
  | div => "/"

def Operator.label : Operator → String
  | add => "Add"
  | sub => "Sub"
  | mul => "Mul"
  | div => "Div"

def Trig.word : Trig → String
  | sin => "sin"
  | cos => "cos"
  | tan => "tan"

def Trig.label : Trig → String
  | sin => "FunctionSin"
  | cos => "FunctionCos"
  | tan => "FunctionTan"

def truth (value : Bool) : String := if value then "True" else "False"

def listed (items : List String) : String := ", ".intercalate items

def call (name : String) (arguments : List String) : String :=
  name ++ "(" ++ listed arguments ++ ")"

namespace Directive

def text : Directive → String
  | frame x y width height =>
    call "#frame" [toString x, toString y, toString width, toString height]
  | resolution width height => call "#resolution" [toString width, toString height]
  | output path => call "#export" ["\"" ++ Text.visible path ++ "\""]
  | printNow => call "#print_now" []

def label : Directive → String
  | frame _ _ _ _ => "DirectiveFrame"
  | resolution _ _ => "DirectiveResolution"
  | output _ => "DirectiveExport"
  | printNow => "DirectivePrintNow"

def form (directive : Directive) : String :=
  call directive.label <| match directive with
    | frame x y width height => [toString x, toString y, toString width, toString height]
    | resolution width height => [toString width, toString height]
    | output path => [Text.quoted path]
    | printNow => []

end Directive

namespace Node

def label : Node → String
  | number _ _ => "Number"
  | symbol _ _ => "Variable"
  | equals _ _ _ => "Equals"
  | arithmetic operator _ _ _ => operator.label
  | trig function _ _ => function.label
  | power _ _ _ => "FunctionPow"
  | root _ _ _ _ => "FunctionRoot"
  | directive command _ => command.label

def between (left sign right : String) : String := left ++ " " ++ sign ++ " " ++ right

def text : Node → String
  | number value _ => Decimal.general value
  | symbol name _ => name
  | equals left right _ => "(" ++ between left.text "=" right.text ++ ")"
  | arithmetic operator left right _ => "(" ++ between left.text operator.sign right.text ++ ")"
  | trig function argument _ => call function.word [argument.text]
  | power base exponent _ => call "pow" [base.text, exponent.text]
  | root degree radicand _ _ => call "root" [degree.text, radicand.text]
  | directive command _ => command.text

def form : Node → String
  | number value _ => call "Number" [Decimal.exact value]
  | symbol name _ => call "Variable" [Text.quoted name]
  | equals left right _ => call "Equals" [left.form, right.form]
  | arithmetic operator left right _ => call operator.label [left.form, right.form]
  | trig function argument _ => call function.label [argument.form]
  | power base exponent _ => call "FunctionPow" [base.form, exponent.form]
  | root degree radicand explicit _ =>
    call "FunctionRoot" [degree.form, radicand.form, truth explicit]
  | directive command _ => command.form

end Node

end PlotScript

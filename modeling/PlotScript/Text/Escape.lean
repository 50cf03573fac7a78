namespace PlotScript.Text

def unescape? : Char → Option Char
  | '\\' => some '\\'
  | 'n' => some '\n'
  | '\n' => some '\n'
  | 't' => some '\t'
  | '\'' => some '\''
  | '"' => some '"'
  | _ => none

/-- Line ends, tabs, quotes of three kinds and backslashes are shown behind a backslash. -/
def visibleChar : Char → List Char
  | '\n' => ['\\', 'n']
  | '\t' => ['\\', 't']
  | '`' => ['\\', '`']
  | '\'' => ['\\', '\'']
  | '"' => ['\\', '"']
  | '\\' => ['\\', '\\']
  | c => [c]

def visible (text : String) : String :=
  String.ofList (text.toList.flatMap visibleChar)

end PlotScript.Text

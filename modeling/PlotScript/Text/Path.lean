namespace PlotScript.Text.Path

/-- What comes before the last slash, without the slashes that end it unless it is all slashes. -/
def folder (path : List Char) : List Char :=
  let head := path.reverse.dropWhile (· ≠ '/')
  let trimmed := head.dropWhile (· = '/')
  (if trimmed.isEmpty then head else trimmed).reverse

def split (path : List Char) : List (List Char) :=
  path.foldr
    (fun c parts =>
      match parts with
      | part :: rest => if c = '/' then [] :: part :: rest else (c :: part) :: rest
      | [] => [[c]])
    [[]]

def stays (part : List Char) : Bool := part = [] ∨ part = ['.']

def names (path : List Char) : List (List Char) := (split path).filter fun part => !stays part

end PlotScript.Text.Path

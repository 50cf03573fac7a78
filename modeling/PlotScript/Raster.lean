namespace PlotScript

/-- Columns from the left, each from the top; `true` marks a pixel on a curve. -/
structure Raster where
  width : Nat
  height : Nat
  columns : Vector (Vector Bool height) width
  deriving DecidableEq

namespace Raster

def isOn (raster : Raster) (i : Fin raster.width) (j : Fin raster.height) : Bool :=
  raster.columns[i][j]

def ofRows (rows : List (List Bool)) : Raster where
  width := (rows.headD []).length
  height := rows.length
  columns := Vector.ofFn fun i => Vector.ofFn fun j => rows[j].getD i false

/-- The pixels row by row from the top, each row from the left. -/
def rows (raster : Raster) : List (List Bool) :=
  List.ofFn fun j => List.ofFn fun i => raster.isOn i j

def picture (raster : Raster) (on off : Char) : List String :=
  raster.rows.map fun row => String.ofList (row.map fun pixel => if pixel then on else off)

def form (raster : Raster) : String :=
  "Raster(" ++ toString raster.width ++ "x" ++ toString raster.height ++ ")"

end Raster

end PlotScript

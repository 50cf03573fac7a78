import PlotScript.Branches
import PlotScript.Layout
import PlotScript.Raster
import PlotScript.Raster.Collect

namespace PlotScript

/-- `origin + extent * (pixel / resolution)`, each whole number rounded to a double in turn. -/
def Frame.coordinate (origin extent pixel resolution : Int) : Except Fault Float :=
  if resolution = 0 then .error .dividedByZero
  else
    match Binary64.ofQuotient? pixel resolution with
    | none => .error .quotientOutOfRange
    | some part =>
      match Binary64.ofInt? extent, Binary64.ofInt? origin with
      | some extent, some origin => .ok (origin + extent * part)
      | _, _ => .error .integerOutOfRange

structure Samples where
  left : List Float
  right : List Float
  deriving DecidableEq

structure Band where
  bottom : Float
  top : Float
  deriving DecidableEq

/-- From below the band to above it, from above to below, or within it. -/
def Band.straddledBy (band : Band) (left right : Float) : Bool :=
  (band.bottom ≤ left && right ≤ band.top) || (left ≤ band.bottom && band.top ≤ right)

def Band.isOn (band : Band) (samples : Samples) : Bool :=
  samples.left.any fun left => samples.right.any fun right => band.straddledBy left right

namespace Layout

def sample (layout : Layout) (limit i width : Int) : Except Failure (List Samples) := do
  let x₁ ← (Frame.coordinate layout.frame.x layout.frame.width i width).mapError .fault
  let x₂ ← (Frame.coordinate layout.frame.x layout.frame.width (i + 1) width).mapError .fault
  layout.equations.mapM fun equation => do
    return ⟨← equation.branches limit x₁, ← equation.branches limit x₂⟩

/-- The band of row `j` of `height`, counted from the top. -/
def band (layout : Layout) (j height : Int) : Except Failure Band := do
  let row := height - j
  let bottom ← (Frame.coordinate layout.frame.y layout.frame.height (row - 1) height).mapError .fault
  let top ← (Frame.coordinate layout.frame.y layout.frame.height row height).mapError .fault
  return ⟨bottom, top⟩

def render (layout : Layout) (limit : Int) : Except Failure Raster := do
  let width := layout.pixels.width.toNat
  let height := layout.pixels.height.toNat
  let columns ← collect width fun i => layout.sample limit i width
  let bands ← collect height fun j => layout.band j height
  return ⟨width, height, columns.map fun column => bands.map fun band => column.any band.isOn⟩

end Layout

end PlotScript

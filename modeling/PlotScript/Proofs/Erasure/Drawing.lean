import PlotScript.Proofs.Erasure
import PlotScript.Raster.Render

namespace PlotScript

open Branches Outcome

namespace Branches

variable (limit : Int) (node : Node)

theorem within_eraseSpans (count : Nat) :
    within limit node.eraseSpans count = (within limit node count).mapError Failure.eraseSpans := by
  rw [within, within, Node.span_eraseSpans]
  split <;> rfl

theorem cross_eraseSpans (left right : List Float) :
    cross limit node.eraseSpans left right =
      (cross limit node left right).mapError Failure.eraseSpans := by
  rw [cross, cross, mapError_bind, within_eraseSpans]
  rfl

theorem roots_eraseSpans (explicit : Bool) (count : Nat) (pairs : List (Float × Float)) :
    roots limit node.eraseSpans explicit count pairs =
      (roots limit node explicit count pairs).mapError Failure.eraseSpans := by
  induction pairs generalizing count with
  | nil => rfl
  | cons pair rest ih =>
    obtain ⟨degree, radicand⟩ := pair
    rw [roots, roots]
    split
    · rfl
    · exact ih count
    · simp only [within_eraseSpans, ih, mapError_bind]
      rfl

theorem arithmetic_eraseSpans (x : Float) (operator : Operator) (pairs : List (Float × Float)) :
    arithmetic node.eraseSpans x operator pairs =
      (arithmetic node x operator pairs).mapError Failure.eraseSpans := by
  cases operator with
  | div =>
    rw [arithmetic, arithmetic, quotients, quotients, Node.span_eraseSpans]
    split <;> rfl
  | _ => rfl

end Branches

theorem Node.branches_eraseSpans (limit : Int) (x : Float) (node : Node) :
    node.eraseSpans.branches limit x = (node.branches limit x).mapError Failure.eraseSpans := by
  induction node with
  | number _ _ | directive _ _ => rfl
  | symbol name span =>
    rw [eraseSpans, branches, branches]
    split <;> rfl
  | trig function argument span ih =>
    rw [eraseSpans, branches, branches, ih, mapError_bind]
    rfl
  | arithmetic operator left right span ih ih' =>
    have erased := cross_eraseSpans limit (.arithmetic operator left right span)
    have erased' := arithmetic_eraseSpans (.arithmetic operator left right span) x operator
    rw [eraseSpans] at erased erased' ⊢
    simp only [branches, ih, ih', erased, erased', mapError_bind]
  | power left right span ih ih' =>
    have erased := cross_eraseSpans limit (.power left right span)
    rw [eraseSpans] at erased ⊢
    simp only [branches, ih, ih', erased, mapError_bind]
    rfl
  | equals left right span ih ih' =>
    have erased := cross_eraseSpans limit (.equals left right span)
    rw [eraseSpans] at erased ⊢
    simp only [branches, ih, ih', erased, mapError_bind]
    rfl
  | root degree radicand explicit span ih ih' =>
    have erased := roots_eraseSpans limit (.root degree radicand explicit span) explicit 0
    rw [eraseSpans] at erased ⊢
    simp only [branches, ih, ih', erased, mapError_bind]

namespace Layout

theorem coordinate_eraseSpans (origin extent pixel resolution : Int) :
    ((Frame.coordinate origin extent pixel resolution).mapError Failure.fault).mapError
      Failure.eraseSpans = (Frame.coordinate origin extent pixel resolution).mapError .fault := by
  cases Frame.coordinate origin extent pixel resolution <;> rfl

theorem sample_eraseSpans (layout : Layout) (limit i width : Int) :
    layout.eraseSpans.sample limit i width =
      (layout.sample limit i width).mapError Failure.eraseSpans := by
  let samples (x₁ x₂ : Float) (equation : Node) : Except Failure Samples := do
    return ⟨← equation.branches limit x₁, ← equation.branches limit x₂⟩
  have pair (x₁ x₂ : Float) (equation : Node) :
      samples x₁ x₂ equation.eraseSpans = (samples x₁ x₂ equation).mapError Failure.eraseSpans := by
    simp only [samples, Node.branches_eraseSpans, mapError_bind]
    rfl
  have row (x₁ x₂ : Float) : layout.eraseSpans.equations.mapM (samples x₁ x₂) =
      (layout.equations.mapM (samples x₁ x₂)).mapError Failure.eraseSpans := by
    rw [mapError_mapM, eraseSpans, List.mapM_map]
    exact congrArg (layout.equations.mapM ·) (funext (pair x₁ x₂))
  simp only [sample, mapError_bind, coordinate_eraseSpans]
  exact bind_congr fun x₁ => bind_congr fun x₂ => row x₁ x₂

theorem band_eraseSpans (layout : Layout) (j height : Int) :
    layout.eraseSpans.band j height = (layout.band j height).mapError Failure.eraseSpans := by
  simp only [band, mapError_bind, coordinate_eraseSpans]
  rfl

theorem render_eraseSpans (layout : Layout) (limit : Int) :
    layout.eraseSpans.render limit = (layout.render limit).mapError Failure.eraseSpans := by
  simp only [render, mapError_bind, mapError_collect, ← sample_eraseSpans, ← band_eraseSpans]
  rfl

theorem render_eraseSpans_ok {layout : Layout} {limit : Int} {raster : Raster} :
    layout.eraseSpans.render limit = .ok raster ↔ layout.render limit = .ok raster := by
  rw [render_eraseSpans]
  cases layout.render limit <;> simp [Except.mapError]

end Layout

end PlotScript

import PlotScript.Proofs.Double.Rounded
import PlotScript.Proofs.Drawing

/-!
The edges of pixels. They are rounded twice, and still in order, and the frame begins and ends with the
first and the last of them; two pixels side by side share the edge between them.
-/

namespace PlotScript

open Binary64 Outcome

theorem unit_lt_infinityUnits : 2 ^ (53 + depth) < infinityUnits := by
  unfold infinityUnits
  rw [leastExponent_eq, show exponentUnit = 2 ^ 52 from rfl, ← Nat.pow_add]
  apply Nat.pow_lt_pow_right (by decide)
  simp only [infinityExponent]
  omega

theorem isMagnitude_whole {number : Int} (small : number.natAbs ≤ 2 ^ 53) :
    IsMagnitude (number * 2 ^ depth).natAbs := by
  have magnitude : (number * 2 ^ depth).natAbs = number.natAbs * 2 ^ depth := by
    simp [Int.natAbs_mul, Int.natAbs_pow]
  rw [magnitude]
  constructor
  · refine Nat.lt_of_le_of_lt ?_ unit_lt_infinityUnits
    rw [Nat.pow_add]
    exact Nat.mul_le_mul_right _ small
  · rcases Nat.lt_or_eq_of_le small with less | same
    · exact ⟨_, depth, rfl, less⟩
    · exact ⟨1, 53 + depth, by rw [same, Nat.one_mul, Nat.pow_add], by decide⟩

theorem place_ofInt? {number : Int} {value : Float} (converted : ofInt? number = some value)
    (small : number.natAbs ≤ 2 ^ 53) : place value = number * 2 ^ depth := by
  have rounded := rounded_ofInt? converted
  rw [← Int.mul_one (number * 2 ^ depth)] at rounded
  exact rounded.eq_of_isMagnitude Nat.one_pos (isMagnitude_whole small)

section

variable {resolution pixel next : Int} {part part' : Float} (filled : 0 < resolution)

include filled

theorem part_le (later : pixel ≤ next) (divided : ofQuotient? pixel resolution = some part)
    (divided' : ofQuotient? next resolution = some part') : place part ≤ place part' := by
  have counted : 0 < resolution.toNat := by omega
  have order : pixel * 2 ^ depth * resolution.toNat ≤ next * 2 ^ depth * resolution.toNat :=
    Int.mul_le_mul_of_nonneg_right (Int.mul_le_mul_of_nonneg_right later (by positivity))
      (Int.natCast_nonneg _)
  have rounded := rounded_ofQuotient? filled divided
  exact (le_iff.mp (rounded.le (rounded_ofQuotient? filled divided') counted counted order)).2.2

theorem place_part_zero (divided : ofQuotient? 0 resolution = some part) : place part = 0 := by
  have rounded := rounded_ofQuotient? filled divided
  rw [Int.zero_mul, ← Int.zero_mul (resolution.toNat : Int)] at rounded
  exact rounded.eq_of_isMagnitude (by omega) isMagnitude_zero

theorem place_part_one (divided : ofQuotient? resolution resolution = some part) :
    place part = 2 ^ depth := by
  have rounded := rounded_ofQuotient? filled divided
  have same : (resolution.toNat : Int) = resolution := Int.toNat_of_nonneg (Int.le_of_lt filled)
  nth_rewrite 1 [← same] at rounded
  rw [Int.mul_comm] at rounded
  have one : IsMagnitude ((2 : Int) ^ depth).natAbs := by
    rw [← Int.one_mul (2 ^ depth)]
    exact isMagnitude_whole (by decide)
  exact rounded.eq_of_isMagnitude (by omega) one

theorem place_part_nonneg (least : 0 ≤ pixel) (divided : ofQuotient? pixel resolution = some part) :
    0 ≤ place part :=
  (rounded_ofQuotient? filled divided).nonneg (Int.mul_nonneg least (by positivity))

end

section

variable {extent : Int} {length part part' : Float} (wide : 0 ≤ extent)
  (spans : ofInt? extent = some length)

include wide spans

theorem place_length_nonneg : 0 ≤ place length :=
  (rounded_ofInt? spans).nonneg (Int.mul_nonneg wide (by positivity))

theorem product_le (finite : IsFinite part) (finite' : IsFinite part')
    (order : place part ≤ place part') : place (length * part) ≤ place (length * part') := by
  have rounded := rounded_mul (isFinite_ofInt? spans) finite
  have unit : 0 < 2 ^ depth := Nat.two_pow_pos depth
  refine (le_iff.mp (rounded.le (rounded_mul (isFinite_ofInt? spans) finite') unit unit ?_)).2.2
  exact Int.mul_le_mul_of_nonneg_right
    (Int.mul_le_mul_of_nonneg_left order (place_length_nonneg wide spans)) (Int.natCast_nonneg _)

omit wide in
theorem place_product_zero (finite : IsFinite part) (nothing : place part = 0) :
    place (length * part) = 0 := by
  have rounded := rounded_mul (isFinite_ofInt? spans) finite
  rw [nothing, Int.mul_zero, ← Int.zero_mul (2 ^ depth : Nat)] at rounded
  exact rounded.eq_of_isMagnitude (Nat.two_pow_pos depth) isMagnitude_zero

omit wide in
theorem place_product_one (finite : IsFinite part) (one : place part = 2 ^ depth) :
    place (length * part) = place length := by
  have rounded := rounded_mul (isFinite_ofInt? spans) finite
  have unit : (2 : Int) ^ depth = (2 ^ depth : Nat) := by push_cast; rfl
  rw [one, unit] at rounded
  exact rounded.eq_of_isMagnitude (Nat.two_pow_pos depth) (isFinite_ofInt? spans).isMagnitude

theorem isFinite_product (finite : IsFinite part) (finite' : IsFinite part')
    (least : 0 ≤ place part) (most : place part ≤ place part') (one : place part' = 2 ^ depth) :
    IsFinite (length * part) := by
  have rounded := rounded_mul (isFinite_ofInt? spans) finite
  have lower := rounded.nonneg (Int.mul_nonneg (place_length_nonneg wide spans) least)
  have upper := product_le wide spans finite finite' most
  rw [place_product_one spans finite' one] at upper
  have bounded := (isFinite_ofInt? spans).isMagnitude.1
  exact isFinite_of_place rounded.1 (by omega)

end

theorem value?_add {first second : Float} (finite : IsFinite first) (finite' : IsFinite second)
    {number : Int} (small : number.natAbs ≤ 2 ^ 53)
    (total : place first + place second = number * 2 ^ depth) :
    (ofFloat (first + second)).value? = some (number : ℚ) := by
  have rounded := rounded_add finite finite'
  have magnitude := isMagnitude_whole small
  rw [total, ← Int.mul_one (number * 2 ^ depth)] at rounded
  have placed := rounded.eq_of_isMagnitude Nat.one_pos magnitude
  exact (isFinite_of_place rounded.1 (placed ▸ magnitude.1)).value?_eq_some placed

namespace Frame

section

variable {origin extent resolution pixel next : Int} {edge edge' : Float} (wide : 0 ≤ extent)
  (filled : 0 < resolution)

include wide filled

theorem coordinate_le (least : 0 ≤ pixel) (later : pixel ≤ next) (most : next ≤ resolution)
    (computed : coordinate origin extent pixel resolution = .ok edge)
    (computed' : coordinate origin extent next resolution = .ok edge') : edge ≤ edge' := by
  obtain ⟨_, part, length, start, divided, spans, begins, rfl⟩ := coordinate_eq_ok_iff.mp computed
  obtain ⟨_, part', length', start', divided', spans', begins', rfl⟩ :=
    coordinate_eq_ok_iff.mp computed'
  obtain rfl : length = length' := Option.some.inj (spans.symm.trans spans')
  obtain rfl : start = start' := Option.some.inj (begins.symm.trans begins')
  obtain ⟨one, whole⟩ := Option.isSome_iff_exists.mp
    (ofQuotient?_fraction (Int.le_of_lt filled) filled (Int.le_refl resolution))
  have finite := isFinite_ofQuotient? divided
  have finite' := isFinite_ofQuotient? divided'
  have unit := isFinite_ofQuotient? whole
  have exact := place_part_one filled whole
  have positive := place_part_nonneg filled least divided
  have between := part_le filled later divided divided'
  have below := part_le filled most divided' whole
  have product := isFinite_product wide spans finite unit positive (Int.le_trans between below) exact
  have product' :=
    isFinite_product wide spans finite' unit (Int.le_trans positive between) below exact
  refine (rounded_add (isFinite_ofInt? begins) product).le
    (rounded_add (isFinite_ofInt? begins) product') Nat.one_pos Nat.one_pos ?_
  have order := product_le wide spans finite finite' between
  omega

omit wide in
theorem coordinate_first (small : origin.natAbs ≤ 2 ^ 53)
    (computed : coordinate origin extent 0 resolution = .ok edge) :
    (ofFloat edge).value? = some (origin : ℚ) := by
  obtain ⟨_, part, length, start, divided, spans, begins, rfl⟩ := coordinate_eq_ok_iff.mp computed
  have nothing := place_product_zero spans (isFinite_ofQuotient? divided)
    (place_part_zero filled divided)
  have number := rounded_mul (isFinite_ofInt? spans) (isFinite_ofQuotient? divided)
  have finite : IsFinite (length * part) :=
    isFinite_of_place number.1 (nothing ▸ infinityUnits_pos)
  exact value?_add (isFinite_ofInt? begins) finite small
    (by rw [nothing, Int.add_zero, place_ofInt? begins small])

theorem coordinate_last (small : origin.natAbs ≤ 2 ^ 53) (small' : extent.natAbs ≤ 2 ^ 53)
    (short : (origin + extent).natAbs ≤ 2 ^ 53)
    (computed : coordinate origin extent resolution resolution = .ok edge) :
    (ofFloat edge).value? = some ((origin + extent : Int) : ℚ) := by
  obtain ⟨_, part, length, start, divided, spans, begins, rfl⟩ := coordinate_eq_ok_iff.mp computed
  have finite := isFinite_ofQuotient? divided
  have one := place_part_one filled divided
  have whole := place_product_one spans finite one
  have least := place_part_nonneg filled (Int.le_of_lt filled) divided
  have product := isFinite_product wide spans finite finite least (Int.le_refl _) one
  refine value?_add (isFinite_ofInt? begins) product short ?_
  rw [whole, place_ofInt? begins small, place_ofInt? spans small', Int.add_mul]

end

/-- The edges of the pixels along one side of a frame: they exist and are in order, and the first and
the last are the ends of the frame when those and its size are doubles. -/
structure Tiled (origin extent resolution : Int) : Prop where
  exist : ∀ pixel, 0 ≤ pixel → pixel ≤ resolution →
    ∃ edge, coordinate origin extent pixel resolution = .ok edge
  ordered : ∀ pixel next edge edge', 0 ≤ pixel → pixel ≤ next → next ≤ resolution →
    coordinate origin extent pixel resolution = .ok edge →
    coordinate origin extent next resolution = .ok edge' → edge ≤ edge'
  ends : origin.natAbs ≤ 2 ^ 53 → extent.natAbs ≤ 2 ^ 53 → (origin + extent).natAbs ≤ 2 ^ 53 →
    ∃ first last, coordinate origin extent 0 resolution = .ok first ∧
      coordinate origin extent resolution resolution = .ok last ∧
      (ofFloat first).value? = some (origin : ℚ) ∧
      (ofFloat last).value? = some ((origin + extent : Int) : ℚ)

theorem tiled {origin extent resolution : Int} (wide : 0 < extent) (filled : 0 < resolution)
    (fits : (ofInt? origin).isSome) (fits' : (ofInt? extent).isSome) :
    Tiled origin extent resolution where
  exist _ least most := coordinate_exists filled fits fits' least most
  ordered _ _ _ _ least later most := coordinate_le (Int.le_of_lt wide) filled least later most
  ends small small' short := by
    have whole := Int.le_of_lt filled
    obtain ⟨first, begins⟩ := coordinate_exists filled fits fits' (Int.le_refl 0) whole
    obtain ⟨last, ends⟩ := coordinate_exists filled fits fits' whole (Int.le_refl resolution)
    exact ⟨first, last, begins, ends, coordinate_first filled small begins,
      coordinate_last (Int.le_of_lt wide) filled small small' short ends⟩

end Frame

namespace Layout

variable {layout : Layout} {limit : Int}

theorem sides_of_samples {equations : List Node} {x₁ x₂ : Float} {samples : List Samples}
    (sampled : (equations.mapM fun equation => do
      return (⟨← equation.branches limit x₁, ← equation.branches limit x₂⟩ : Samples)) = .ok samples) :
    equations.map (Node.branches limit x₁) = (samples.map Samples.left).map .ok ∧
      equations.map (Node.branches limit x₂) = (samples.map Samples.right).map .ok := by
  induction equations generalizing samples with
  | nil =>
    cases sampled
    exact ⟨rfl, rfl⟩
  | cons equation equations ih =>
    simp only [List.mapM_cons, bind_eq_ok_iff] at sampled
    obtain ⟨pair, ⟨left, first, right, second, paired⟩, rest, later, listed⟩ := sampled
    cases paired
    cases listed
    obtain ⟨lefts, rights⟩ := ih later
    simp [first, second, lefts, rights]

theorem samples_meet {columns : Nat → Float} {count i : Nat}
    (edges : Edges layout.frame.x layout.frame.width count columns) (inside : i + 1 < count)
    {samples samples' : List Samples} (sampled : layout.sample limit i count = .ok samples)
    (sampled' : layout.sample limit (i + 1 : Nat) count = .ok samples') :
    samples.map Samples.right = samples'.map Samples.left := by
  rw [sample_eq edges (Nat.lt_of_succ_lt inside)] at sampled
  rw [sample_eq edges inside] at sampled'
  have same := (sides_of_samples sampled).2.symm.trans (sides_of_samples sampled').1
  exact (List.map_inj_right fun _ _ => Except.ok.inj).mp same

/-- Rows from the top down: each is the right way up and begins where the one below it ends, and the
first and the last are at the ends of the frame when those and its size are doubles. -/
structure Stacked (layout : Layout) {count : Nat} (bands : Vector Band count) : Prop where
  ordered : ∀ j (_ : j < count), bands[j].bottom ≤ bands[j].top
  meet : ∀ j (_ : j + 1 < count), bands[j].bottom = bands[j + 1].top
  ends : ∀ _ : 0 < count, layout.frame.y.natAbs ≤ 2 ^ 53 → layout.frame.height.natAbs ≤ 2 ^ 53 →
    (layout.frame.y + layout.frame.height).natAbs ≤ 2 ^ 53 →
    (ofFloat bands[0].top).value? = some ((layout.frame.y + layout.frame.height : Int) : ℚ) ∧
      (ofFloat bands[count - 1].bottom).value? = some (layout.frame.y : ℚ)

theorem exists_stacked (high : 0 ≤ layout.frame.height) {rows : Nat → Float} {count : Nat}
    (edges : Edges layout.frame.y layout.frame.height count rows) :
    ∃ bands : Vector Band count,
      collect count (fun j => layout.band j count) = .ok bands ∧ layout.Stacked bands := by
  obtain ⟨bands, banded, placed⟩ := bands_exist edges
  refine ⟨bands, banded, fun j small => ?_, fun j small => ?_, fun filled small small' short => ?_⟩
  · rw [placed j small]
    have counted : (0 : Int) < count := Int.natCast_pos.mpr (Nat.zero_lt_of_lt small)
    exact Frame.coordinate_le high counted (Int.natCast_nonneg _) (Int.ofNat_le.mpr (Nat.sub_le _ 1))
      (Int.ofNat_le.mpr (Nat.sub_le count j)) (edges _ (by omega)) (edges _ (Nat.sub_le count j))
  · rw [placed j (Nat.lt_of_succ_lt small), placed (j + 1) small, Nat.sub_sub]
  · have counted : (0 : Int) < count := Int.natCast_pos.mpr filled
    have least : count - (count - 1) - 1 = 0 := by omega
    rw [placed 0 filled, Nat.sub_zero, placed (count - 1) (by omega), least]
    exact ⟨Frame.coordinate_last high counted small small' short (edges count (Nat.le_refl count)),
      Frame.coordinate_first counted small (edges 0 (Nat.zero_le count))⟩

/-- Pixels tile the frame: along each side their edges run from one end to the other, each row begins
where the row below it ends, and each column where the column to its left does. -/
theorem pixels_tile :
    (∀ origin extent resolution : Int, 0 < extent → 0 < resolution →
      (ofInt? origin).isSome → (ofInt? extent).isSome → Frame.Tiled origin extent resolution) ∧
    ∀ layout : Layout, layout.Sized →
      (∀ number ∈ [layout.frame.x, layout.frame.y, layout.frame.width, layout.frame.height],
        (ofInt? number).isSome) →
      (∃ bands : Vector Band layout.pixels.height.toNat,
        collect layout.pixels.height.toNat
          (fun j => layout.band j layout.pixels.height.toNat) = .ok bands ∧ layout.Stacked bands) ∧
      ∀ (limit : Int) (i : Nat) (samples samples' : List Samples),
        i + 1 < layout.pixels.width.toNat →
        layout.sample limit i layout.pixels.width.toNat = .ok samples →
        layout.sample limit (i + 1 : Nat) layout.pixels.width.toNat = .ok samples' →
        samples.map Samples.right = samples'.map Samples.left := by
  refine ⟨fun _ _ _ => Frame.tiled, fun layout sized fits => ?_⟩
  have wide := Int.pos_iff_toNat_pos.mp sized.pixels.1
  have high := Int.pos_iff_toNat_pos.mp sized.pixels.2
  obtain ⟨columns, across⟩ := edges_exist wide (fits layout.frame.x (by simp))
    (fits layout.frame.width (by simp))
  obtain ⟨rows, up⟩ := edges_exist high (fits layout.frame.y (by simp))
    (fits layout.frame.height (by simp))
  refine ⟨exists_stacked (Int.le_of_lt sized.frame.2) up, ?_⟩
  intro limit i samples samples' inside sampled sampled'
  exact samples_meet across inside sampled sampled'

theorem pixels_tile_thirds :
    (∃ first last, Frame.coordinate (-1) 2 0 3 = .ok first ∧ Frame.coordinate (-1) 2 3 3 = .ok last ∧
      (ofFloat first).value? = some (-1 : ℚ) ∧ (ofFloat last).value? = some (1 : ℚ)) ∧
    ∃ bands : Vector Band 3,
      collect 3 (fun j => Layout.band ⟨some ⟨0, -1, 1, 2⟩, some ⟨1, 3⟩, none, false, []⟩ j 3) =
        .ok bands ∧ bands[0].bottom = bands[1].top ∧ bands[1].bottom = bands[2].top := by
  have sides := pixels_tile.1 (-1) 2 3 (by decide) (by decide) (by decide +kernel) (by decide +kernel)
  obtain ⟨⟨bands, banded, stacked⟩, _⟩ :=
    pixels_tile.2 ⟨some ⟨0, -1, 1, 2⟩, some ⟨1, 3⟩, none, false, []⟩ ⟨by decide, by decide⟩
      (by decide +kernel)
  exact ⟨by simpa using sides.ends (by decide) (by decide) (by decide),
    bands, banded, stacked.meet 0 (by decide), stacked.meet 1 (by decide)⟩

end Layout

end PlotScript

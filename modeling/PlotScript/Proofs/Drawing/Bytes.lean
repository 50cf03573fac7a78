import Mathlib.Data.List.OfFn
import PlotScript.Raster.Colour

namespace PlotScript

namespace Colour

def entries (colour : Colour) : List Int := colour.map fun byte => (byte.toNat : Int)

@[simp] theorem length_entries (colour : Colour) : colour.entries.length = colour.length :=
  List.length_map _

def AreBytes (entries : List Int) : Prop := ∀ entry ∈ entries, 0 ≤ entry ∧ entry < 256

instance (entries : List Int) : Decidable (AreBytes entries) :=
  inferInstanceAs (Decidable (∀ entry ∈ entries, _))

theorem ofEntries_eq_ok {entries : List Int} (bytes : AreBytes entries) :
    ∃ colour, ofEntries entries = .ok colour ∧ colour.entries = entries := by
  induction entries with
  | nil => exact ⟨[], rfl, rfl⟩
  | cons entry rest ih =>
    obtain ⟨byte, others⟩ := List.forall_mem_cons.mp bytes
    obtain ⟨colour, found, same⟩ := ih others
    refine ⟨entry.toNat.toUInt8 :: colour, ?_, ?_⟩
    · rw [ofEntries, if_pos byte, found]
      rfl
    · have value : ((entry.toNat.toUInt8).toNat : Int) = entry := by
        rw [UInt8.toNat_ofNat']
        omega
      rw [Colour.entries, List.map_cons, value]
      exact congrArg (entry :: ·) same

theorem ofEntries_eq_error {entries : List Int} (unfit : ¬ AreBytes entries) :
    ofEntries entries = .error .byteOutOfRange := by
  induction entries with
  | nil => exact absurd (List.forall_mem_nil _) unfit
  | cons entry rest ih =>
    rw [ofEntries]
    split
    · next byte =>
      have later : ¬ AreBytes rest := fun others => unfit (List.forall_mem_cons.mpr ⟨byte, others⟩)
      rw [ih later]
      rfl
    · rfl

end Colour

namespace Raster

section

variable {α β : Type} (part : α → List β) {size : Nat} {list : List α}

theorem length_flatMap_parts (each : ∀ a ∈ list, (part a).length = size) :
    (list.flatMap part).length = list.length * size := by
  rw [List.length_flatMap, List.map_congr_left each, List.map_const', List.sum_replicate_nat]

theorem take_drop_flatMap (each : ∀ a ∈ list, (part a).length = size) {k : Nat}
    (inside : k < list.length) : ((list.flatMap part).drop (k * size)).take size = part list[k] := by
  induction list generalizing k with
  | nil => cases inside
  | cons a rest ih =>
    obtain ⟨head, tail⟩ := List.forall_mem_cons.mp each
    cases k with
    | zero => simp [← head]
    | succ k =>
      rw [List.flatMap_cons, Nat.succ_mul, Nat.add_comm, ← List.drop_drop, ← head, List.drop_left, head]
      exact ih tail (Nat.lt_of_succ_lt_succ inside)

end

section

variable (raster : Raster)

theorem length_rows : raster.rows.length = raster.height := List.length_ofFn

theorem length_row : ∀ row ∈ raster.rows, row.length = raster.width :=
  List.forall_mem_ofFn_iff.mpr fun _ => List.length_ofFn

theorem getElem?_flatten_rows (i : Fin raster.width) (j : Fin raster.height) :
    raster.rows.flatten[j * raster.width + i]? = some (raster.isOn i j) := by
  have inside : (j : Nat) < raster.rows.length := by simp [length_rows]
  have row : (raster.rows.flatten.drop (j * raster.width)).take raster.width = raster.rows[j] := by
    simpa using take_drop_flatMap id raster.length_row inside
  rw [← List.getElem?_drop, ← List.getElem?_take_of_lt i.isLt, row]
  simp [rows]

end

def pixelBytes (raster : Raster) (size : Nat) (i : Fin raster.width) (j : Fin raster.height)
    (bytes : List UInt8) : List Int :=
  Colour.entries ((bytes.drop ((j * raster.width + i) * size)).take size)

section

variable {foreground background : List Int}

theorem bytes_eq_ok (ink : Colour.AreBytes foreground) (paper : Colour.AreBytes background)
    (same : foreground.length = background.length) (raster : Raster) :
    ∃ bytes, raster.bytes foreground background = .ok bytes ∧
      bytes.length = raster.width * raster.height * foreground.length ∧
        ∀ i j, raster.pixelBytes foreground.length i j bytes =
          if raster.isOn i j then foreground else background := by
  obtain ⟨black, found, rfl⟩ := Colour.ofEntries_eq_ok ink
  obtain ⟨white, found', rfl⟩ := Colour.ofEntries_eq_ok paper
  simp only [Colour.length_entries] at same ⊢
  let part (pixel : Bool) : List UInt8 := if pixel then black else white
  have each : ∀ pixel ∈ raster.rows.flatten, (part pixel).length = black.length := by
    intro pixel _
    cases pixel with
    | true => rfl
    | false => exact same.symm
  have pixels : raster.rows.flatten.length = raster.width * raster.height := by
    have counted := length_flatMap_parts id raster.length_row
    rwa [List.flatMap_id, length_rows, Nat.mul_comm] at counted
  refine ⟨raster.rows.flatten.flatMap part, ?_, ?_, fun i j => ?_⟩
  · rw [bytes, found, found']
    rw [List.flatten_eq_flatMap, List.flatMap_assoc]
    rfl
  · rw [length_flatMap_parts part each, pixels]
  · obtain ⟨inside, pixel⟩ := List.getElem?_eq_some_iff.mp (raster.getElem?_flatten_rows i j)
    rw [pixelBytes, take_drop_flatMap part each inside, pixel]
    cases raster.isOn i j <;> rfl

end

theorem eq_of_bytes {foreground background : List Int} (ink : Colour.AreBytes foreground)
    (paper : Colour.AreBytes background) (same : foreground.length = background.length)
    (differ : foreground ≠ background) {raster other : Raster} (wide : raster.width = other.width)
    (high : raster.height = other.height)
    (equal : raster.bytes foreground background = other.bytes foreground background) :
    raster = other := by
  obtain ⟨width, height, columns⟩ := raster
  obtain ⟨width', height', columns'⟩ := other
  cases wide
  cases high
  obtain ⟨bytes, found, _, pixels⟩ := bytes_eq_ok ink paper same ⟨width, height, columns⟩
  obtain ⟨bytes', found', _, pixels'⟩ := bytes_eq_ok ink paper same ⟨width, height, columns'⟩
  cases found.symm.trans (equal.trans found')
  congr
  ext i wide j high
  have colour := (pixels ⟨i, wide⟩ ⟨j, high⟩).symm.trans (pixels' ⟨i, wide⟩ ⟨j, high⟩)
  have told (on on' : Bool) :
      ((if on then foreground else background) = if on' then foreground else background) →
        on = on' := by
    cases on <;> cases on' <;> simp [differ, differ.symm]
  exact told _ _ colour

theorem bytes_eq_error {foreground background : List Int}
    (unfit : ¬ (Colour.AreBytes foreground ∧ Colour.AreBytes background)) (raster : Raster) :
    raster.bytes foreground background = .error .byteOutOfRange := by
  rw [bytes]
  by_cases ink : Colour.AreBytes foreground
  · obtain ⟨colour, found, _⟩ := Colour.ofEntries_eq_ok ink
    rw [found, Colour.ofEntries_eq_error fun paper => unfit ⟨ink, paper⟩]
    rfl
  · rw [Colour.ofEntries_eq_error ink]
    rfl

/-- The bytes of a raster are exact and lossless. With two colours of one length, whose entries are
bytes, every pixel has its own place, and there the colour that it is drawn in; where the colours differ,
rasters of one size with the same bytes are the same. An entry that is no byte is refused, whether or
not a pixel has its colour. -/
theorem bytes_lossless (foreground background : List Int) :
    (Colour.AreBytes foreground → Colour.AreBytes background →
      foreground.length = background.length →
        (∀ raster : Raster, ∃ bytes, raster.bytes foreground background = .ok bytes ∧
          bytes.length = raster.width * raster.height * foreground.length ∧
            ∀ i j, raster.pixelBytes foreground.length i j bytes =
              if raster.isOn i j then foreground else background) ∧
        (foreground ≠ background → ∀ raster other : Raster, raster.width = other.width →
          raster.height = other.height →
            raster.bytes foreground background = other.bytes foreground background →
              raster = other)) ∧
    ∀ entry ∈ foreground ++ background, ¬ (0 ≤ entry ∧ entry < 256) → ∀ raster : Raster,
      raster.bytes foreground background = .error .byteOutOfRange := by
  refine ⟨fun ink paper same => ⟨bytes_eq_ok ink paper same, ?_⟩, ?_⟩
  · intro differ raster other wide high equal
    exact eq_of_bytes ink paper same differ wide high equal
  · intro entry member unfit raster
    refine bytes_eq_error (fun fit => unfit ?_) raster
    exact (List.mem_append.mp member).elim (fit.1 entry) (fit.2 entry)

theorem bytes_lossless_pair :
    let raster : Raster := ⟨2, 1, #v[#v[true], #v[false]]⟩
    let other : Raster := ⟨2, 1, #v[#v[false], #v[true]]⟩
    (∃ bytes, raster.bytes [255, 0, 0] [0, 0, 255] = .ok bytes ∧ bytes.length = 6 ∧
      raster.pixelBytes 3 0 0 bytes = [255, 0, 0] ∧ raster.pixelBytes 3 1 0 bytes = [0, 0, 255]) ∧
    raster.bytes [255, 0, 0] [0, 0, 255] ≠ other.bytes [255, 0, 0] [0, 0, 255] ∧
    (⟨0, 0, #v[]⟩ : Raster).bytes [0] [256] = .error .byteOutOfRange := by
  intro raster other
  have red : Colour.AreBytes [255, 0, 0] := by decide
  have blue : Colour.AreBytes [0, 0, 255] := by decide
  obtain ⟨written, told⟩ := (bytes_lossless [255, 0, 0] [0, 0, 255]).1 red blue rfl
  obtain ⟨bytes, found, counted, pixels⟩ := written raster
  refine ⟨⟨bytes, found, counted, pixels 0 0, pixels 1 0⟩, fun equal => ?_, ?_⟩
  · have different : raster ≠ other := by decide
    exact different (told (by decide) raster other rfl rfl equal)
  · exact (bytes_lossless [0] [256]).2 256 (by decide) (by decide) _

end Raster

end PlotScript

import PlotScript.Proofs.Drawing.Column

namespace PlotScript

open Binary64

def between (low high : Float) : Set Float := {value | low ≤ value ∧ value ≤ high}

section

variable {low high low' high' : Float} (ordered : low ≤ high)

include ordered

theorem between_subset_iff : between low high ⊆ between low' high' ↔ low' ≤ low ∧ high ≤ high' := by
  obtain ⟨number, number', _⟩ := le_iff.mp ordered
  constructor
  · intro inside
    exact ⟨(inside ⟨Binary64.le_refl number, ordered⟩).1, (inside ⟨ordered, Binary64.le_refl number'⟩).2⟩
  · rintro ⟨least, most⟩ value ⟨above, below⟩
    exact ⟨Binary64.le_trans least above, Binary64.le_trans below most⟩

theorem between_meets_iff (ordered' : low' ≤ high') :
    (between low high ∩ between low' high').Nonempty ↔ low ≤ high' ∧ low' ≤ high := by
  constructor
  · rintro ⟨value, ⟨least, most⟩, ⟨least', most'⟩⟩
    exact ⟨Binary64.le_trans least most', Binary64.le_trans least' most⟩
  · rintro ⟨below, below'⟩
    obtain ⟨number, _, _⟩ := le_iff.mp ordered
    obtain ⟨number', _, _⟩ := le_iff.mp ordered'
    -- The greater of the two lower bounds is in both.
    rcases Binary64.lt_or_le number number' with less | least
    · exact ⟨low', ⟨Binary64.le_of_lt less, below'⟩, ⟨Binary64.le_refl number', ordered'⟩⟩
    · exact ⟨low, ⟨Binary64.le_refl number, ordered⟩, ⟨least, below⟩⟩

end

namespace Band

def inside (band : Band) : Set Float := between band.bottom band.top

variable {band : Band} {l r : Float} (ordered : band.bottom ≤ band.top)

include ordered

theorem straddled_falling_iff (falls : r < l) :
    (band.bottom ≤ l ∧ r ≤ band.top) ∨ (l ≤ band.bottom ∧ band.top ≤ r) ↔
      (between r l ∩ band.inside).Nonempty := by
  rw [inside, between_meets_iff (Binary64.le_of_lt falls) ordered]
  constructor
  · rintro (⟨above, below⟩ | ⟨below, above⟩)
    · exact ⟨below, above⟩
    · have rises := Binary64.le_trans below (Binary64.le_trans ordered above)
      exact absurd rises (Binary64.not_le_of_lt falls)
  · rintro ⟨below, above⟩
    exact .inl ⟨above, below⟩

theorem straddled_rising_iff (rises : l ≤ r) :
    (band.bottom ≤ l ∧ r ≤ band.top) ∨ (l ≤ band.bottom ∧ band.top ≤ r) ↔
      between l r ⊆ band.inside ∨ band.inside ⊆ between l r := by
  rw [inside, between_subset_iff rises, between_subset_iff ordered]

end Band

theorem exists_block {P : Nat → Prop} {height : Nat}
    (convex : ∀ i j k, i ≤ j → j ≤ k → k < height → P i → P k → P j) :
    ∃ first last, ∀ k < height, P k ↔ first ≤ k ∧ k < last := by
  classical
  let marked := (Finset.range height).filter P
  have mem (k : Nat) : k ∈ marked ↔ k < height ∧ P k := by simp [marked]
  by_cases some : marked.Nonempty
  · refine ⟨marked.min' some, marked.max' some + 1, fun k small => ⟨fun holds => ?_, fun within => ?_⟩⟩
    · have member := (mem k).mpr ⟨small, holds⟩
      exact ⟨marked.min'_le k member, Nat.lt_succ_of_le (marked.le_max' k member)⟩
    · have least := (mem _).mp (marked.min'_mem some)
      have most := (mem _).mp (marked.max'_mem some)
      exact convex _ k _ within.1 (Nat.le_of_lt_succ within.2) most.1 least.2 most.2
  · refine ⟨0, 0, fun k small => ⟨fun holds => ?_, fun within => absurd within.2 (Nat.not_lt_zero k)⟩⟩
    exact absurd ⟨k, (mem k).mpr ⟨small, holds⟩⟩ some

theorem straddled_between {rows : Nat → Int} {height i j k : Nat} {l r : Int}
    (ordered : ∀ m n, m ≤ n → n ≤ height → rows m ≤ rows n) (low : i ≤ j) (high : j ≤ k)
    (small : k < height)
    (lower : (rows i ≤ l ∧ r ≤ rows (i + 1)) ∨ (l ≤ rows i ∧ rows (i + 1) ≤ r))
    (upper : (rows k ≤ l ∧ r ≤ rows (k + 1)) ∨ (l ≤ rows k ∧ rows (k + 1) ≤ r)) :
    (rows j ≤ l ∧ r ≤ rows (j + 1)) ∨ (l ≤ rows j ∧ rows (j + 1) ≤ r) := by
  rcases Nat.eq_or_lt_of_le low with rfl | low
  · exact lower
  rcases Nat.eq_or_lt_of_le high with rfl | high
  · exact upper
  have first := ordered i (i + 1) (by omega) (by omega)
  have second := ordered (i + 1) j low (by omega)
  have third := ordered j (j + 1) (by omega) (by omega)
  have fourth := ordered (j + 1) k high (by omega)
  have fifth := ordered k (k + 1) (by omega) small
  omega

namespace Band

theorem straddled_iff (band : Band) (ordered : band.bottom ≤ band.top) {l r : Float} :
    (band.bottom ≤ l ∧ r ≤ band.top) ∨ (l ≤ band.bottom ∧ band.top ≤ r) ↔
      IsNumber l ∧ IsNumber r ∧ (r < l → (between r l ∩ band.inside).Nonempty) ∧
        (l ≤ r → between l r ⊆ band.inside ∨ band.inside ⊆ between l r) := by
  constructor
  · intro straddled
    have numbers : IsNumber l ∧ IsNumber r := by
      rcases straddled with ⟨above, below⟩ | ⟨below, above⟩
      · exact ⟨(le_iff.mp above).2.1, (le_iff.mp below).1⟩
      · exact ⟨(le_iff.mp below).1, (le_iff.mp above).2.1⟩
    exact ⟨numbers.1, numbers.2, fun falls => (straddled_falling_iff ordered falls).mp straddled,
      fun rises => (straddled_rising_iff ordered rises).mp straddled⟩
  · rintro ⟨number, number', met, held⟩
    rcases Binary64.lt_or_le number' number with falls | rises
    · exact (straddled_falling_iff ordered falls).mpr (met falls)
    · exact (straddled_rising_iff ordered rises).mpr (held rises)

theorem isOn_pair_iff (band : Band) (l r : Float) :
    band.isOn ⟨[l], [r]⟩ ↔
      (band.bottom ≤ l ∧ r ≤ band.top) ∨ (l ≤ band.bottom ∧ band.top ≤ r) := by
  simp [isOn, straddledBy]

end Band

section

variable {rows : Nat → Float} {height : Nat} (ordered : ∀ k < height, rows k ≤ rows (k + 1))

include ordered

theorem places_ordered (m n : Nat) (later : m ≤ n) (inside : n ≤ height) :
    place (rows m) ≤ place (rows n) := by
  induction n, later using Nat.le_induction with
  | base => exact Int.le_refl _
  | succ n later ih =>
    calc
      place (rows m) ≤ place (rows n) := ih (Nat.le_of_lt inside)
      _ ≤ place (rows (n + 1)) := (le_iff.mp (ordered n inside)).2.2

theorem numbers_of_ordered {k : Nat} (inside : k ≤ height) (filled : 0 < height) :
    IsNumber (rows k) := by
  cases k with
  | zero => exact (le_iff.mp (ordered 0 filled)).1
  | succ k => exact (le_iff.mp (ordered k inside)).2.1

theorem isOn_convex {l r : Float} {i j k : Nat} (low : i ≤ j) (high : j ≤ k) (small : k < height)
    (lower : Band.isOn ⟨rows i, rows (i + 1)⟩ ⟨[l], [r]⟩)
    (upper : Band.isOn ⟨rows k, rows (k + 1)⟩ ⟨[l], [r]⟩) :
    Band.isOn ⟨rows j, rows (j + 1)⟩ ⟨[l], [r]⟩ := by
  rw [Band.isOn_pair_iff] at lower upper ⊢
  obtain ⟨number, number', _⟩ := (Band.straddled_iff ⟨rows k, rows (k + 1)⟩ (ordered k small)).mp upper
  have numbers (m : Nat) (inside : m ≤ height) : IsNumber (rows m) :=
    numbers_of_ordered ordered inside (Nat.zero_lt_of_lt small)
  have marked {m : Nat} (within : m ≤ k) := Layout.marked_iff numbers number number'
    (Nat.lt_of_le_of_lt within small)
  exact (marked high).mpr (straddled_between (places_ordered ordered) low high small
    ((marked (Nat.le_trans low high)).mp lower) ((marked (Nat.le_refl k)).mp upper))

end

/-- What a pair of samples straddles, as intervals: a falling pair what it meets, any other what it
holds or is held by, and a NaN nothing. So the rows that one pair marks are a block, and for a falling
pair they are all that it meets. -/
theorem isOn_marks :
    (∀ (band : Band) (samples : Samples), band.bottom ≤ band.top →
      (band.isOn samples ↔ ∃ l ∈ samples.left, ∃ r ∈ samples.right, IsNumber l ∧ IsNumber r ∧
        (r < l → (between r l ∩ band.inside).Nonempty) ∧
          (l ≤ r → between l r ⊆ band.inside ∨ band.inside ⊆ between l r))) ∧
    ∀ (rows : Nat → Float) (height : Nat), (∀ k < height, rows k ≤ rows (k + 1)) → ∀ l r : Float,
      (∃ first last, ∀ k < height,
        Band.isOn ⟨rows k, rows (k + 1)⟩ ⟨[l], [r]⟩ ↔ first ≤ k ∧ k < last) ∧
      (r < l → ∀ k < height, Band.isOn ⟨rows k, rows (k + 1)⟩ ⟨[l], [r]⟩ ↔
        (between r l ∩ between (rows k) (rows (k + 1))).Nonempty) := by
  refine ⟨fun band samples ordered => ?_, fun rows height ordered l r => ⟨?_, fun falls k small => ?_⟩⟩
  · rw [Layout.isOn_iff]
    simp only [Band.straddled_iff band ordered]
  · exact exists_block fun i j k low high small => isOn_convex ordered low high small
  · rw [Band.isOn_pair_iff]
    exact Band.straddled_falling_iff (ordered k small) falls

end PlotScript

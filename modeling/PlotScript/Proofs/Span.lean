import PlotScript.Span

namespace PlotScript.Span

/-- A stretch that runs forward, between the ends of another one of the same source. -/
structure Within (inner outer : Span) : Prop where
  source : inner.source = outer.source
  start : outer.start ≤ inner.start
  forward : inner.start ≤ inner.stop
  stop : inner.stop ≤ outer.stop

def Inside (span : Option Span) (outer : Span) : Prop := ∃ inner, span = some inner ∧ inner.Within outer

variable {first second inner middle outer : Span}

theorem Within.self (forward : outer.start ≤ outer.stop) : outer.Within outer :=
  ⟨rfl, Int.le_refl _, forward, Int.le_refl _⟩

theorem Within.itself (within : inner.Within outer) : inner.Within inner := .self within.forward

theorem Within.trans (within : inner.Within middle) (within' : middle.Within outer) :
    inner.Within outer where
  source := within.source.trans within'.source
  start := Int.le_trans within'.start within.start
  forward := within.forward
  stop := Int.le_trans within.stop within'.stop

theorem Within.hull (within : first.Within outer) (within' : second.Within outer) :
    (first.hull second).Within outer where
  source := within.source
  start := Int.le_min.mpr ⟨within.start, within'.start⟩
  forward := Int.le_trans (Int.min_le_left ..) (Int.le_trans within.forward (Int.le_max_left ..))
  stop := Int.max_le.mpr ⟨within.stop, within'.stop⟩

theorem within_hull (within : first.Within outer) (within' : second.Within outer) :
    first.Within (first.hull second) ∧ second.Within (first.hull second) := by
  have same : second.source = first.source := within'.source.trans within.source.symm
  exact ⟨⟨rfl, Int.min_le_left .., within.forward, Int.le_max_left ..⟩,
    ⟨same, Int.min_le_right .., within'.forward, Int.le_max_right ..⟩⟩

theorem Inside.trans {span : Option Span} (inside : Inside span middle) (within : middle.Within outer) :
    Inside span outer := by
  obtain ⟨inner, found, within'⟩ := inside
  exact ⟨inner, found, within'.trans within⟩

theorem Inside.hull? {span span' : Option Span} (inside : Inside span outer)
    (inside' : Inside span' outer) : Inside (hull? span span') outer := by
  obtain ⟨first, rfl, within⟩ := inside
  obtain ⟨second, rfl, within'⟩ := inside'
  exact ⟨_, rfl, within.hull within'⟩

end PlotScript.Span

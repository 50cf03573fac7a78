import PlotScript.Raster.Collect

/-! Results that may be failures: chains of them, and which failure a row of them ends with. -/

namespace PlotScript.Outcome

variable {ε α β γ : Type}

theorem bind_eq_ok_iff {first : Except ε α} {next : α → Except ε β} {value : β} :
    first >>= next = .ok value ↔ ∃ middle, first = .ok middle ∧ next middle = .ok value := by
  cases first with
  | error failure => simp [bind, Except.bind]
  | ok middle => simp [bind, Except.bind]

theorem bind_eq_error_iff {first : Except ε α} {next : α → Except ε β} {failure : ε} :
    first >>= next = .error failure ↔
      first = .error failure ∨ ∃ middle, first = .ok middle ∧ next middle = .error failure := by
  cases first with
  | error other => simp [bind, Except.bind]
  | ok middle => simp [bind, Except.bind]

theorem bind_bind_of_error {first : Except ε α} {second : Except ε β} {failure : ε}
    (failed : (first >>= fun _ => second >>= fun _ => Except.ok ()) = .error failure)
    (next : α → β → Except ε γ) :
    (first >>= fun a => second >>= fun b => next a b) = .error failure := by
  cases first with
  | error _ =>
    cases failed
    rfl
  | ok a =>
    cases second with
    | error _ =>
      cases failed
      rfl
    | ok b => cases failed

theorem mapError_bind_eq_ok {failure : ε → ε'} {first : Except ε α} {next : α → Except ε' β} {value : β}
    (finished : first.mapError failure >>= next = .ok value) :
    ∃ middle, first = .ok middle ∧ next middle = .ok value := by
  cases first with
  | error _ => cases finished
  | ok middle => exact ⟨middle, rfl, finished⟩

theorem ok_bind (middle : α) (next : α → Except ε β) : (Except.ok middle >>= next) = next middle :=
  rfl

section

variable (g : ε → ε')

theorem mapError_bind (first : Except ε α) (next : α → Except ε β) :
    (first >>= next).mapError g = first.mapError g >>= fun value => (next value).mapError g := by
  cases first <;> rfl

theorem mapError_mapM (f : α → Except ε β) (list : List α) :
    (list.mapM f).mapError g = list.mapM fun a => (f a).mapError g := by
  induction list with
  | nil => rfl
  | cons a rest ih =>
    simp only [List.mapM_cons, mapError_bind, ih]
    rfl

theorem mapError_collect (total : Nat) (f : Nat → Except ε α) :
    (collect total f).mapError g = collect total fun i => (f i).mapError g := by
  cases result : collect total f with
  | ok values =>
    refine (collect_eq_ok_iff.mpr fun i small => ?_).symm
    rw [collect_eq_ok_iff.mp result i small]
    rfl
  | error failure =>
    obtain ⟨i, small, failed, earlier⟩ := collect_eq_error_iff.mp result
    refine (collect_eq_error_iff.mpr ⟨i, small, by rw [failed]; rfl, fun j before => ?_⟩).symm
    obtain ⟨value, computed⟩ := earlier j before
    exact ⟨value, by rw [computed]; rfl⟩

end

def settled (outcome : Except ε α) : Except ε Unit := outcome.map fun _ => ()

def visit (f : α → Except ε β) : List α → Except ε Unit
  | [] => .ok ()
  | a :: rest => f a >>= fun _ => visit f rest

theorem settled_eq_ok_iff {outcome : Except ε α} :
    settled outcome = .ok () ↔ ∃ value, outcome = .ok value := by
  cases outcome with
  | error failure => simp [settled, Except.map]
  | ok value => simp [settled, Except.map]

theorem settled_eq_error_iff {outcome : Except ε α} {failure : ε} :
    settled outcome = .error failure ↔ outcome = .error failure := by
  cases outcome with
  | error other => simp [settled, Except.map]
  | ok value => simp [settled, Except.map]

theorem visit_eq_ok_iff {f : α → Except ε β} {list : List α} :
    visit f list = .ok () ↔ ∀ a ∈ list, ∃ value, f a = .ok value := by
  induction list with
  | nil => simp [visit]
  | cons a rest ih =>
    rw [visit, bind_eq_ok_iff, List.forall_mem_cons, ih]
    exact exists_and_right

theorem visit_eq_error_iff {f : α → Except ε β} {list : List α} {failure : ε} :
    visit f list = .error failure ↔ ∃ before a after, list = before ++ a :: after ∧
      f a = .error failure ∧ ∀ other ∈ before, ∃ value, f other = .ok value := by
  induction list with
  | nil => simp [visit]
  | cons a rest ih =>
    cases first : f a with
    | error found =>
      rw [visit, first]
      constructor
      · intro same
        cases same
        exact ⟨[], a, rest, rfl, first, by simp⟩
      · intro ⟨before, other, after, split, failed, earlier⟩
        cases before with
        | nil =>
          cases split
          rw [first] at failed
          cases failed
          rfl
        | cons head before =>
          cases split
          obtain ⟨value, computed⟩ := earlier a List.mem_cons_self
          rw [first] at computed
          cases computed
    | ok value =>
      rw [visit, first, ok_bind, ih]
      constructor
      · intro ⟨before, other, after, split, failed, earlier⟩
        exact ⟨a :: before, other, after, by rw [split]; rfl, failed,
          List.forall_mem_cons.mpr ⟨⟨value, first⟩, earlier⟩⟩
      · intro ⟨before, other, after, split, failed, earlier⟩
        cases before with
        | nil =>
          cases split
          rw [first] at failed
          cases failed
        | cons head before =>
          cases split
          exact ⟨before, other, after, rfl, failed, (List.forall_mem_cons.mp earlier).2⟩

theorem visit_append (f : α → Except ε β) (list more : List α) :
    visit f (list ++ more) = visit f list >>= fun _ => visit f more := by
  induction list with
  | nil => rfl
  | cons a rest ih =>
    rw [List.cons_append, visit, visit, ih]
    cases f a <;> rfl

theorem visit_flatMap {f : α → Except ε β} {g : γ → List α} {h : γ → Except ε β'} {list : List γ}
    (inner : ∀ c ∈ list, settled (h c) = visit f (g c)) : visit h list = visit f (list.flatMap g) := by
  induction list with
  | nil => rfl
  | cons c rest ih =>
    have head := inner c List.mem_cons_self
    have tail := ih fun other member => inner other (List.mem_cons_of_mem c member)
    rw [List.flatMap_cons, visit_append, ← head, ← tail, visit]
    cases h c <;> rfl

theorem settled_mapM (f : α → Except ε β) (list : List α) : settled (list.mapM f) = visit f list := by
  induction list with
  | nil => rfl
  | cons a rest ih =>
    rw [List.mapM_cons, visit, ← ih]
    cases f a with
    | error failure => rfl
    | ok value => cases rest.mapM f <;> rfl

theorem mem_of_mapM {f : α → Except ε β} {list : List α} {results : List β}
    (mapped : list.mapM f = .ok results) (b : β) : b ∈ results ↔ ∃ a ∈ list, f a = .ok b := by
  induction list generalizing results with
  | nil =>
    cases mapped
    simp
  | cons a rest ih =>
    simp only [List.mapM_cons, bind_eq_ok_iff] at mapped
    obtain ⟨value, first, values, remaining, finished⟩ := mapped
    cases finished
    simp only [List.mem_cons, ih remaining, exists_eq_or_imp, first, Except.ok.injEq]
    rw [eq_comm]

theorem settled_collect (total : Nat) (f : Nat → Except ε α) :
    settled (collect total f) = visit f (List.range total) := by
  cases result : collect total f with
  | ok values =>
    refine (visit_eq_ok_iff.mpr fun i member => ?_).symm
    have small := List.mem_range.mp member
    exact ⟨values[i], collect_eq_ok_iff.mp result i small⟩
  | error failure =>
    obtain ⟨i, small, failed, earlier⟩ := collect_eq_error_iff.mp result
    obtain ⟨later, rfl⟩ := Nat.exists_eq_add_of_lt small
    have split : List.range (i + later + 1) =
        List.range i ++ i :: (List.range later).map fun k => i + (k + 1) := by
      rw [Nat.add_assoc, List.range_add, List.range_succ_eq_map, List.map_cons, List.map_map]
      rfl
    refine (visit_eq_error_iff.mpr ⟨List.range i, i, _, split, failed, ?_⟩).symm
    intro j member
    exact earlier j (List.mem_range.mp member)

end PlotScript.Outcome

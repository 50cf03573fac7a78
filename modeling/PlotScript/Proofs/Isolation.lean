import Mathlib.Algebra.Field.Basic
import Mathlib.Algebra.Field.Rat
import PlotScript.Equation

/-!
What isolating the bound variable keeps. Read exactly, over a field, an equation and its solution
agree on every value of the variable for which neither divides by zero.
-/

namespace PlotScript

universe u

section

variable {F : Type u} [Field F] [DecidableEq F]

/-- The operators without rounding; a quotient by zero has no value. -/
def Operator.unrounded? : Operator → F → F → Option F
  | .add, a, b => some (a + b)
  | .sub, a, b => some (a - b)
  | .mul, a, b => some (a * b)
  | .div, a, b => if b = 0 then none else some (a / b)

/-- The exact value where the bound variable has the value `y` and whatever is not arithmetic has the
value that `operand` says. -/
def Node.unrounded? (operand : Node → Option F) (y : F) : Node → Option F
  | .arithmetic operator left right _ => do
    let a ← left.unrounded? operand y
    let b ← right.unrounded? operand y
    operator.unrounded? a b
  | node@(.symbol name _) => if name = boundName then some y else operand node
  | node => operand node

end

/-- One bound variable, and nothing but arithmetic above it. -/
inductive Node.Isolable : Node → Prop
  | bound (span : Option Span) : Isolable (.symbol boundName span)
  | left {operator : Operator} {a b : Node} {span : Option Span} (inner : Isolable a)
      (free : b.boundCount = 0) : Isolable (.arithmetic operator a b span)
  | right {operator : Operator} {a b : Node} {span : Option Span} (free : a.boundCount = 0)
      (inner : Isolable b) : Isolable (.arithmetic operator a b span)

theorem Node.Isolable.count {node : Node} (isolable : node.Isolable) : node.boundCount = 1 := by
  induction isolable with
  | bound span => rfl
  | left inner free ih => rw [Node.boundCount, ih, free]
  | right free inner ih => rw [Node.boundCount, ih, free]

namespace Equation

section

variable {F : Type u} [Field F] [DecidableEq F] {operand : Node → Option F} {y : F}

theorem unrounded_arithmetic {operator : Operator} {left right : Node} {span : Option Span} {value : F} :
    (Node.arithmetic operator left right span).unrounded? operand y = some value ↔
      ∃ a b, left.unrounded? operand y = some a ∧ right.unrounded? operand y = some b ∧
        operator.unrounded? a b = some value := by
  simp [Node.unrounded?, Option.bind_eq_some_iff]

theorem unrounded_inverse {operator : Operator} {a b value other inverted : F}
    (forward : operator.unrounded? a b = some value)
    (back : (inverse operator).unrounded? other b = some inverted) : value = other ↔ a = inverted := by
  cases operator with
  | add =>
    cases forward
    cases back
    exact eq_sub_iff_add_eq.symm
  | sub =>
    cases forward
    cases back
    exact sub_eq_iff_eq_add
  | mul =>
    simp only [inverse, Operator.unrounded?, Option.ite_none_left_eq_some] at back
    obtain ⟨nonzero, same⟩ := back
    cases forward
    cases same
    exact (eq_div_iff nonzero).symm
  | div =>
    simp only [Operator.unrounded?, Option.ite_none_left_eq_some] at forward
    obtain ⟨nonzero, same⟩ := forward
    cases same
    cases back
    exact div_eq_iff nonzero

theorem unrounded_undoRight {operator : Operator} {left right : Node} {span : Option Span}
    {a b value undone : F} (known : left.unrounded? operand y = some a)
    (forward : operator.unrounded? a b = some value)
    (back : (undoRight operator left right span).unrounded? operand y = some undone) :
    ∃ other, right.unrounded? operand y = some other ∧ (value = other ↔ b = undone) := by
  cases operator with
  | add =>
    obtain ⟨other, a', found, known', result⟩ := unrounded_arithmetic.mp back
    cases known.symm.trans known'
    cases forward
    cases result
    exact ⟨other, found, eq_sub_iff_add_eq'.symm⟩
  | sub =>
    obtain ⟨a', other, known', found, result⟩ := unrounded_arithmetic.mp back
    cases known.symm.trans known'
    cases forward
    cases result
    exact ⟨other, found, by rw [sub_eq_iff_eq_add, eq_sub_iff_add_eq, eq_comm, add_comm]⟩
  | mul =>
    obtain ⟨other, a', found, known', result⟩ := unrounded_arithmetic.mp back
    cases known.symm.trans known'
    simp only [Operator.unrounded?, Option.ite_none_left_eq_some] at result
    obtain ⟨nonzero, same⟩ := result
    cases forward
    cases same
    exact ⟨other, found, by rw [eq_div_iff nonzero, mul_comm]⟩
  | div =>
    obtain ⟨a', other, known', found, result⟩ := unrounded_arithmetic.mp back
    cases known.symm.trans known'
    simp only [Operator.unrounded?, Option.ite_none_left_eq_some] at forward result
    obtain ⟨nonzero, same⟩ := forward
    obtain ⟨nonzero', same'⟩ := result
    cases same
    cases same'
    exact ⟨other, found, by rw [div_eq_iff nonzero, eq_div_iff nonzero', eq_comm, mul_comm]⟩

end

theorem isolate_unrounded {left : Node} (isolable : left.Isolable) {right : Node}
    (free : right.boundCount = 0) :
    ∃ solved, isolate left right = some solved ∧ solved.boundCount = 0 ∧
      ∀ {F : Type u} [Field F] [DecidableEq F] (operand : Node → Option F) (y value result : F),
        left.unrounded? operand y = some value → solved.unrounded? operand y = some result →
          ∃ other, right.unrounded? operand y = some other ∧ (value = other ↔ y = result) := by
  -- Each step down moves one operand across, and keeps which values make the sides equal.
  induction isolable generalizing right with
  | bound span =>
    refine ⟨right, rfl, free, ?_⟩
    intro F _ _ operand y value result found solution
    cases found
    exact ⟨result, solution, Iff.rfl⟩
  | @left operator a b span inner known ih =>
    let across : Node := .arithmetic (inverse operator) right b (Span.hull? span right.span)
    have across_free : across.boundCount = 0 := by rw [Node.boundCount, free, known]
    obtain ⟨solved, isolated, solved_free, keeps⟩ := ih across_free
    refine ⟨solved, ?_, solved_free, ?_⟩
    · rw [isolate, if_pos (by rw [inner.count]; decide)]
      exact isolated
    · intro F _ _ operand y value result found solution
      obtain ⟨first, second, found_a, found_b, forward⟩ := unrounded_arithmetic.mp found
      obtain ⟨moved, found_moved, equal⟩ := keeps operand y first result found_a solution
      obtain ⟨other, second', found_right, found_b', back⟩ := unrounded_arithmetic.mp found_moved
      cases found_b.symm.trans found_b'
      exact ⟨other, found_right, (unrounded_inverse forward back).trans equal⟩
  | @right operator a b span known inner ih =>
    let across : Node := undoRight operator a right (Span.hull? span right.span)
    have across_free : across.boundCount = 0 := by
      cases operator <;> simp [across, undoRight, Node.boundCount, free, known]
    obtain ⟨solved, isolated, solved_free, keeps⟩ := ih across_free
    refine ⟨solved, ?_, solved_free, ?_⟩
    · rw [isolate, if_neg (by rw [known]; decide)]
      exact isolated
    · intro F _ _ operand y value result found solution
      obtain ⟨first, second, found_a, found_b, forward⟩ := unrounded_arithmetic.mp found
      obtain ⟨moved, found_moved, equal⟩ := keeps operand y second result found_b solution
      obtain ⟨other, found_right, same⟩ := unrounded_undoRight found_a forward found_moved
      exact ⟨other, found_right, same.trans equal⟩

/-- The solution of an equation with only arithmetic above its bound variable exists, is free of the
variable, and is the one value that solves it, as far as no divisor is zero. -/
theorem solve_unrounded {left right : Node} (isolable : left.Isolable) (free : right.boundCount = 0) :
    ∃ solved, solve left right = some solved ∧ solved.boundCount = 0 ∧
      ∀ {F : Type u} [Field F] [DecidableEq F] (operand : Node → Option F) (y value result : F),
        left.unrounded? operand y = some value → solved.unrounded? operand y = some result →
          ∃ other, right.unrounded? operand y = some other ∧ (value = other ↔ y = result) := by
  rw [solve, if_pos ⟨isolable.count, free⟩]
  exact isolate_unrounded isolable free

theorem solve_unrounded_quotient :
    let operand : Node → Option ℚ
      | .number value _ => some (if value == 4 then 4 else if value == 2 then 2 else 1)
      | _ => some 8
    let divisor : Node := .arithmetic .sub
      (.arithmetic .mul (.number 2 none) (.symbol "y" none) none) (.number 1 none) none
    let left : Node := .arithmetic .div (.number 4 none) divisor none
    left.Isolable ∧ ∃ solved, solve left (.symbol "x" none) = some solved ∧
      left.unrounded? operand (3 / 4) = some 8 ∧ solved.unrounded? operand (3 / 4) = some (3 / 4) ∧
        ∃ other, Node.unrounded? operand (3 / 4) (.symbol "x" none) = some other ∧
          ((8 : ℚ) = other ↔ (3 / 4 : ℚ) = 3 / 4) := by
  intro operand divisor left
  have isolable : left.Isolable := .right rfl (.left (.right rfl (.bound none)) rfl)
  have free : (Node.symbol "x" none).boundCount = 0 := by decide
  obtain ⟨solved, found, _, keeps⟩ := solve_unrounded isolable free
  have value : left.unrounded? operand (3 / 4) = some 8 := by decide +kernel
  have result : solved.unrounded? operand (3 / 4) = some (3 / 4) := by
    cases found
    decide +kernel
  exact ⟨isolable, solved, found, value, result, keeps operand (3 / 4) 8 (3 / 4) value result⟩

end Equation

end PlotScript

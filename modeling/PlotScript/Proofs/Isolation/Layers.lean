import Mathlib.Algebra.GroupWithZero.Nat
import Mathlib.Algebra.BigOperators.Group.List.Basic
import PlotScript.Proofs.Parts

/-!
The way to the bound variable. The operations around it are layers, each with the operand that the way
leaves aside; isolating the variable moves one layer after the other across, and so makes of every layer
one operation around the other side of the equation.
-/

namespace PlotScript

namespace Node

def size : Node → Nat
  | number _ _ | symbol _ _ | directive _ _ => 1
  | trig _ argument _ => argument.size + 1
  | equals left right _ | arithmetic _ left right _ | power left right _ | root left right _ _ =>
    left.size + right.size + 1

def isImplicitRoot : Node → Bool
  | root _ _ explicit _ => !explicit
  | _ => false

theorem size_eq (node : Node) : node.size = (node.children.map size).sum + 1 := by
  cases node <;> simp [size, children]

theorem boundCount_eq {node : Node} (operation : node.IsOperation) :
    node.boundCount = (node.children.map boundCount).sum := by
  cases node <;> simp_all [IsOperation, boundCount, children]

/-- The operations of `made` put the trees of `parts` together to one tree, each of them once and as it
is. -/
inductive Assembled : (made parts : List Node) → Node → Prop
  | part (node : Node) : Assembled [] [node] node
  | operation {made made' parts parts' : List Node} {a b node : Node} :
      Assembled made parts a → Assembled made' parts' b → node.IsOperation → node.children = [a, b] →
        Assembled (node :: (made ++ made')) (parts ++ parts') node

section

variable {made parts : List Node} {node : Node}

theorem Assembled.size (assembled : Assembled made parts node) :
    node.size = (parts.map Node.size).sum + made.length := by
  induction assembled with
  | part node => simp
  | operation _ _ _ operands ih ih' =>
    rw [size_eq, operands]
    simp only [List.map_cons, List.map_nil, List.sum_cons, List.sum_nil, List.map_append,
      List.sum_append, List.length_cons, List.length_append, ih, ih']
    omega

theorem Assembled.boundCount (assembled : Assembled made parts node) :
    node.boundCount = (parts.map Node.boundCount).sum := by
  induction assembled with
  | part node => simp
  | operation _ _ operation operands ih ih' =>
    rw [boundCount_eq operation, operands]
    simp [ih, ih']

end

end Node

/-- An operation on the way to the bound variable that can be undone, without the operand that the way
goes on with. -/
inductive Layer
  | first (operator : Operator) (second : Node) (span : Option Span)
  | second (operator : Operator) (first : Node) (span : Option Span)
  | base (exponent : Node) (span : Option Span)
  | radicand (degree : Node) (explicit : Bool) (span : Option Span)

namespace Layer

open Equation

def operand : Layer → Node
  | first _ other _ | second _ other _ | base other _ | radicand other _ _ => other

def isPower : Layer → Bool
  | .base _ _ => true
  | _ => false

def around (inner : Node) : Layer → Node
  | first operator other span => .arithmetic operator inner other span
  | second operator other span => .arithmetic operator other inner span
  | base exponent span => .power inner exponent span
  | radicand degree explicit span => .root degree inner explicit span

def undo (right : Node) : Layer → Node
  | first operator other span => .arithmetic (inverse operator) right other (Span.hull? span right.span)
  | second operator other span => undoRight operator other right (Span.hull? span right.span)
  | base exponent span => .root exponent right false (Span.hull? span right.span)
  | radicand degree _ span => .power right degree (Span.hull? span right.span)

def outermost? : Node → Option (Layer × Node)
  | .arithmetic operator a b span =>
    if a.boundCount ≠ 0 then some (.first operator b span, a) else some (.second operator a span, b)
  | .power inner exponent span =>
    if inner.boundCount ≠ 0 then some (.base exponent span, inner) else none
  | .root degree inner explicit span =>
    if inner.boundCount ≠ 0 then some (.radicand degree explicit span, inner) else none
  | _ => none

variable {layer : Layer} {inner left right : Node}

theorem boundCount_around (layer : Layer) (inner : Node) :
    (layer.around inner).boundCount = inner.boundCount + layer.operand.boundCount := by
  cases layer with
  | first | base => rfl
  | second | radicand => exact Nat.add_comm _ _

theorem size_around (layer : Layer) (inner : Node) :
    (layer.around inner).size = inner.size + layer.operand.size + 1 := by
  cases layer with
  | first | base => rfl
  | second | radicand => exact congrArg (· + 1) (Nat.add_comm _ _)

theorem around_of_outermost (peeled : outermost? left = some (layer, inner)) :
    left = layer.around inner := by
  cases left with
  | arithmetic | power | root =>
    rw [outermost?] at peeled
    split at peeled <;> cases peeled <;> rfl
  | _ => cases peeled

theorem boundCount_of_outermost (one : left.boundCount = 1)
    (peeled : outermost? left = some (layer, inner)) : inner.boundCount = 1 := by
  cases left with
  | arithmetic operator a b span =>
    rw [Node.boundCount] at one
    rw [outermost?] at peeled
    split at peeled
    · cases peeled
      omega
    · cases peeled
      omega
  | power | root =>
    rw [Node.boundCount] at one
    rw [outermost?] at peeled
    split at peeled
    · cases peeled
      omega
    · cases peeled
  | _ => cases peeled

theorem outermost_around (one : (layer.around inner).boundCount = 1) (within : inner.boundCount ≠ 0) :
    outermost? (layer.around inner) = some (layer, inner) := by
  rw [boundCount_around] at one
  have free : layer.operand.boundCount = 0 := by omega
  cases layer with
  | first | base | radicand =>
    rw [around, outermost?]
    exact if_pos within
  | second operator other span =>
    rw [around, outermost?]
    exact if_neg (fun known => known free)

theorem assembled_undo {made parts : List Node} (assembled : Node.Assembled made parts right)
    (layer : Layer) :
    ∃ parts', Node.Assembled (layer.undo right :: made) parts' (layer.undo right) ∧
      parts'.Perm (parts ++ [layer.operand]) := by
  have behind {node : Node} (operation : node.IsOperation)
      (operands : node.children = [right, layer.operand]) :
      ∃ parts', Node.Assembled (node :: made) parts' node ∧
        parts'.Perm (parts ++ [layer.operand]) := by
    refine ⟨parts ++ [layer.operand], ?_, .refl _⟩
    rw [← List.append_nil made]
    exact .operation assembled (.part _) operation operands
  have before {node : Node} (operation : node.IsOperation)
      (operands : node.children = [layer.operand, right]) :
      ∃ parts', Node.Assembled (node :: made) parts' node ∧
        parts'.Perm (parts ++ [layer.operand]) :=
    ⟨layer.operand :: parts, .operation (.part _) assembled operation operands,
      (List.perm_append_singleton _ _).symm⟩
  cases layer with
  | first | radicand => exact behind trivial rfl
  | base => exact before trivial rfl
  | second operator =>
    cases operator with
    | add | mul => exact behind trivial rfl
    | sub | div => exact before trivial rfl

theorem isImplicitRoot_undo (layer : Layer) (right : Node) :
    (layer.undo right).isImplicitRoot = layer.isPower := by
  cases layer with
  | second operator => cases operator <;> rfl
  | _ => rfl

end Layer

namespace Equation

def nested (layers : List Layer) (inner : Node) : Node := layers.foldr (fun layer => layer.around) inner

def undone (layers : List Layer) (right : Node) : Node := layers.foldl Layer.undo right

/-- Moves layers across, one in each round, until the bound variable stands alone. -/
def rounds : Nat → Node → Node → Option (Option Node)
  | 0, _, _ => none
  | bound + 1, left, right =>
    if left.isBound then some (some right)
    else
      match Layer.outermost? left with
      | none => some none
      | some (layer, inner) => rounds bound inner (layer.undo right)

variable {left right solved : Node}

theorem nested_cons (layer : Layer) (layers : List Layer) (inner : Node) :
    nested (layer :: layers) inner = layer.around (nested layers inner) :=
  rfl

theorem undone_cons (layer : Layer) (layers : List Layer) (right : Node) :
    undone (layer :: layers) right = undone layers (layer.undo right) :=
  rfl

theorem eq_of_isBound (bound : left.isBound) : ∃ span, left = .symbol boundName span := by
  cases left with
  | symbol name span => exact ⟨span, by rw [eq_of_beq bound]⟩
  | _ => cases bound

theorem isolate_eq (left right : Node) :
    isolate left right =
      if left.isBound then some right
      else (Layer.outermost? left).bind fun (layer, inner) => isolate inner (layer.undo right) := by
  cases left with
  | symbol name span => simp [isolate, Node.isBound, Layer.outermost?]
  | arithmetic | power | root =>
    rw [isolate, Layer.outermost?]
    split <;> rfl
  | _ => rfl

theorem rounds_eq {bound : Nat} (enough : left.size ≤ bound) :
    rounds bound left right = some (isolate left right) := by
  induction bound generalizing left right with
  | zero =>
    have filled := left.size_eq
    omega
  | succ bound ih =>
    rw [rounds, isolate_eq]
    split
    · rfl
    · cases peeled : Layer.outermost? left with
      | none => rfl
      | some found =>
        obtain ⟨layer, inner⟩ := found
        have whole := Layer.size_around layer inner
        rw [← Layer.around_of_outermost peeled] at whole
        exact ih (by omega)

theorem boundCount_nested (layers : List Layer) (inner : Node) :
    (nested layers inner).boundCount =
      inner.boundCount + (layers.map fun layer => layer.operand.boundCount).sum := by
  induction layers with
  | nil => rfl
  | cons layer layers ih =>
    rw [nested_cons, Layer.boundCount_around, ih, List.map_cons, List.sum_cons]
    omega

theorem size_nested (layers : List Layer) (inner : Node) :
    (nested layers inner).size =
      inner.size + (layers.map fun layer => layer.operand.size).sum + layers.length := by
  induction layers with
  | nil => rfl
  | cons layer layers ih =>
    rw [nested_cons, Layer.size_around, ih, List.map_cons, List.sum_cons, List.length_cons]
    omega

theorem isolate_nested {layers : List Layer} {span : Option Span}
    (one : (nested layers (.symbol boundName span)).boundCount = 1) :
    isolate (nested layers (.symbol boundName span)) right = some (undone layers right) := by
  induction layers generalizing right with
  | nil => rfl
  | cons layer layers ih =>
    have known : (Node.symbol boundName span).boundCount = 1 := rfl
    have inside := boundCount_nested layers (.symbol boundName span)
    rw [nested_cons] at one ⊢
    have whole := Layer.boundCount_around layer (nested layers (.symbol boundName span))
    have operation : ¬ (layer.around (nested layers (.symbol boundName span))).isBound := by
      cases layer <;> exact Bool.false_ne_true
    rw [isolate_eq, if_neg operation, Layer.outermost_around one (by omega), undone_cons]
    exact ih (by omega)

theorem nested_of_isolate (one : left.boundCount = 1) (found : isolate left right = some solved) :
    ∃ layers span, left = nested layers (.symbol boundName span) := by
  -- A layer that is moved across leaves the one variable within, in a smaller tree.
  induction size : left.size using Nat.strongRecOn generalizing left right with
  | ind size ih =>
    rw [isolate_eq] at found
    split at found
    · next alone =>
      obtain ⟨span, rfl⟩ := eq_of_isBound alone
      exact ⟨[], span, rfl⟩
    · obtain ⟨⟨layer, inner⟩, peeled, finished⟩ := Option.bind_eq_some_iff.mp found
      have one' := Layer.boundCount_of_outermost one peeled
      obtain rfl := Layer.around_of_outermost peeled
      have whole := Layer.size_around layer inner
      obtain ⟨layers, span, rfl⟩ := ih inner.size (by omega) one' finished rfl
      exact ⟨layer :: layers, span, rfl⟩

theorem solve_eq_some_iff : solve left right = some solved ↔
    left.boundCount = 1 ∧ right.boundCount = 0 ∧
      ∃ layers span, left = nested layers (.symbol boundName span) ∧ solved = undone layers right := by
  rw [solve]
  constructor
  · intro found
    split at found
    · next counts =>
      obtain ⟨layers, span, rfl⟩ := nested_of_isolate counts.1 found
      rw [isolate_nested counts.1, Option.some.injEq] at found
      exact ⟨counts.1, counts.2, layers, span, rfl, found.symm⟩
    · cases found
  · rintro ⟨one, free, layers, span, rfl, rfl⟩
    rw [if_pos ⟨one, free⟩]
    exact isolate_nested one

theorem assembled_undone {made parts : List Node} (assembled : Node.Assembled made parts right)
    (layers : List Layer) :
    ∃ made' parts', Node.Assembled made' parts' (undone layers right) ∧
      parts'.Perm (parts ++ layers.map Layer.operand) ∧
      made'.length = made.length + layers.length ∧
      made'.countP Node.isImplicitRoot =
        made.countP Node.isImplicitRoot + layers.countP Layer.isPower := by
  induction layers generalizing made parts right with
  | nil => exact ⟨made, parts, assembled, by simp, rfl, rfl⟩
  | cons layer layers ih =>
    obtain ⟨parts', assembled', together⟩ := Layer.assembled_undo assembled layer
    obtain ⟨made'', parts'', assembled'', together', count, implicit⟩ := ih assembled'
    rw [undone_cons]
    refine ⟨made'', parts'', assembled'', ?_, ?_, ?_⟩
    · calc
        parts''.Perm (parts' ++ layers.map Layer.operand) := together'
        List.Perm _ (parts ++ [layer.operand] ++ layers.map Layer.operand) :=
          together.append_right _
        _ = parts ++ (layer :: layers).map Layer.operand := by simp
    · rw [count, List.length_cons, List.length_cons]
      omega
    · rw [implicit, List.countP_cons, List.countP_cons, Layer.isImplicitRoot_undo]
      omega

/-- Moving layers across comes to an end on all trees. There is a solution just when the one bound
variable is within nothing but layers; it is put together from the right side and the operands of the
layers, each once and as it is, with an operation for each layer, and an implicit root for each power
among them. -/
theorem solve_layers (left right : Node) :
    (∀ bound, left.size ≤ bound → rounds bound left right = some (isolate left right)) ∧
    ((∃ solved, solve left right = some solved) ↔ left.boundCount = 1 ∧ right.boundCount = 0 ∧
      ∃ layers span, left = nested layers (.symbol boundName span)) ∧
    ∀ layers span solved, left = nested layers (.symbol boundName span) →
      solve left right = some solved →
        solved.boundCount = 0 ∧ solved.size + 1 = left.size + right.size ∧
        (∀ layer ∈ layers, layer.operand.boundCount = 0) ∧
        ∃ made parts, Node.Assembled made parts solved ∧
          parts.Perm (right :: layers.map Layer.operand) ∧
          made.countP Node.isImplicitRoot = layers.countP Layer.isPower := by
  refine ⟨fun bound => rounds_eq, ?_, ?_⟩
  · simp only [solve_eq_some_iff]
    constructor
    · rintro ⟨_, one, free, layers, span, same, _⟩
      exact ⟨one, free, layers, span, same⟩
    · rintro ⟨one, free, layers, span, same⟩
      exact ⟨_, one, free, layers, span, same, rfl⟩
  · rintro layers span solved rfl found
    obtain ⟨one, free, _⟩ := solve_eq_some_iff.mp found
    rw [solve, if_pos ⟨one, free⟩, isolate_nested one, Option.some.injEq] at found
    obtain ⟨made, parts, assembled, together, count, implicit⟩ :=
      assembled_undone (.part right) layers
    rw [found] at assembled
    have operands : (layers.map fun layer => layer.operand.boundCount).sum = 0 := by
      have whole := boundCount_nested layers (.symbol boundName span)
      have known : (Node.symbol boundName span).boundCount = 1 := rfl
      omega
    have counts : (parts.map Node.boundCount).sum = 0 := by
      rw [(together.map Node.boundCount).sum_nat]
      simpa [Function.comp_def, free] using operands
    have sizes : (parts.map Node.size).sum =
        right.size + (layers.map fun layer => layer.operand.size).sum := by
      rw [(together.map Node.size).sum_nat]
      simp [Function.comp_def]
    refine ⟨by rw [assembled.boundCount, counts], ?_, ?_, made, parts, assembled, together, ?_⟩
    · have whole := size_nested layers (.symbol boundName span)
      have known : (Node.symbol boundName span).size = 1 := rfl
      rw [assembled.size, sizes, count]
      simp only [List.length_nil]
      omega
    · intro layer member
      exact List.sum_eq_zero_iff_forall_eq_nat.mp operands _ (List.mem_map_of_mem member)
    · simpa using implicit

end Equation

end PlotScript

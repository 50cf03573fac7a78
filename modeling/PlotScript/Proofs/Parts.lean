import PlotScript.Proofs.Layout

namespace PlotScript

namespace Node

def children : Node → List Node
  | number _ _ | symbol _ _ | directive _ _ => []
  | trig _ argument _ => [argument]
  | equals left right _ | arithmetic _ left right _ | power left right _ | root left right _ _ =>
    [left, right]

theorem children_withSpan (node : Node) (span : Option Span) :
    (node.withSpan span).children = node.children := by
  cases node <;> rfl

theorem children_induction {Q : Node → Prop}
    (step : ∀ node : Node, (∀ child ∈ node.children, Q child) → Q node) (node : Node) : Q node := by
  induction node with
  | number _ _ | symbol _ _ | directive _ _ => exact step _ (by simp [children])
  | trig _ _ _ ih => exact step _ (by simpa [children] using ih)
  | equals _ _ _ ih ih' | arithmetic _ _ _ _ ih ih' | power _ _ _ ih ih' | root _ _ _ _ ih ih' =>
    exact step _ (by simpa [children] using ⟨ih, ih'⟩)

def All (P : Node → Prop) : Node → Prop
  | node@(number _ _) | node@(symbol _ _) | node@(directive _ _) => P node
  | node@(trig _ argument _) => P node ∧ argument.All P
  | node@(equals left right _) | node@(arithmetic _ left right _) | node@(power left right _)
  | node@(root left right _ _) => P node ∧ left.All P ∧ right.All P

section

variable {P Q : Node → Prop} {node : Node}

theorem all_iff : node.All P ↔ P node ∧ ∀ child ∈ node.children, child.All P := by
  cases node <;> simp [All, children]

theorem all_trivial (node : Node) : node.All fun _ => True :=
  children_induction (fun _ below => all_iff.mpr ⟨trivial, below⟩) node

theorem All.self (all : node.All P) : P node := (all_iff.mp all).1

theorem All.mono (all : node.All P) (weaker : ∀ part, P part → Q part) : node.All Q := by
  induction node with
  | number _ _ | symbol _ _ | directive _ _ => exact weaker _ all
  | trig _ _ _ ih => exact ⟨weaker _ all.1, ih all.2⟩
  | equals _ _ _ ih ih' | arithmetic _ _ _ _ ih ih' | power _ _ _ ih ih' | root _ _ _ _ ih ih' =>
    exact ⟨weaker _ all.1, ih all.2.1, ih' all.2.2⟩

end

def IsOperation : Node → Prop
  | arithmetic _ _ _ _ | power _ _ _ | root _ _ _ _ => True
  | _ => False

def Joins (left right node : Node) : Prop :=
  node.IsOperation ∧ node.span = Span.hull? left.span right.span

section

variable {P : Node → Prop}
  (joined : ∀ {left right node : Node}, P left → P right → Joins left right node → P node)

include joined

theorem All.isolate {left right solved : Node} (all : left.All P) (all' : right.All P)
    (found : Equation.isolate left right = some solved) : solved.All P := by
  induction left generalizing right with
  | symbol name span =>
    rw [Equation.isolate] at found
    split at found
    · cases found
      exact all'
    · cases found
  | arithmetic operator a b span ih ih' =>
    have whole {node : Node} (joins : Joins (.arithmetic operator a b span) right node) : P node :=
      joined all.1 all'.self joins
    rw [Equation.isolate] at found
    split at found
    · refine ih all.2.1 ?_ found
      exact ⟨whole ⟨trivial, rfl⟩, all', all.2.2⟩
    · refine ih' all.2.2 ?_ found
      cases operator with
      | add | mul => exact ⟨whole ⟨trivial, rfl⟩, all', all.2.1⟩
      | sub | div => exact ⟨whole ⟨trivial, rfl⟩, all.2.1, all'⟩
  | power base exponent span ih ih' =>
    rw [Equation.isolate] at found
    split at found
    · refine ih all.2.1 ?_ found
      exact ⟨joined all.1 all'.self ⟨trivial, rfl⟩, all.2.2, all'⟩
    · cases found
  | root degree radicand explicit span ih ih' =>
    rw [Equation.isolate] at found
    split at found
    · refine ih' all.2.2 ?_ found
      exact ⟨joined all.1 all'.self ⟨trivial, rfl⟩, all', all.2.1⟩
    · cases found
  | _ => cases found

theorem All.solution {left right solved : Node} {span : Option Span} (all : left.All P)
    (all' : right.All P) (found : (equals left right span).solution? = some solved) :
    solved.All P := by
  rw [solution?] at found
  split at found
  · cases found
    exact all'
  · rw [Equation.solve] at found
    split at found
    · exact all.isolate joined all' found
    · cases found

end

end Node

end PlotScript

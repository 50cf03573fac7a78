import PlotScript.Proofs.Branches.Fault

namespace PlotScript

open Branches

/-- What can be wrong with a node when the nodes below it have values. -/
inductive Node.Refused (limit : Int) (x : Float) : Node → Cause → Prop
  | unbound {name : String} {span : Option Span} :
      name ≠ freeName → Refused limit x (.symbol name span) (.unboundVariable name)
  | zeroDivisor {left right : Node} {span : Option Span} :
      Refused limit x (.arithmetic .div left right span)
        (.divisionByZero (.arithmetic .div left right span) x)
  | crowded {node : Node} {count : Nat} :
      limit < count → Refused limit x node (.tooManyBranches node count limit)
  | command {command : Directive} {span : Option Span} :
      Refused limit x (.directive command span) (.notAnExpression (.directive command span))

def Node.Fails (limit : Int) (x : Float) (node : Node) (failure : Failure) : Prop :=
  ∃ cause, node.Refused limit x cause ∧ failure = .of cause node.span

theorem Node.Faulty.refused {limit : Int} {x : Float} {node : Node} {cause : Cause}
    (faulty : node.Faulty limit x cause) : node.Refused limit x cause := by
  cases faulty with
  | unbound unknown => exact .unbound unknown
  | command => exact .command
  | crowded _ _ _ excess => exact .crowded excess
  | crowdedRoot => exact .crowded (lt_firstAbove _ limit)
  | zeroDivisor => exact .zeroDivisor

theorem Node.All.of_mem {P : Node → Prop} {node part : Node} (all : node.All P)
    (member : part ∈ node.postorder) : P part := by
  induction node using children_induction with
  | step node ih =>
    rcases mem_postorder.mp member with ⟨child, inside, below⟩ | rfl
    · exact ih child inside ((all_iff.mp all).2 child inside) below
    · exact all.self

theorem Node.All.fails {P : Node → Prop} {node : Node} (all : node.All P) {limit : Int} {x : Float}
    {failure : Failure} (failed : node.branches limit x = .error failure) :
    ∃ part, P part ∧ part.Fails limit x failure := by
  obtain ⟨part, member, cause, faulty, same⟩ := exists_faulty failed
  exact ⟨part, all.of_mem member, cause, faulty.refused, same⟩

end PlotScript

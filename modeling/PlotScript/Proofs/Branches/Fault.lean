import PlotScript.Proofs.Parts
import PlotScript.Proofs.Power.Solution

/-!
Where an evaluation fails. A node may be at fault once everything below it has values, and an
evaluation fails with the first node at fault: those below a node come before it, from left to right.
-/

namespace PlotScript

open Branches Choices Outcome

namespace Node

/-- The nodes of a tree, each behind those below it, from left to right. -/
def postorder : Node → List Node
  | node@(number _ _) | node@(symbol _ _) | node@(directive _ _) => [node]
  | node@(trig _ argument _) => argument.postorder ++ [node]
  | node@(equals left right _) | node@(arithmetic _ left right _) | node@(power left right _)
  | node@(root left right _ _) => left.postorder ++ right.postorder ++ [node]

theorem postorder_eq (node : Node) : node.postorder = node.children.flatMap postorder ++ [node] := by
  cases node <;> simp [postorder, children]

theorem mem_postorder {part node : Node} :
    part ∈ node.postorder ↔ (∃ child ∈ node.children, part ∈ child.postorder) ∨ part = node := by
  rw [postorder_eq, List.mem_append, List.mem_flatMap, List.mem_singleton]

def paired? : Node → Option (Node × Node)
  | equals left right _ | arithmetic _ left right _ | power left right _ => some (left, right)
  | _ => none

end Node

namespace Branches

def rootsOf (explicit : Bool) (pairs : List (Float × Float)) : List Float :=
  pairs.flatMap fun pair => (rootOf? pair).toList.flatMap (signs explicit)

def width (explicit : Bool) : Nat := if explicit then 1 else 2

/-- The least number of branches above the limit, counted one root after the other. -/
def firstAbove (explicit : Bool) (limit : Int) : Nat :=
  width explicit * (limit.toNat / width explicit + 1)

end Branches

/-- What is wrong with a node whose children all have values. -/
inductive Node.Faulty (limit : Int) (x : Float) : Node → Cause → Prop
  | unbound {name : String} {span : Option Span} :
      name ≠ freeName → Faulty limit x (.symbol name span) (.unboundVariable name)
  | command {command : Directive} {span : Option Span} :
      Faulty limit x (.directive command span) (.notAnExpression (.directive command span))
  | crowded {node left right : Node} {a b : List Float} :
      node.paired? = some (left, right) → left.branches limit x = .ok a →
        right.branches limit x = .ok b → limit < ((a.length * b.length : Nat) : Int) →
          Faulty limit x node (.tooManyBranches node (a.length * b.length) limit)
  | zeroDivisor {left right : Node} {span : Option Span} {a b : List Float} :
      left.branches limit x = .ok a → right.branches limit x = .ok b →
        ((a.length * b.length : Nat) : Int) ≤ limit → a ≠ [] → 0 ∈ b ∨ -0 ∈ b →
          Faulty limit x (.arithmetic .div left right span)
            (.divisionByZero (.arithmetic .div left right span) x)
  | crowdedRoot {degree radicand : Node} {explicit : Bool} {span : Option Span} {a b : List Float} :
      degree.branches limit x = .ok a → radicand.branches limit x = .ok b →
        rootsOf explicit (pairs a b) ≠ [] →
          limit < ((rootsOf explicit (pairs a b)).length : Int) →
            Faulty limit x (.root degree radicand explicit span)
              (.tooManyBranches (.root degree radicand explicit span) (firstAbove explicit limit) limit)

namespace Branches

variable {limit : Int} {node : Node}

theorem width_pos (explicit : Bool) : 0 < width explicit := by
  cases explicit <;> decide

theorem lt_firstAbove (explicit : Bool) (limit : Int) : limit < (firstAbove explicit limit : Int) := by
  have above : limit.toNat < firstAbove explicit limit := Nat.lt_mul_div_succ _ (width_pos explicit)
  omega

theorem length_signs (explicit : Bool) (root : Float) : (signs explicit root).length = width explicit := by
  cases explicit <;> rfl

theorem length_pairs (left right : List Float) :
    (pairs left right).length = left.length * right.length := by
  simp [pairs, List.length_flatMap]

theorem cross_eq_ite (left right : List Float) :
    cross limit node left right =
      if limit < ((left.length * right.length : Nat) : Int) then
        .error (.of (.tooManyBranches node (left.length * right.length) limit) node.span)
      else .ok (pairs left right) := by
  rw [cross, within]
  split <;> rfl

theorem zero_divisor_iff {left right : List Float} :
    ((pairs left right).any fun (_, divisor) => divisor == 0) = true ↔
      left ≠ [] ∧ (0 ∈ right ∨ -0 ∈ right) := by
  have zeros : (0 : Float) == 0 ∧ (-0 : Float) == 0 := by decide +kernel
  simp only [pairs, List.any_eq_true, List.mem_flatMap, List.mem_map, Prod.exists]
  constructor
  · rintro ⟨_, _, ⟨a, member, b, member', same⟩, zero⟩
    cases same
    refine ⟨List.ne_nil_of_mem member, ?_⟩
    rcases Power.eq_zero_of_beq zero with rfl | rfl
    · exact .inl member'
    · exact .inr member'
  · rintro ⟨filled, zero⟩
    obtain ⟨a, member⟩ := List.exists_mem_of_ne_nil left filled
    rcases zero with member' | member'
    · exact ⟨a, 0, ⟨a, member, 0, member', rfl⟩, zeros.1⟩
    · exact ⟨a, -0, ⟨a, member, -0, member', rfl⟩, zeros.2⟩

theorem roots_from {explicit : Bool} {before : Nat} (fits : width explicit * before ≤ limit.toNat)
    (pairs : List (Float × Float)) :
    roots limit node explicit (width explicit * before) pairs =
      if limit.toNat < width explicit * before + (rootsOf explicit pairs).length then
        .error (.of (.tooManyBranches node (firstAbove explicit limit) limit) node.span)
      else .ok (rootsOf explicit pairs) := by
  -- The count stays a multiple of the width of a root, and within the limit while the run goes on.
  induction pairs generalizing before with
  | nil => exact (if_neg (Nat.not_lt.mpr fits)).symm
  | cons pair rest ih =>
    obtain ⟨degree, radicand⟩ := pair
    simp only [roots, Root.principal_eq]
    cases found : rootOf? (degree, radicand) with
    | none =>
      have skipped : rootsOf explicit ((degree, radicand) :: rest) = rootsOf explicit rest := by
        simp [rootsOf, found]
      rw [skipped]
      exact ih fits
    | some root =>
      have taken : rootsOf explicit ((degree, radicand) :: rest) =
          signs explicit root ++ rootsOf explicit rest := by
        simp [rootsOf, found]
      have total : width explicit * before + (signs explicit root).length =
          width explicit * (before + 1) := by
        rw [length_signs, Nat.mul_succ]
      simp only [taken, List.length_append, ← Nat.add_assoc, total, within]
      have positive : 0 < width explicit * (before + 1) :=
        Nat.mul_pos (width_pos explicit) (Nat.succ_pos before)
      by_cases excess : limit < ((width explicit * (before + 1) : Nat) : Int)
      · have passed : limit.toNat / width explicit = before :=
          Nat.div_eq_of_lt_le (by rw [Nat.mul_comm]; exact fits)
            (by rw [Nat.mul_comm]; omega)
        rw [if_pos excess, if_pos (by omega), firstAbove, passed]
        rfl
      · rw [if_neg excess, ih (by omega), ok_bind]
        split <;> rfl

theorem roots_eq_ite (explicit : Bool) (pairs : List (Float × Float)) :
    roots limit node explicit 0 pairs =
      if rootsOf explicit pairs ≠ [] ∧ limit < ((rootsOf explicit pairs).length : Int) then
        .error (.of (.tooManyBranches node (firstAbove explicit limit) limit) node.span)
      else .ok (rootsOf explicit pairs) := by
  have counted := @roots_from limit node explicit 0 (Nat.zero_le _) pairs
  have excess : limit.toNat < (rootsOf explicit pairs).length ↔
      rootsOf explicit pairs ≠ [] ∧ limit < ((rootsOf explicit pairs).length : Int) := by
    rw [← List.length_pos_iff]
    omega
  rw [Nat.mul_zero, Nat.zero_add] at counted
  simp only [counted, excess]

end Branches

section

variable {limit : Int} {x : Float} {node : Node} {cause : Cause} {failure : Failure}

theorem Node.Faulty.children (faulty : node.Faulty limit x cause) :
    ∀ child ∈ node.children, ∃ values, child.branches limit x = .ok values := by
  cases faulty with
  | unbound _ | command => simp [Node.children]
  | @crowded _ left right a b paired first second _ =>
    have operands : node.children = [left, right] := by
      cases node <;> simp_all [Node.paired?, Node.children]
    simp [operands, first, second]
  | zeroDivisor first second | crowdedRoot first second => simp [Node.children, first, second]

theorem Node.Faulty.fails (faulty : node.Faulty limit x cause) :
    node.branches limit x = .error (.of cause node.span) := by
  cases faulty with
  | unbound unknown => exact if_neg unknown
  | command => rfl
  | crowded paired first second excess =>
    cases node with
    | equals left right span | arithmetic operator left right span | power left right span =>
      cases paired
      simp only [branches, first, second, ok_bind, cross_eq_ite, if_pos excess]
      rfl
    | _ => cases paired
  | zeroDivisor first second within filled zero =>
    have divided := zero_divisor_iff.mpr ⟨filled, zero⟩
    simp only [branches, first, second, ok_bind, cross_eq_ite, if_neg (Int.not_lt.mpr within),
      Branches.arithmetic, quotients, if_pos divided]
  | crowdedRoot first second filled excess =>
    simp only [branches, first, second, ok_bind, roots_eq_ite]
    exact if_pos ⟨filled, excess⟩

theorem Node.faulty_of_fails
    (evaluated : ∀ child ∈ node.children, ∃ values, child.branches limit x = .ok values)
    (failed : node.branches limit x = .error failure) :
    ∃ cause, node.Faulty limit x cause ∧ failure = .of cause node.span := by
  cases node with
  | number value span => cases failed
  | symbol name span =>
    rw [branches] at failed
    split at failed
    · cases failed
    · next unknown =>
      cases failed
      exact ⟨_, .unbound unknown, rfl⟩
  | directive command span =>
    cases failed
    exact ⟨_, .command, rfl⟩
  | trig function argument span =>
    obtain ⟨values, found⟩ := evaluated argument List.mem_cons_self
    rw [branches, found] at failed
    cases failed
  | equals left right span | power left right span =>
    obtain ⟨a, first⟩ := evaluated left (by simp [children])
    obtain ⟨b, second⟩ := evaluated right (by simp [children])
    simp only [branches, first, second, ok_bind, cross_eq_ite] at failed
    split at failed
    · next excess =>
      cases failed
      exact ⟨_, .crowded rfl first second excess, rfl⟩
    · cases failed
  | arithmetic operator left right span =>
    obtain ⟨a, first⟩ := evaluated left (by simp [children])
    obtain ⟨b, second⟩ := evaluated right (by simp [children])
    simp only [branches, first, second, ok_bind, cross_eq_ite] at failed
    split at failed
    · next excess =>
      cases failed
      exact ⟨_, .crowded rfl first second excess, rfl⟩
    · next within =>
      cases operator with
      | div =>
        simp only [ok_bind, Branches.arithmetic, quotients] at failed
        split at failed
        · next divided =>
          cases failed
          obtain ⟨filled, zero⟩ := zero_divisor_iff.mp divided
          exact ⟨_, .zeroDivisor first second (Int.not_lt.mp within) filled zero, rfl⟩
        · cases failed
      | _ => cases failed
  | root degree radicand explicit span =>
    obtain ⟨a, first⟩ := evaluated degree (by simp [children])
    obtain ⟨b, second⟩ := evaluated radicand (by simp [children])
    simp only [branches, first, second, ok_bind, roots_eq_ite] at failed
    split at failed
    · next excess =>
      cases failed
      exact ⟨_, .crowdedRoot first second excess.1 excess.2, rfl⟩
    · cases failed

end

namespace Node

variable {limit : Int} {x : Float} {failure : Failure}

theorem fails_of_children {node : Node}
    (failed : visit (fun child => child.branches limit x) node.children = .error failure) :
    node.branches limit x = .error failure := by
  cases node with
  | number _ _ | symbol _ _ | directive _ _ => cases failed
  | trig function argument span =>
    rw [branches]
    rw [children, visit, bind_eq_error_iff] at failed
    rcases failed with failed | ⟨_, _, finished⟩
    · rw [failed]
      rfl
    · cases finished
  | equals left right span | arithmetic operator left right span | power left right span
  | root left right explicit span => exact bind_bind_of_error failed _

/-- What becomes of the node itself, which is nothing before its children have values. -/
def own (limit : Int) (x : Float) (node : Node) : Except Failure Unit :=
  match visit (fun child => child.branches limit x) node.children with
  | .error _ => .ok ()
  | .ok _ => settled (node.branches limit x)

theorem own_eq_error_iff {node : Node} :
    own limit x node = .error failure ↔
      ∃ cause, node.Faulty limit x cause ∧ failure = .of cause node.span := by
  constructor
  · intro failed
    rw [own] at failed
    split at failed
    · cases failed
    · next evaluated =>
      exact faulty_of_fails (visit_eq_ok_iff.mp evaluated) (settled_eq_error_iff.mp failed)
  · rintro ⟨cause, faulty, rfl⟩
    rw [own, visit_eq_ok_iff.mpr faulty.children]
    exact settled_eq_error_iff.mpr faulty.fails

theorem own_eq_ok_iff {node : Node} :
    (∃ value, own limit x node = .ok value) ↔ ∀ cause, ¬ node.Faulty limit x cause := by
  constructor
  · intro ⟨value, found⟩ cause faulty
    rw [own_eq_error_iff.mpr ⟨cause, faulty, rfl⟩] at found
    cases found
  · intro sound
    cases outcome : own limit x node with
    | ok value => exact ⟨value, rfl⟩
    | error failure =>
      obtain ⟨cause, faulty, _⟩ := own_eq_error_iff.mp outcome
      exact absurd faulty (sound cause)

theorem settled_branches (node : Node) :
    settled (node.branches limit x) = visit (own limit x) node.postorder := by
  induction node using children_induction with
  | step node below =>
    have inner : visit (fun child => child.branches limit x) node.children =
        visit (own limit x) (node.children.flatMap postorder) := visit_flatMap below
    rw [postorder_eq, visit_append, ← inner, visit]
    cases evaluated : visit (fun child => child.branches limit x) node.children with
    | error failure =>
      rw [fails_of_children evaluated]
      rfl
    | ok _ =>
      rw [ok_bind, own, evaluated]
      cases node.branches limit x <;> rfl

theorem exists_faulty {node : Node} (failed : node.branches limit x = .error failure) :
    ∃ part ∈ node.postorder, ∃ cause, part.Faulty limit x cause ∧ failure = .of cause part.span := by
  rw [← settled_eq_error_iff, settled_branches, visit_eq_error_iff] at failed
  obtain ⟨before, part, after, split, wrong, _⟩ := failed
  exact ⟨part, split ▸ List.mem_append_right before List.mem_cons_self, own_eq_error_iff.mp wrong⟩

/-- An evaluation fails just when a node of the tree is at fault, and the first such node in
post-order says how and where. -/
theorem branches_fail_iff (node : Node) (limit : Int) (x : Float) :
    ((∃ failure, node.branches limit x = .error failure) ↔
      ∃ part ∈ node.postorder, ∃ cause, part.Faulty limit x cause) ∧
    ∀ failure, node.branches limit x = .error failure ↔
      ∃ before part after cause, node.postorder = before ++ part :: after ∧
        part.Faulty limit x cause ∧ failure = .of cause part.span ∧
        ∀ earlier ∈ before, ∀ other, ¬ earlier.Faulty limit x other := by
  have fails (failure : Failure) : node.branches limit x = .error failure ↔
      ∃ before part after cause, node.postorder = before ++ part :: after ∧
        part.Faulty limit x cause ∧ failure = .of cause part.span ∧
        ∀ earlier ∈ before, ∀ other, ¬ earlier.Faulty limit x other := by
    rw [← settled_eq_error_iff, settled_branches, visit_eq_error_iff]
    simp only [own_eq_error_iff, own_eq_ok_iff]
    constructor
    · rintro ⟨before, part, after, split, ⟨cause, faulty, same⟩, sound⟩
      exact ⟨before, part, after, cause, split, faulty, same, sound⟩
    · rintro ⟨before, part, after, cause, split, faulty, same, sound⟩
      exact ⟨before, part, after, split, ⟨cause, faulty, same⟩, sound⟩
  refine ⟨⟨?_, ?_⟩, fails⟩
  · rintro ⟨failure, failed⟩
    obtain ⟨part, member, cause, faulty, _⟩ := exists_faulty failed
    exact ⟨part, member, cause, faulty⟩
  · rintro ⟨part, member, cause, faulty⟩
    cases outcome : node.branches limit x with
    | error failure => exact ⟨failure, rfl⟩
    | ok values =>
      have visited : settled (node.branches limit x) = visit (own limit x) node.postorder :=
        settled_branches node
      rw [settled_eq_ok_iff.mpr ⟨values, outcome⟩] at visited
      exact absurd faulty (own_eq_ok_iff.mp (visit_eq_ok_iff.mp visited.symm part member) cause)

end Node

end PlotScript

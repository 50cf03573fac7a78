import PlotScript.Proofs.Branches.Fault
import PlotScript.Proofs.Branches.Limit
import PlotScript.Proofs.Grammar.Explicit

namespace PlotScript

open Branches Choices Outcome

theorem Choices.length_choices (count : Nat) : (choices count).length = 2 ^ count := by
  induction count with
  | zero => rfl
  | succ count ih =>
    rw [choices, List.length_append, List.length_map, List.length_map, ih, Nat.pow_succ]
    omega

theorem Branches.length_rootsOf_le (explicit : Bool) (pairs : List (Float × Float)) :
    (rootsOf explicit pairs).length ≤ pairs.length * width explicit := by
  induction pairs with
  | nil => exact Nat.zero_le _
  | cons pair rest ih =>
    rw [rootsOf, List.flatMap_cons, List.length_append, List.length_cons, Nat.succ_mul, Nat.add_comm]
    refine Nat.add_le_add ih ?_
    cases rootOf? pair with
    | none => exact Nat.zero_le _
    | some root => simp [length_signs]

theorem Branches.length_combine (operation : Float → Float → Float) (pairs : List (Float × Float)) :
    (combine operation pairs).length = pairs.length :=
  List.length_map _

theorem Branches.length_cross_le {limit : Int} {node : Node} {left right : List Float}
    {found : List (Float × Float)} (crossed : cross limit node left right = .ok found) :
    (found.length : Int) ≤ max 1 limit := by
  rw [cross_eq_ite] at crossed
  split at crossed
  · cases crossed
  · next within =>
    cases crossed
    rw [length_pairs]
    exact Int.le_trans (Int.not_lt.mp within) (Int.le_max_right 1 limit)

namespace Node

variable {limit : Int} {x : Float} {node : Node} {values : List Float}

theorem length_branches_le (evaluated : node.branches limit x = .ok values) :
    values.length ≤ 2 ^ node.implicitCount := by
  rw [branches_choices evaluated, ← length_choices]
  exact List.length_filterMap_le _ _

theorem length_pairs_le {left right : Node} {a b : List Float}
    (first : left.branches limit x = .ok a) (second : right.branches limit x = .ok b) :
    a.length * b.length ≤ 2 ^ (left.implicitCount + right.implicitCount) := by
  rw [Nat.pow_add]
  exact Nat.mul_le_mul (length_branches_le first) (length_branches_le second)

theorem length_branches_le_limit (evaluated : node.branches limit x = .ok values) :
    (values.length : Int) ≤ max 1 limit := by
  induction node generalizing values with
  | number value span =>
    cases evaluated
    exact Int.le_max_left 1 limit
  | symbol name span =>
    rw [branches] at evaluated
    split at evaluated
    · cases evaluated
      exact Int.le_max_left 1 limit
    · cases evaluated
  | directive command span => cases evaluated
  | trig function argument span ih =>
    simp only [branches, bind_eq_ok_iff] at evaluated
    obtain ⟨inner, found, finished⟩ := evaluated
    cases finished
    rw [List.length_map]
    exact ih found
  | equals left right span =>
    simp only [branches, bind_eq_ok_iff] at evaluated
    obtain ⟨a, _, b, _, paired, crossed, finished⟩ := evaluated
    cases finished
    rw [length_combine]
    exact length_cross_le crossed
  | power base exponent span =>
    simp only [branches, bind_eq_ok_iff] at evaluated
    obtain ⟨a, _, b, _, paired, crossed, finished⟩ := evaluated
    cases finished
    refine Int.le_trans (Int.ofNat_le.mpr (List.length_filter_le _ _)) ?_
    rw [length_combine]
    exact length_cross_le crossed
  | arithmetic operator left right span =>
    simp only [branches, bind_eq_ok_iff] at evaluated
    obtain ⟨a, _, b, _, paired, crossed, finished⟩ := evaluated
    rw [arithmetic_eq finished, length_combine]
    exact length_cross_le crossed
  | root degree radicand explicit span =>
    simp only [branches, bind_eq_ok_iff, roots_eq_ite] at evaluated
    obtain ⟨a, _, b, _, found⟩ := evaluated
    split at found
    · cases found
    · next within =>
      cases found
      by_cases empty : rootsOf explicit (pairs a b) = []
      · rw [empty]
        exact Int.le_trans (by decide) (Int.le_max_left 1 limit)
      · have least := Int.not_lt.mp fun excess => within ⟨empty, excess⟩
        exact Int.le_trans least (Int.le_max_right 1 limit)

theorem Faulty.excess {cause : Cause} (faulty : node.Faulty limit x cause)
    (excess : cause.kind = "BranchLimitError") : limit < ((2 ^ node.implicitCount : Nat) : Int) := by
  cases faulty with
  | unbound | command | zeroDivisor => simp [Cause.kind] at excess
  | @crowded _ left right a b paired first second above =>
    have counted : node.implicitCount = left.implicitCount + right.implicitCount := by
      cases node <;> simp_all [paired?, implicitCount]
    rw [counted]
    exact Int.lt_of_lt_of_le above (Int.ofNat_le.mpr (length_pairs_le first second))
  | @crowdedRoot degree radicand explicit span a b first second _ above =>
    refine Int.lt_of_lt_of_le above (Int.ofNat_le.mpr ?_)
    have least : width explicit ≤ 2 ^ (if explicit then 0 else 1) := by cases explicit <;> decide
    calc
      (rootsOf explicit (pairs a b)).length ≤ a.length * b.length * width explicit := by
        rw [← length_pairs]
        exact length_rootsOf_le explicit _
      _ ≤ 2 ^ (degree.implicitCount + radicand.implicitCount) * 2 ^ (if explicit then 0 else 1) :=
        Nat.mul_le_mul (length_pairs_le first second) least
      _ = 2 ^ (Node.root degree radicand explicit span).implicitCount := (Nat.pow_add 2 _ _).symm

theorem implicitCount_child_le {child : Node} (inside : child ∈ node.children) :
    child.implicitCount ≤ node.implicitCount := by
  cases node with
  | number _ _ | symbol _ _ | directive _ _ => cases inside
  | trig function argument span => rw [List.mem_singleton.mp inside, implicitCount]
  | equals left right span | arithmetic operator left right span | power left right span
  | root left right explicit span =>
    rw [children, List.mem_pair] at inside
    rw [implicitCount]
    rcases inside with rfl | rfl
    · omega
    · omega

theorem implicitCount_le {part : Node} (member : part ∈ node.postorder) :
    part.implicitCount ≤ node.implicitCount := by
  induction node using children_induction with
  | step node ih =>
    rcases mem_postorder.mp member with ⟨child, inside, below⟩ | rfl
    · exact (ih child inside below).trans (implicitCount_child_le inside)
    · exact Nat.le_refl _

end Node

/-- An evaluation has at most one value for each choice of signs and, beyond the first, for each
branch that the limit allows; no tree of a reading has more than one. Under a limit with room for all
choices there are never too many. -/
theorem branches_bounded :
    (∀ (node : Node) (limit : Int) (x : Float) (values : List Float),
      node.branches limit x = .ok values →
        (values.length : Int) ≤ min (2 ^ node.implicitCount) (max 1 limit)) ∧
    (∀ (tokens : List Token) (nodes : List Node), Node.ofTokens tokens = .ok nodes →
      ∀ node ∈ nodes, ∀ part ∈ node.postorder, ∀ (limit : Int) (x : Float) (values : List Float),
        part.branches limit x = .ok values → values.length ≤ 1) ∧
    ∀ (node : Node) (limit : Int), 2 ^ node.implicitCount ≤ limit →
      ∀ (x : Float) (failure : Failure), node.branches limit x = .error failure →
        ¬ failure.IsExcess := by
  refine ⟨?_, ?_, ?_⟩
  · intro node limit x values evaluated
    have choices : (values.length : Int) ≤ 2 ^ node.implicitCount := by
      exact_mod_cast Node.length_branches_le evaluated
    exact le_min choices (Node.length_branches_le_limit evaluated)
  · intro tokens nodes read node member part inside limit x values evaluated
    have plain := Grammar.ofTokens_explicit read node member
    have fewer := Node.implicitCount_le inside
    have none : part.implicitCount = 0 := by omega
    have most := Node.length_branches_le evaluated
    rwa [none] at most
  · intro node limit room x failure failed excess
    obtain ⟨part, inside, cause, faulty, rfl⟩ := Node.exists_faulty failed
    have above := faulty.excess excess
    have fewer : 2 ^ part.implicitCount ≤ 2 ^ node.implicitCount :=
      Nat.pow_le_pow_right (by decide) (Node.implicitCount_le inside)
    have least : ((2 ^ node.implicitCount : Nat) : Int) ≤ limit := by exact_mod_cast room
    omega

end PlotScript

import PlotScript.Branches
import PlotScript.Proofs.Outcome
import Mathlib.Data.List.Basic

/-!
Branches as choices of signs. Every implicit root has a sign of its own, and the values of an
expression are what single-valued arithmetic gives under one choice after the other.
-/

namespace PlotScript

def Node.implicitCount : Node → Nat
  | .number _ _ | .symbol _ _ | .directive _ _ => 0
  | .equals left right _ | .arithmetic _ left right _ => left.implicitCount + right.implicitCount
  | .trig _ argument _ => argument.implicitCount
  | .power base exponent _ => base.implicitCount + exponent.implicitCount
  | .root degree radicand explicit _ =>
    degree.implicitCount + radicand.implicitCount + (if explicit then 0 else 1)

namespace Choices

open Branches Outcome

/-- The choices of `count` signs, plus (`true`) before minus, the first sign changing last. -/
def choices : Nat → List (List Bool)
  | 0 => [[]]
  | count + 1 => (choices count).map (true :: ·) ++ (choices count).map (false :: ·)

def beside (count : Nat) (first second : List Bool → Option Float) (signs : List Bool) :
    Option (Float × Float) := do
  return (← first (signs.take count), ← second (signs.drop count))

def rootOf? (pair : Float × Float) : Option Float :=
  match Root.principal pair.1 pair.2 with
  | .ok root? => root?
  | .error _ => none

def number? (value : Float) : Option Float := if value.isNaN then none else some value

end Choices

open Choices in
/-- The value under one choice of signs, given in the order in which the roots are taken: those
inside a root before its own. -/
def Node.single (x : Float) : Node → List Bool → Option Float
  | .number value _, _ => some value
  | .symbol name _, _ => if name = freeName then some x else none
  | .arithmetic operator left right _, signs => do
    let (a, b) ← beside left.implicitCount (left.single x) (right.single x) signs
    return operator.apply a b
  | .trig function argument _, signs => (argument.single x signs).map function.apply
  | .power base exponent _, signs => do
    let (a, b) ← beside base.implicitCount (base.single x) (exponent.single x) signs
    number? (Power.power a b)
  | .root degree radicand true _, signs =>
    (beside degree.implicitCount (degree.single x) (radicand.single x) signs).bind rootOf?
  | .root degree radicand false _, signs => do
    let root ← (beside degree.implicitCount (degree.single x) (radicand.single x)
      signs.dropLast).bind rootOf?
    return if signs.getLast? = some false then -root else root
  | .equals left right _, signs => do
    let (a, b) ← beside left.implicitCount (left.single x) (right.single x) signs
    return a - b
  | .directive _ _, _ => none

namespace Choices

open Branches Outcome

theorem mem_choices {count : Nat} {signs : List Bool} :
    signs ∈ choices count ↔ signs.length = count := by
  induction count generalizing signs with
  | zero => simp [choices]
  | succ count ih =>
    cases signs with
    | nil => simp [choices]
    | cons sign signs => cases sign <;> simp [choices, ih]

theorem choices_ordered (count : Nat) :
    (choices count).Pairwise (List.Lex fun sign other => sign = true ∧ other = false) := by
  induction count with
  | zero => exact List.pairwise_singleton _ _
  | succ count ih =>
    have behind (sign : Bool) : ((choices count).map (sign :: ·)).Pairwise
        (List.Lex fun sign other => sign = true ∧ other = false) :=
      List.pairwise_map.mpr (ih.imp fun {_ _} earlier => .cons earlier)
    rw [choices, List.pairwise_append]
    refine ⟨behind true, behind false, ?_⟩
    intro signs member others otherMember
    obtain ⟨_, _, rfl⟩ := List.mem_map.mp member
    obtain ⟨_, _, rfl⟩ := List.mem_map.mp otherMember
    exact .rel ⟨rfl, rfl⟩

theorem choices_add (count more : Nat) :
    choices (count + more) = (choices count).flatMap fun signs => (choices more).map (signs ++ ·) := by
  induction count with
  | zero => simp [choices]
  | succ count ih =>
    rw [Nat.succ_add, choices, ih]
    simp [choices, List.flatMap_map, List.map_flatMap, Function.comp_def]

theorem choices_succ (count : Nat) :
    choices (count + 1) = (choices count).flatMap fun signs => [signs ++ [true], signs ++ [false]] := by
  rw [choices_add]
  rfl

theorem flatMap_filterMap {α β γ : Type} (values : List α) (f : α → Option β) (g : β → List γ) :
    (values.filterMap f).flatMap g = values.flatMap fun value => (f value).toList.flatMap g := by
  rw [List.filterMap_eq_flatMap_toList, List.flatMap_assoc]

theorem pairs_choices (count more : Nat) (first second : List Bool → Option Float) :
    pairs ((choices count).filterMap first) ((choices more).filterMap second) =
      (choices (count + more)).filterMap (beside count first second) := by
  have split {signs : List Bool} (member : signs ∈ choices count) (rest : List Bool) :
      beside count first second (signs ++ rest) =
        (first signs).bind fun a => (second rest).map fun b => (a, b) := by
    have length : signs.length = count := mem_choices.mp member
    rw [beside, List.take_left' length, List.drop_left' length]
    cases first signs with
    | none => rfl
    | some a => cases second rest <;> rfl
  calc
    pairs ((choices count).filterMap first) ((choices more).filterMap second) =
        (choices count).flatMap fun signs => (first signs).toList.flatMap fun a =>
          ((choices more).filterMap second).map fun b => (a, b) := by
      rw [pairs, flatMap_filterMap]
    _ = (choices count).flatMap fun signs =>
          ((choices more).map (signs ++ ·)).filterMap (beside count first second) := by
      apply List.flatMap_congr
      intro signs member
      rw [List.filterMap_map]
      cases found : first signs with
      | none => simp [split member, found]
      | some a => simp [split member, found, List.map_filterMap]
    _ = (choices (count + more)).filterMap (beside count first second) := by
      rw [choices_add, List.filterMap_flatMap]

theorem combine_filterMap (operation : Float → Float → Float) (listed : List (List Bool))
    (values : List Bool → Option (Float × Float)) :
    combine operation (listed.filterMap values) =
      listed.filterMap fun signs => do
        let (a, b) ← values signs
        return operation a b := by
  rw [combine, List.map_filterMap]
  congr
  funext signs
  cases values signs <;> rfl

theorem numbers_filterMap (listed : List (List Bool)) (values : List Bool → Option Float) :
    numbers (listed.filterMap values) = listed.filterMap fun signs => (values signs).bind number? := by
  rw [numbers, List.filter_filterMap]
  congr
  funext signs
  cases values signs with
  | none => rfl
  | some value =>
    rw [Option.filter_some, Option.bind_some, number?]
    cases value.isNaN <;> rfl

theorem roots_eq {limit : Int} {node : Node} {explicit : Bool} {count : Nat}
    {pairs : List (Float × Float)} {values : List Float}
    (found : roots limit node explicit count pairs = .ok values) :
    values = pairs.flatMap fun pair => (rootOf? pair).toList.flatMap (signs explicit) := by
  induction pairs generalizing count values with
  | nil =>
    cases found
    rfl
  | cons pair rest ih =>
    obtain ⟨degree, radicand⟩ := pair
    rw [roots] at found
    split at found
    · cases found
    · next none =>
      rw [List.flatMap_cons, ← ih found]
      simp [rootOf?, none]
    · next root some =>
      simp only [bind_eq_ok_iff] at found
      obtain ⟨_, _, others, remaining, finished⟩ := found
      cases finished
      rw [List.flatMap_cons, ← ih remaining]
      simp [rootOf?, some]

theorem own_sign (count : Nat) (root? : List Bool → Option Float) :
    ((choices count).flatMap fun signs => (root? signs).toList.flatMap fun root => [root, -root]) =
      (choices (count + 1)).filterMap fun signs => do
        let root ← root? signs.dropLast
        return if signs.getLast? = some false then -root else root := by
  rw [choices_succ, List.filterMap_flatMap]
  apply List.flatMap_congr
  intro signs _
  cases found : root? signs with
  | none => simp [found]
  | some root => simp [found]

theorem roots_filterMap (explicit : Bool) (listed : List (List Bool))
    (pairs : List Bool → Option (Float × Float)) :
    ((listed.filterMap pairs).flatMap fun pair => (rootOf? pair).toList.flatMap (signs explicit)) =
      listed.flatMap fun choice => ((pairs choice).bind rootOf?).toList.flatMap (signs explicit) := by
  rw [flatMap_filterMap]
  apply List.flatMap_congr
  intro choice _
  cases pairs choice with
  | none => rfl
  | some pair => simp

theorem cross_eq {limit : Int} {node : Node} {left right : List Float} {found : List (Float × Float)}
    (crossed : cross limit node left right = .ok found) : found = pairs left right := by
  simp only [cross, bind_eq_ok_iff] at crossed
  obtain ⟨_, _, finished⟩ := crossed
  cases finished
  rfl

theorem arithmetic_eq {node : Node} {x : Float} {operator : Operator} {pairs : List (Float × Float)}
    {values : List Float} (found : Branches.arithmetic node x operator pairs = .ok values) :
    values = combine operator.apply pairs := by
  cases operator with
  | div =>
    rw [Branches.arithmetic, quotients] at found
    split at found
    · cases found
    · cases found
      rfl
  | _ =>
    cases found
    rfl

theorem branches_choices {limit : Int} {x : Float} {node : Node} {values : List Float}
    (evaluated : node.branches limit x = .ok values) :
    values = (choices node.implicitCount).filterMap (node.single x) := by
  -- Each operation runs through its operands' values in the order of their choices, and what it
  -- leaves out has no value under its choice.
  induction node generalizing values with
  | number value span =>
    cases evaluated
    rfl
  | symbol name span =>
    rw [Node.branches] at evaluated
    split at evaluated
    · next free =>
      cases evaluated
      simp [Node.implicitCount, choices, Node.single, free]
    · cases evaluated
  | arithmetic operator left right span ih ih' =>
    simp only [Node.branches, bind_eq_ok_iff] at evaluated
    obtain ⟨a, first, b, second, crossed, pairs, finished⟩ := evaluated
    rw [arithmetic_eq finished, cross_eq pairs, ih first, ih' second, pairs_choices, combine_filterMap]
    rfl
  | trig function argument span ih =>
    simp only [Node.branches, bind_eq_ok_iff] at evaluated
    obtain ⟨a, inner, finished⟩ := evaluated
    cases finished
    rw [ih inner, List.map_filterMap]
    rfl
  | power base exponent span ih ih' =>
    simp only [Node.branches, bind_eq_ok_iff] at evaluated
    obtain ⟨a, first, b, second, crossed, pairs, finished⟩ := evaluated
    cases finished
    rw [cross_eq pairs, ih first, ih' second, pairs_choices, combine_filterMap, numbers_filterMap]
    congr
    funext signs
    rw [Node.single]
    cases beside base.implicitCount (base.single x) (exponent.single x) signs <;> rfl
  | root degree radicand explicit span ih ih' =>
    simp only [Node.branches, bind_eq_ok_iff] at evaluated
    obtain ⟨a, first, b, second, finished⟩ := evaluated
    rw [roots_eq finished, ih first, ih' second, pairs_choices, roots_filterMap]
    cases explicit with
    | true =>
      have one : Branches.signs true = fun root => [root] := rfl
      simp only [one, List.flatMap_singleton', ← List.filterMap_eq_flatMap_toList]
      rfl
    | false => exact own_sign _ _
  | equals left right span ih ih' =>
    simp only [Node.branches, bind_eq_ok_iff] at evaluated
    obtain ⟨a, first, b, second, crossed, pairs, finished⟩ := evaluated
    cases finished
    rw [cross_eq pairs, ih first, ih' second, pairs_choices, combine_filterMap]
    rfl
  | directive command span => cases evaluated

/-- An evaluation that succeeds gives the single value under each choice of signs, where there is
one, and the choices come each once and in their order. -/
theorem branches_eq_choices {limit : Int} {x : Float} {node : Node} {values : List Float}
    (evaluated : node.branches limit x = .ok values) :
    values = (choices node.implicitCount).filterMap (node.single x) ∧
      (∀ signs, signs ∈ choices node.implicitCount ↔ signs.length = node.implicitCount) ∧
      (choices node.implicitCount).Pairwise
        (List.Lex fun sign other => sign = true ∧ other = false) :=
  ⟨branches_choices evaluated, fun _ => mem_choices, choices_ordered node.implicitCount⟩

theorem branches_eq_choices_sum :
    let node : Node := .arithmetic .add (.root (.number 1 none) (.number 4 none) false none)
      (.root (.number 1 none) (.symbol "x" none) false none) none
    node.branches 4 1 = .ok [5, 3, -3, -5] ∧
      [5, 3, -3, -5] = (choices node.implicitCount).filterMap (node.single 1) := by
  intro node
  have evaluated : node.branches 4 1 = .ok [5, 3, -3, -5] := by decide +kernel
  exact ⟨evaluated, (branches_eq_choices evaluated).1⟩

end Choices

end PlotScript

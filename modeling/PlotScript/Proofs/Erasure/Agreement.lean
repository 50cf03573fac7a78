import PlotScript.Proofs.Erasure.Drawing
import PlotScript.Proofs.Grammar.Spacing
import PlotScript.Proofs.Interpretation
import PlotScript.Proofs.Parts

/-!
Agreeing scripts. Two scripts whose statements agree differ in spans only, since no number that a script
can write is negative; they then ask for the same picture, with the same values, or fail alike.
-/

namespace PlotScript

def Diagnostic.Alike (first second : Diagnostic) : Prop :=
  first.kind = second.kind ∧ first.message = second.message

/-- Failures of the same kind with the same message, those of an interpretation one by one. -/
inductive Failure.Alike : Failure → Failure → Prop
  | diagnostic {first second : Diagnostic} :
      first.Alike second → Alike (.diagnostic first) (.diagnostic second)
  | interpretation {first second : List Diagnostic} :
      List.Forall₂ Diagnostic.Alike first second →
        Alike (.interpretation first) (.interpretation second)
  | fault {fault : Fault} : Alike (.fault fault) (.fault fault)

inductive Outcome.Alike {α : Type} (corresponds : α → α → Prop) :
    Except Failure α → Except Failure α → Prop
  | ok {first second : α} : corresponds first second → Alike corresponds (.ok first) (.ok second)
  | error {first second : Failure} :
      first.Alike second → Alike corresponds (.error first) (.error second)

/-- Layouts that ask for the same, with equations that have the same values everywhere. -/
structure Layout.Alike (first second : Layout) : Prop where
  flags : first.flags = second.flags
  frame : first.frame = second.frame
  resolution : first.resolution = second.resolution
  path : first.path = second.path
  equations : Node.listAgrees first.equations second.equations
  values (limit : Int) (x : Float) : List.Forall₂
    (fun equation equation' => Outcome.Alike Eq (equation.branches limit x) (equation'.branches limit x))
    first.equations second.equations
  picture (limit : Int) : Outcome.Alike Eq (first.render limit) (second.render limit)

theorem forall₂_of_map_eq {α β : Type} {f : α → β} {first second : List α}
    (same : first.map f = second.map f) : List.Forall₂ (fun a b => f a = f b) first second := by
  rw [← List.forall₂_eq_eq_eq, List.forall₂_map_left_iff, List.forall₂_map_right_iff] at same
  exact same

theorem Diagnostic.alike_of_eraseSpans {first second : Diagnostic}
    (same : first.eraseSpans = second.eraseSpans) : first.Alike second := by
  constructor
  · rw [← kind_eraseSpans, same, kind_eraseSpans]
  · rw [← message_eraseSpans, same, message_eraseSpans]

theorem Diagnostic.alike_of_map {first second : List Diagnostic}
    (same : first.map eraseSpans = second.map eraseSpans) : List.Forall₂ Alike first second :=
  (forall₂_of_map_eq same).imp fun _ _ => alike_of_eraseSpans

theorem Failure.alike_of_eraseSpans {first second : Failure}
    (same : first.eraseSpans = second.eraseSpans) : first.Alike second := by
  cases first with
  | diagnostic found =>
    cases second with
    | diagnostic found' =>
      exact .diagnostic (Diagnostic.alike_of_eraseSpans (Failure.diagnostic.inj same))
    | _ => cases same
  | interpretation found =>
    cases second with
    | interpretation found' =>
      exact .interpretation (Diagnostic.alike_of_map (Failure.interpretation.inj same))
    | _ => cases same
  | fault found =>
    cases second with
    | fault found' =>
      cases same
      exact .fault
    | _ => cases same

theorem Outcome.alike_of_eraseSpans {α : Type} {first second : Except Failure α}
    (same : first.mapError Failure.eraseSpans = second.mapError Failure.eraseSpans) :
    Alike Eq first second := by
  cases first with
  | ok value =>
    cases second with
    | ok value' => exact .ok (Except.ok.inj same)
    | error failure => cases same
  | error failure =>
    cases second with
    | ok value => cases same
    | error failure' => exact .error (Failure.alike_of_eraseSpans (Except.error.inj same))

namespace Layout

theorem alike_of_eraseSpans {first second : Layout} (same : first.eraseSpans = second.eraseSpans)
    (numbers : ∀ equation ∈ second.equations, ∀ value ∈ equation.numbers, value == value) :
    first.Alike second where
  flags := (congrArg flags same :)
  frame := (congrArg frame same :)
  resolution := (congrArg resolution same :)
  path := (congrArg path same :)
  equations := Grammar.listAgrees_of_eraseSpans (congrArg equations same) numbers
  values limit x := by
    refine (forall₂_of_map_eq (congrArg equations same)).imp fun equation equation' alike => ?_
    apply Outcome.alike_of_eraseSpans
    rw [← Node.branches_eraseSpans, alike, Node.branches_eraseSpans]
  picture limit := by
    apply Outcome.alike_of_eraseSpans
    rw [← render_eraseSpans, same, render_eraseSpans]

end Layout

namespace Node

/-- A tree whose numbers have no minus sign. -/
def Unsigned (node : Node) : Prop :=
  ∀ value ∈ node.numbers, (Binary64.ofFloat value).hasMinus = false

theorem eraseSpans_eq_of_agrees {first second : Node} (unsigned : first.Unsigned)
    (unsigned' : second.Unsigned) (same : first.agrees second) :
    first.eraseSpans = second.eraseSpans := by
  induction first generalizing second with
  | number value span =>
    cases second with
    | number value' span' =>
      have minus := (unsigned value List.mem_cons_self).trans (unsigned' value' List.mem_cons_self).symm
      rw [eraseSpans, eraseSpans, Binary64.eq_of_beq same minus]
    | _ => cases same
  | symbol name span =>
    cases second with
    | symbol name' span' => rw [eraseSpans, eraseSpans, eq_of_beq same]
    | _ => cases same
  | directive command span =>
    cases second with
    | directive command' span' => rw [eraseSpans, eraseSpans, eq_of_beq same]
    | _ => cases same
  | trig function argument span ih =>
    cases second with
    | trig function' argument' span' =>
      have inner' : argument'.Unsigned := unsigned'
      simp only [agrees, Bool.and_eq_true, beq_iff_eq] at same
      rw [eraseSpans, eraseSpans, same.1, ih unsigned inner' same.2]
    | _ => cases same
  | equals left right span ih ih' =>
    cases second with
    | equals left' right' span' =>
      simp only [Unsigned, numbers, List.forall_mem_append] at unsigned unsigned'
      simp only [agrees, Bool.and_eq_true] at same
      rw [eraseSpans, eraseSpans, ih unsigned.1 unsigned'.1 same.1, ih' unsigned.2 unsigned'.2 same.2]
    | _ => cases same
  | arithmetic operator left right span ih ih' =>
    cases second with
    | arithmetic operator' left' right' span' =>
      simp only [Unsigned, numbers, List.forall_mem_append] at unsigned unsigned'
      simp only [agrees, Bool.and_eq_true, beq_iff_eq] at same
      obtain ⟨⟨operators, lefts⟩, rights⟩ := same
      rw [eraseSpans, eraseSpans, operators, ih unsigned.1 unsigned'.1 lefts,
        ih' unsigned.2 unsigned'.2 rights]
    | _ => cases same
  | power base exponent span ih ih' =>
    cases second with
    | power base' exponent' span' =>
      simp only [Unsigned, numbers, List.forall_mem_append] at unsigned unsigned'
      simp only [agrees, Bool.and_eq_true] at same
      rw [eraseSpans, eraseSpans, ih unsigned.1 unsigned'.1 same.1, ih' unsigned.2 unsigned'.2 same.2]
    | _ => cases same
  | root degree radicand explicit span ih ih' =>
    cases second with
    | root degree' radicand' explicit' span' =>
      simp only [Unsigned, numbers, List.forall_mem_append] at unsigned unsigned'
      simp only [agrees, Bool.and_eq_true, beq_iff_eq] at same
      obtain ⟨⟨degrees, radicands⟩, marks⟩ := same
      rw [eraseSpans, eraseSpans, marks, ih unsigned.1 unsigned'.1 degrees,
        ih' unsigned.2 unsigned'.2 radicands]
    | _ => cases same

theorem map_eraseSpans_eq_of_listAgrees {first second : List Node}
    (unsigned : ∀ node ∈ first, node.Unsigned) (unsigned' : ∀ node ∈ second, node.Unsigned)
    (same : listAgrees first second) : first.map eraseSpans = second.map eraseSpans := by
  induction first generalizing second with
  | nil =>
    cases second with
    | nil => rfl
    | cons _ _ => cases same
  | cons node first ih =>
    cases second with
    | nil => cases same
    | cons node' second =>
      rw [List.forall_mem_cons] at unsigned unsigned'
      rw [listAgrees, Bool.and_eq_true] at same
      rw [List.map_cons, List.map_cons, eraseSpans_eq_of_agrees unsigned.1 unsigned'.1 same.1,
        ih unsigned.2 unsigned'.2 same.2]

theorem all_numbers_iff {P : Float → Prop} {node : Node} :
    node.All (fun part => ∀ value span, part = .number value span → P value) ↔
      ∀ value ∈ node.numbers, P value := by
  induction node <;> simp_all [All, numbers, or_imp, forall_and]

theorem numbers_solution {P : Float → Prop} {node solved : Node}
    (all : ∀ value ∈ node.numbers, P value) (found : node.solution? = some solved) :
    ∀ value ∈ solved.numbers, P value := by
  cases node with
  | equals left right span =>
    rw [numbers, List.forall_mem_append] at all
    have first := all_numbers_iff.mpr all.1
    have second := all_numbers_iff.mpr all.2
    refine all_numbers_iff.mp (All.solution ?_ first second found)
    -- What undoing an operation makes is no number.
    rintro left right node _ _ ⟨operation, _⟩ value span rfl
    cases operation
  | _ => cases found

end Node

theorem Printing.Expression.unsigned {node : Node} (expression : Expression node) : node.Unsigned := by
  intro value member
  rcases expression.finite_or_infinite member with ⟨_, _, finite⟩ | infinite
  · rw [finite, Binary64.hasMinus]
  · rw [infinite, Binary64.hasMinus]

theorem Printing.Sentence.unsigned {node : Node} (sentence : Sentence node) : node.Unsigned := by
  cases sentence with
  | equals left right => exact List.forall_mem_append.mpr ⟨left.unsigned, right.unsigned⟩
  | directive _ _ => simp [Node.Unsigned, Node.numbers]

namespace Interpretation

theorem result_alike {first second : Interpretation} (same : first.eraseSpans = second.eraseSpans)
    (numbers : ∀ equation ∈ second.layout.equations,
      ∀ value ∈ equation.numbers, value == value) :
    Outcome.Alike Layout.Alike first.result second.result := by
  have errors : first.errors.map Diagnostic.eraseSpans = second.errors.map Diagnostic.eraseSpans :=
    congrArg Interpretation.errors same
  have layouts : first.layout.eraseSpans = second.layout.eraseSpans := congrArg layout same
  have empty : first.errors.isEmpty = second.errors.isEmpty := by
    rw [← List.isEmpty_map, errors, List.isEmpty_map]
  rw [result, result, empty]
  split
  · exact .ok (Layout.alike_of_eraseSpans layouts numbers)
  · exact .error (.interpretation (Diagnostic.alike_of_map errors))

/-- Where the statements of a script stand is nothing to what they mean. -/
theorem result_of_listAgrees {source source' text text' : String} {nodes nodes' : List Node}
    (read : Node.ofScript source text = .ok nodes) (read' : Node.ofScript source' text' = .ok nodes')
    (same : Node.listAgrees nodes nodes') :
    Outcome.Alike Layout.Alike (ofNodes nodes).result (ofNodes nodes').result := by
  have erased : nodes.map Node.eraseSpans = nodes'.map Node.eraseSpans :=
    Node.map_eraseSpans_eq_of_listAgrees
      (fun _ member => (Printing.sentence_of_ofScript read member).unsigned)
      (fun _ member => (Printing.sentence_of_ofScript read' member).unsigned) same
  apply result_alike
  · rw [← run_eraseSpans, erased, run_eraseSpans]
  · intro equation member
    rw [equations_ofNodes, List.mem_filterMap] at member
    obtain ⟨node, inside, solved⟩ := member
    exact Node.numbers_solution (fun _ => (Printing.sentence_of_ofScript read' inside).beq_self) solved

theorem result_of_listAgrees_spaced :
    let quotient (first second third : Span) : Node :=
      .arithmetic .div (.number 1 first) (.symbol "x" second) third
    let nodes : List Node := [.equals (.symbol "y" (some ⟨"curve", 0, 1⟩))
      (quotient ⟨"curve", 2, 3⟩ ⟨"curve", 4, 5⟩ ⟨"curve", 2, 5⟩) (some ⟨"curve", 0, 5⟩)]
    let spaced : List Node := [.equals (.symbol "y" (some ⟨"other", 0, 1⟩))
      (quotient ⟨"other", 4, 5⟩ ⟨"other", 8, 9⟩ ⟨"other", 4, 9⟩) (some ⟨"other", 0, 9⟩)]
    Node.ofScript "curve" "y=1/x" = .ok nodes ∧ Node.ofScript "other" "y = 1 / x" = .ok spaced ∧
      Node.listAgrees nodes spaced ∧
      Outcome.Alike Layout.Alike (ofNodes nodes).result (ofNodes spaced).result := by
  intro quotient nodes spaced
  have read : Node.ofScript "curve" "y=1/x" = .ok nodes := by decide +kernel
  have read' : Node.ofScript "other" "y = 1 / x" = .ok spaced := by decide +kernel
  have same : Node.listAgrees nodes spaced := by decide +kernel
  exact ⟨read, read', same, result_of_listAgrees read read' same⟩

end Interpretation

end PlotScript

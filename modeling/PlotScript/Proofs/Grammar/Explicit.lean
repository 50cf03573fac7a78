import PlotScript.Node.Parser
import PlotScript.Proofs.Choices

namespace PlotScript

namespace Node

@[simp] theorem implicitCount_withSpan (node : Node) (span : Option Span) :
    (node.withSpan span).implicitCount = node.implicitCount := by
  cases node <;> rfl

end Node

namespace Grammar

open Reader

def Gives {α : Type} (P : α → Prop) (outcome : Except Failure α) : Prop :=
  ∀ value, outcome = .ok value → P value

section

variable {α β : Type} {P : α → Prop} {Q : β → Prop}

theorem Gives.ok {value : α} (holds : P value) : Gives P (.ok value) := by
  intro other same
  cases same
  exact holds

theorem Gives.error (failure : Failure) : Gives P (.error failure) := by
  intro value same
  cases same

theorem Gives.any (outcome : Except Failure α) : Gives (fun _ => True) outcome :=
  fun _ _ => trivial

theorem Gives.bind {outcome : Except Failure α} {next : α → Except Failure β}
    (first : Gives P outcome) (later : ∀ value, P value → Gives Q (next value)) :
    Gives Q (outcome >>= next) := by
  intro result found
  obtain ⟨value, same, finished⟩ := Outcome.bind_eq_ok_iff.mp found
  exact later value (first value same) result finished

end

def Explicit (reader : Reader Node) : Prop :=
  ∀ stream, Gives (fun found => found.1.implicitCount = 0) (reader stream)

section

variable {term : Reader Node} (inner : Explicit term)

include inner

theorem group_explicit : Explicit (group term) := by
  intro stream
  refine (inner stream.advance).bind fun (inside, after) plain => ?_
  refine (Gives.any _).bind fun (close, after) _ => ?_
  exact .ok ((inside.implicitCount_withSpan _).trans plain)

theorem trigCall_explicit (function : Trig) (name : Token) :
    Explicit (trigCall function name term) := by
  intro stream
  refine (Gives.any _).bind fun (opening, stream) _ => ?_
  refine (inner stream).bind fun (argument, stream) plain => ?_
  refine (Gives.any _).bind fun (close, stream) _ => ?_
  exact .ok plain

theorem pairCall_explicit {build : Node → Node → Option Span → Node}
    (built : ∀ first second span,
      (build first second span).implicitCount = first.implicitCount + second.implicitCount)
    (name : Token) : Explicit (pairCall build name term) := by
  intro stream
  refine (Gives.any _).bind fun (opening, stream) _ => ?_
  refine (inner stream).bind fun (first, stream) plain => ?_
  refine (Gives.any _).bind fun (comma, stream) _ => ?_
  refine (inner stream).bind fun (second, stream) plain' => ?_
  refine (Gives.any _).bind fun (close, stream) _ => ?_
  refine .ok ((built first second _).trans ?_)
  rw [plain, plain']

theorem functionCall_explicit : Explicit (functionCall term) := by
  intro stream
  simp only [functionCall]
  split
  · exact .error _
  · exact trigCall_explicit inner .sin _ _
  · exact trigCall_explicit inner .cos _ _
  · exact trigCall_explicit inner .tan _ _
  · exact pairCall_explicit inner (fun _ _ _ => rfl) _ _
  · exact pairCall_explicit inner (fun _ _ _ => rfl) _ _

theorem operand_explicit : Explicit (operand term) := by
  intro stream
  simp only [operand]
  split
  · exact group_explicit inner stream
  · have number : Gives (fun node => node.implicitCount = 0) (numberOf stream.current) := by
      rw [numberOf]
      split
      · exact .ok rfl
      · exact .error _
    exact number.bind fun node plain => .ok plain
  · exact .ok rfl
  · exact functionCall_explicit inner stream
  · exact .error _

end

theorem juxtaposition_explicit {operand : Reader Node} (inner : Explicit operand) (bound : Nat) :
    Explicit (juxtaposition operand bound) := by
  induction bound with
  | zero => exact fun _ => .error _
  | succ bound ih =>
    intro stream
    refine (inner stream).bind fun (left, stream) plain => ?_
    dsimp only
    split
    · refine (ih stream).bind fun (right, stream) plain' => ?_
      refine .ok ?_
      change left.implicitCount + right.implicitCount = 0
      rw [plain, plain']
    · exact .ok plain

theorem rowFrom_explicit {operator? : TokenKind → Option Operator} {operand : Reader Node}
    (inner : Explicit operand) (bound : Nat) {left : Node} (plain : left.implicitCount = 0) :
    Explicit (rowFrom operator? operand bound left) := by
  induction bound generalizing left with
  | zero => exact fun _ => .error _
  | succ bound ih =>
    intro stream
    rw [rowFrom]
    split
    · exact .ok plain
    · refine (inner stream.advance).bind fun (right, stream) plain' => ?_
      refine ih ?_ stream
      change left.implicitCount + right.implicitCount = 0
      rw [plain, plain']

theorem row_explicit {operator? : TokenKind → Option Operator} {operand : Reader Node}
    (inner : Explicit operand) (bound : Nat) : Explicit (row operator? operand bound) := by
  intro stream
  exact (inner stream).bind fun (_, stream) plain => rowFrom_explicit inner bound plain stream

theorem term_explicit (bound : Nat) : Explicit (term bound) := by
  induction bound with
  | zero => exact fun _ => .error _
  | succ bound ih =>
    exact row_explicit (row_explicit (juxtaposition_explicit (operand_explicit ih) bound) bound) bound

theorem equation_explicit (bound : Nat) : Explicit (equation bound) := by
  intro stream
  refine (term_explicit bound stream).bind fun (left, stream) plain => ?_
  dsimp only
  split
  · refine (term_explicit bound stream.advance).bind fun (right, stream) plain' => ?_
    refine .ok ?_
    change left.implicitCount + right.implicitCount = 0
    rw [plain, plain']
  · refine .ok ?_
    change 0 + left.implicitCount = 0
    rw [plain]

theorem directive_explicit : Explicit directive := by
  intro stream
  refine (Gives.any _).bind fun (name, stream) _ => ?_
  dsimp only
  split
  · exact .error _
  · refine (Gives.any _).bind fun (opening, stream) _ => ?_
    refine (Gives.any _).bind fun (command, stream) _ => ?_
    exact (Gives.any _).bind fun (close, stream) _ => .ok rfl

theorem statement_explicit (bound : Nat) : Explicit (statement bound) := by
  intro stream
  rw [statement]
  split
  · exact directive_explicit stream
  · exact equation_explicit bound stream

theorem statements_explicit (bound : Nat) (stream : Stream) :
    Gives (fun nodes => ∀ node ∈ nodes, node.implicitCount = 0) (statements bound stream) := by
  induction bound generalizing stream with
  | zero => exact .error _
  | succ bound ih =>
    rw [statements]
    split
    · exact .ok (by simp)
    · split
      · exact .ok (by simp)
      · exact ih stream.advance
    · refine (statement_explicit bound stream).bind fun (node, stream) plain => ?_
      refine (Gives.any _).bind fun (line, stream) _ => ?_
      refine (ih stream).bind fun nodes rest => ?_
      exact .ok (List.forall_mem_cons.mpr ⟨plain, rest⟩)

theorem ofTokens_explicit {tokens : List Token} {nodes : List Node}
    (read : Node.ofTokens tokens = .ok nodes) : ∀ node ∈ nodes, node.implicitCount = 0 := by
  cases tokens with
  | nil =>
    cases read
    simp
  | cons first rest => exact statements_explicit _ _ nodes read

end Grammar

end PlotScript

import PlotScript.Proofs.Grammar.Offence

namespace PlotScript

namespace Grammar

open Reader Outcome

def callItems : FunctionName → List Item
  | .sin | .cos | .tan => [.opening, .sum, .closing]
  | .pow | .root => [.opening, .sum, .comma, .sum, .closing]

section

variable (bound : Nat)

theorem group_items (stream : Stream) :
    (group (term bound) stream).map Prod.snd =
      readItems bound [.sum, .closing] stream.advance := by
  refine rest_bind fun inner after => ?_
  exact rest_bind fun closing last => rfl

theorem trigCall_items (function : Trig) (name : Token) (stream : Stream) :
    (trigCall function name (term bound) stream).map Prod.snd =
      readItems bound [.opening, .sum, .closing] stream := by
  refine rest_bind fun opening first => ?_
  refine rest_bind fun argument after => ?_
  exact rest_bind fun closing last => rfl

theorem pairCall_items (build : Node → Node → Option Span → Node) (name : Token) (stream : Stream) :
    (pairCall build name (term bound) stream).map Prod.snd =
      readItems bound [.opening, .sum, .comma, .sum, .closing] stream := by
  refine rest_bind fun opening first => ?_
  refine rest_bind fun left after => ?_
  refine rest_bind fun comma second => ?_
  refine rest_bind fun right third => ?_
  exact rest_bind fun closing last => rfl

theorem functionCall_items {stream : Stream} {name : FunctionName}
    (word : FunctionName.ofWord? stream.current.value = some name) :
    (functionCall (term bound) stream).map Prod.snd =
      readItems bound (callItems name) stream.advance := by
  simp only [functionCall, word]
  cases name with
  | sin => exact trigCall_items bound .sin _ _
  | cos => exact trigCall_items bound .cos _ _
  | tan => exact trigCall_items bound .tan _ _
  | pow => exact pairCall_items bound _ _ _
  | root => exact pairCall_items bound _ _ _

end

theorem group_fits {opening : Token} {tokens : List Token} (opens : opening.kind = .leftParen)
    (fits : FitItems [.sum, .closing] tokens) : Phrase.operand.Fits (opening :: tokens) := by
  obtain ⟨inside, _, rfl, ⟨node, derived⟩, _, _, rfl, ⟨closing, rfl, closes⟩, rfl⟩ := fits
  exact ⟨_, .group opens derived closes⟩

theorem pair_fits {tokens : List Token}
    (fits : FitItems [.opening, .sum, .comma, .sum, .closing] tokens) :
    ∃ opening first comma second closing left right,
      tokens = opening :: first ++ comma :: second ++ [closing] ∧ opening.kind = .leftParen ∧
        Derives .sum first left ∧ comma.kind = .comma ∧ Derives .sum second right ∧
          closing.kind = .rightParen := by
  obtain ⟨_, _, rfl, ⟨opening, rfl, opens⟩, first, _, rfl, ⟨left, derived⟩, _, _, rfl,
    ⟨comma, rfl, separates⟩, second, _, rfl, ⟨right, derived'⟩, _, _, rfl, ⟨closing, rfl, closes⟩,
    rfl⟩ := fits
  exact ⟨opening, first, comma, second, closing, left, right, by simp, opens, derived, separates,
    derived', closes⟩

theorem call_fits {name : Token} {known : FunctionName} {tokens : List Token}
    (kind : name.kind = .function) (word : name.value = known.word)
    (fits : FitItems (callItems known) tokens) : Phrase.operand.Fits (name :: tokens) := by
  have trig (function : Trig) (word : name.value = function.word)
      (fits : FitItems [.opening, .sum, .closing] tokens) : Phrase.operand.Fits (name :: tokens) := by
    obtain ⟨_, _, rfl, ⟨opening, rfl, opens⟩, inside, _, rfl, ⟨argument, derived⟩, _, _, rfl,
      ⟨closing, rfl, closes⟩, rfl⟩ := fits
    exact ⟨_, .trig function kind word opens derived closes⟩
  cases known with
  | sin => exact trig .sin word fits
  | cos => exact trig .cos word fits
  | tan => exact trig .tan word fits
  | pow =>
    obtain ⟨_, _, _, _, _, _, _, rfl, opens, derived, separates, derived', closes⟩ := pair_fits fits
    exact ⟨_, .power kind word opens derived separates derived' closes⟩
  | root =>
    obtain ⟨_, _, _, _, _, _, _, rfl, opens, derived, separates, derived', closes⟩ := pair_fits fits
    exact ⟨_, .root kind word opens derived separates derived' closes⟩

section

variable {bound : Nat} (terms : Halts (term bound) Phrase.sum.Fits (readerOf .sum))

include terms

theorem operand_halts : Halts (operand (term bound)) Phrase.operand.Fits (readerOf .operand) := by
  intro stream found scanned failed
  -- Behind the first token of a group or a call stand items, read with a lesser bound.
  have inside {items : List Item} (inner : stream.current.kind ≠ .endOfText)
      (failed : readItems bound items stream.advance = .error (.diagnostic found))
      (fits : ∀ tokens, FitItems items tokens → Phrase.operand.Fits (stream.current :: tokens))
      (same : ∀ depth next, readItems depth items next = .error (.diagnostic found) →
        operand (term depth) (next.prepend [stream.current]) = .error (.diagnostic found)) :
      Halted Phrase.operand.Fits (readerOf .operand) stream found := by
    obtain ⟨front, remaining⟩ := scanned.advance inner
    refine (items_halt terms items remaining failed).behind [stream.current] front fits ?_
    intro size depth length next deep _ _ fails
    rw [List.length_singleton] at deep
    obtain ⟨depth, rfl⟩ := Nat.exists_eq_add_one_of_ne_zero (by omega : depth ≠ 0)
    exact same (depth + 1) next (fails depth depth (by omega) (by omega))
  simp only [operand] at failed
  split at failed
  · next opens =>
    have failed := rest_eq_error_iff.mpr failed
    rw [group_items] at failed
    refine inside (by simp [opens]) failed (fun tokens => group_fits opens) fun depth next fails => ?_
    have again := group_items depth (next.prepend [stream.current])
    rw [Stream.advance_prepend, Stream.prepend_nil, fails] at again
    simpa only [operand, Stream.current_prepend, opens] using rest_eq_error_iff.mp again
  · next kind =>
    rcases bind_eq_error_iff.mp failed with failed | ⟨number, _, finished⟩
    · rw [numberOf] at failed
      split at failed <;> cases failed
    · cases finished
  · cases failed
  · next kind =>
    cases word : FunctionName.ofWord? stream.current.value with
    | none =>
      simp only [functionCall, word] at failed
      cases failed
      refine .here rfl Phrase.operand.fills fun _ _ later => ?_
      simp only [readerOf, operand, kind, functionCall, word]
      rfl
    | some known =>
      have failed := rest_eq_error_iff.mpr failed
      rw [functionCall_items bound word] at failed
      refine inside (by simp [kind]) failed (fun tokens => call_fits kind (functionWord word)) ?_
      intro depth next fails
      have again := @functionCall_items depth (next.prepend [stream.current]) known word
      rw [Stream.advance_prepend, Stream.prepend_nil, fails] at again
      simpa only [operand, Stream.current_prepend, kind] using rest_eq_error_iff.mp again
  · next notParen notNumber notSymbol notFunction =>
    cases failed
    refine .here rfl Phrase.operand.fills fun _ _ later => ?_
    simp only [readerOf, operand]
    rfl

theorem juxtaposition_halts (length : Nat) :
    Halts (juxtaposition (operand (term bound)) length) Phrase.row.Fits (readerOf .row) := by
  induction length with
  | zero =>
    intro stream found _ failed
    cases failed
  | succ length ih =>
    intro stream found scanned failed
    rcases bind_eq_error_iff.mp failed with failed | ⟨⟨left, rest⟩, passed, failed⟩
    · refine (operand_halts terms scanned failed).map ?_ ?_
      · rintro tokens ⟨node, derived⟩
        exact ⟨node, .alone derived⟩
      · intro size depth long next deep enough _ fails
        obtain ⟨long, rfl⟩ := Nat.exists_eq_add_one_of_ne_zero (by omega : long ≠ 0)
        have fails : operand (term depth) next = _ := fails depth depth deep deep
        simp only [readerOf, juxtaposition, fails]
        rfl
    · obtain ⟨part, front, derived, remaining⟩ :=
        operand_sound (term_sound bound) scanned passed
      have decimals := scanned.decimals_front front
      have filled := derived.length_pos
      dsimp only at failed
      split at failed
      · next starts =>
        rcases bind_eq_error_iff.mp failed with failed | ⟨right, _, finished⟩
        · refine (ih remaining failed).behind part front ?_ ?_
          · rintro others ⟨node, derived'⟩
            exact ⟨_, .beside derived derived'⟩
          · intro size depth long next deep enough same fails
            obtain ⟨long, rfl⟩ := Nat.exists_eq_add_one_of_ne_zero (by omega : long ≠ 0)
            have passes : operand (term depth) (next.prepend part) = .ok (left, next) :=
              reader_accepts derived decimals (by omega : part.length ≤ depth)
                (by omega : part.length ≤ depth) next trivial
            have fails : juxtaposition (operand (term depth)) long next = _ :=
              fails depth long (by omega) (by omega)
            simp only [readerOf, juxtaposition, passes, ok_bind, same, starts, if_true, fails]
            rfl
        · cases finished
      · cases failed

end

section

variable {inner : Phrase} {operator? : TokenKind → Option Operator}
  {signs : List (TokenKind × Operator)} {operand : Reader Node}
  (known : ∀ {kind operator}, operator? kind = some operator ↔ (kind, operator) ∈ signs)
  (last : ∀ operator, (TokenKind.endOfText, operator) ∉ signs)
  (reads : Reads operand (Derives inner)) (leaves : Leaves operand inner.Stops)
  (halts : Halts operand inner.Fits (readerOf inner))

include known last reads leaves halts

theorem rowFrom_halts (bound : Nat) (left : Node) :
    Halts (rowFrom operator? operand bound left)
      (fun tokens => ∃ node, Chain signs (Derives inner) left tokens node)
      (fun depth length => rowFrom operator? (readerOf inner depth depth) length left) := by
  -- The left side is generalized: behind an operand the rest is read with the tree built so far.
  induction bound generalizing left with
  | zero =>
    intro stream found _ failed
    cases failed
  | succ bound ih =>
    intro stream found scanned failed
    rw [rowFrom] at failed
    split at failed
    · cases failed
    · next operator sign =>
      have signed := known.mp sign
      obtain ⟨front, scanned⟩ := scanned.advance fun ended => last operator (ended ▸ signed)
      rcases bind_eq_error_iff.mp failed with failed | ⟨⟨right, rest⟩, passed, failed⟩
      · refine (halts scanned failed).behind [stream.current] front ?_ ?_
        · rintro others ⟨node, derived⟩
          let link : Link := ⟨stream.current, operator, others, node⟩
          exact ⟨_, [link], by simp [link, Link.all], rfl, by simpa [link] using signed,
            by simpa [link] using derived⟩
        · intro size depth length next deep long _ fails
          rw [List.length_singleton] at deep long
          obtain ⟨length, rfl⟩ := Nat.exists_eq_add_one_of_ne_zero (by omega : length ≠ 0)
          simp only [rowFrom, Stream.current_prepend, sign, Stream.advance_prepend,
            Stream.prepend_nil, fails depth depth (by omega) (by omega)]
          rfl
      · obtain ⟨part, middle, derived, remaining⟩ := reads scanned passed
        have decimals := scanned.decimals_front middle
        have stops := leaves _ right rest passed
        have whole : stream.tokens = (stream.current :: part) ++ rest.tokens := by
          rw [front, middle, List.cons_append]
        refine (ih _ remaining failed).behind _ whole (fun others chain => ?_) ?_
        · obtain ⟨node, links, rfl, rfl, signed', derivations⟩ := chain
          let link : Link := ⟨stream.current, operator, part, right⟩
          exact ⟨_, link :: links, by simp [link, Link.all], rfl,
            List.forall_mem_cons.mpr ⟨signed, signed'⟩, List.forall_mem_cons.mpr ⟨derived, derivations⟩⟩
        · intro size depth length next deep long same fails
          rw [List.length_cons] at deep long
          obtain ⟨length, rfl⟩ := Nat.exists_eq_add_one_of_ne_zero (by omega : length ≠ 0)
          have passes : readerOf inner depth depth (next.prepend part) = .ok (right, next) :=
            reader_accepts derived decimals (by omega) (by omega) next (same ▸ stops)
          simp only [rowFrom, Stream.current_prepend, sign, Stream.advance_prepend, passes, ok_bind]
          exact fails depth length (by omega) (by omega)

theorem row_halts (bound : Nat) :
    Halts (row operator? operand bound)
      (fun tokens => ∃ front first others node, tokens = front ++ others ∧ Derives inner front first ∧
        Chain signs (Derives inner) first others node)
      (fun depth length => row operator? (readerOf inner depth depth) length) := by
  intro stream found scanned failed
  rcases bind_eq_error_iff.mp failed with failed | ⟨⟨first, rest⟩, passed, failed⟩
  · refine (halts scanned failed).map ?_ ?_
    · rintro tokens ⟨node, derived⟩
      exact ⟨tokens, node, [], node, by simp, derived, [], rfl, rfl, by simp, by simp⟩
    · intro size depth length next deep _ _ fails
      simp only [row, fails depth depth deep deep]
      rfl
  · obtain ⟨part, front, derived, remaining⟩ := reads scanned passed
    have decimals := scanned.decimals_front front
    have stops := leaves stream first rest passed
    have halted := rowFrom_halts known last reads leaves halts bound first remaining failed
    refine halted.behind part front ?_ ?_
    · rintro others ⟨node, chain⟩
      exact ⟨part, first, others, node, rfl, derived, chain⟩
    · intro size depth length next deep long same fails
      have passes : readerOf inner depth depth (next.prepend part) = .ok (first, next) :=
        reader_accepts derived decimals (by omega) (by omega) next (same ▸ stops)
      simp only [row, passes, ok_bind]
      exact fails depth length (by omega) (by omega)

end

theorem term_halts (bound : Nat) : Halts (term bound) Phrase.sum.Fits (readerOf .sum) := by
  induction bound with
  | zero =>
    intro stream found _ failed
    cases failed
  | succ bound ih =>
    have rowReads : Reads (juxtaposition (operand (term bound)) bound) (Derives .row) :=
      juxtaposition_sound (operand_sound (term_sound bound)) bound
    have rowLeaves := juxtaposition_leaves (operand (term bound)) bound
    have product : Halts (row productOperator? (juxtaposition (operand (term bound)) bound) bound)
        Phrase.product.Fits (readerOf .product) := by
      intro stream found scanned failed
      have halted := row_halts mem_productSigns (by simp [productSigns]) rowReads rowLeaves
        (juxtaposition_halts ih bound) bound scanned failed
      refine halted.map ?_ fun deep long _ fails => fails _ _ deep long
      rintro _ ⟨front, first, _, _, rfl, derived, links, rfl, rfl, signed, derivations⟩
      exact ⟨_, .product derived signed derivations⟩
    intro stream found scanned failed
    have halted := row_halts mem_sumSigns (by simp [sumSigns]) (product_sound rowReads bound)
      (row_leaves rowLeaves bound) product bound scanned failed
    refine halted.map ?_ fun deep long _ fails => fails _ _ deep long
    rintro _ ⟨front, first, _, _, rfl, derived, links, rfl, rfl, signed, derivations⟩
    exact ⟨_, .sum derived signed derivations⟩

end Grammar

end PlotScript

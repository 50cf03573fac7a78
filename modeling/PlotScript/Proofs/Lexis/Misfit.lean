import PlotScript.Proofs.Span
import PlotScript.Token.Scan

namespace PlotScript.Lexis

open Lexeme (quotationRun next wordMarks)

/-- What can be wrong with the characters of a script. -/
inductive Unlexable : Cause → Prop
  | character (c : Char) : Unlexable (.illegalCharacter c)
  | escape (c : Char) : Unlexable (.badEscape c)
  | lineEnd : Unlexable .lineEndsInText
  | scriptEnd : Unlexable .scriptEndsInText

structure Among (size : Nat) (misfit : Misfit) : Prop where
  cause : Unlexable misfit.cause
  stop : misfit.offset + misfit.width ≤ size

theorem Among.mono {size larger : Nat} {misfit : Misfit} (among : Among size misfit)
    (least : size ≤ larger) : Among larger misfit :=
  ⟨among.cause, Nat.le_trans among.stop least⟩

theorem quotationRun_misfit {offset : Nat} {text : List Char} {misfit : Misfit}
    (refused : quotationRun offset text = .error misfit) :
    Among (offset + text.length) misfit := by
  fun_induction quotationRun offset text with
  | case1 =>
    cases refused
    exact ⟨.scriptEnd, Nat.le_refl _⟩
  | case2 =>
    cases refused
    exact ⟨.scriptEnd, Nat.le_refl _⟩
  | case3 =>
    cases refused
    refine ⟨.escape _, ?_⟩
    simp only [List.length_cons]
    omega
  | case4 offset c rest meaning known ih =>
    cases inner : quotationRun (offset + 2) rest with
    | ok found =>
      rw [inner] at refused
      cases refused
    | error other =>
      rw [inner] at refused
      cases refused
      refine (ih inner).mono ?_
      simp only [List.length_cons]
      omega
  | case5 => cases refused
  | case6 =>
    cases refused
    refine ⟨.lineEnd, ?_⟩
    simp only [List.length_cons]
    omega
  | case7 offset c rest _ _ _ _ ih =>
    cases inner : quotationRun (offset + 1) rest with
    | ok found =>
      rw [inner] at refused
      cases refused
    | error other =>
      rw [inner] at refused
      cases refused
      refine (ih inner).mono ?_
      simp only [List.length_cons]
      omega

theorem next_misfit {first : Char} {rest : List Char} {misfit : Misfit}
    (refused : next first rest = .error misfit) : Among (first :: rest).length misfit := by
  rw [List.length_cons, Nat.add_comm]
  unfold next at refused
  split at refused
  · cases refused
  split at refused
  · cases refused
  split at refused
  · cases refused
  split at refused
  · cases refused
  split at refused
  · cases inner : quotationRun 1 rest with
    | ok found =>
      rw [inner] at refused
      cases refused
    | error other =>
      rw [inner] at refused
      cases refused
      exact quotationRun_misfit inner
  split at refused
  · cases refused
  · cases refused
    exact ⟨.character first, Nat.le_add_right ..⟩

theorem marks_misfit {piece : Lexeme} {misfit : Misfit} (refused : piece.marks = .error misfit) :
    Among piece.chars.length misfit := by
  cases piece with
  | word letters =>
    simp only [Lexeme.marks, wordMarks] at refused
    split at refused
    · cases refused
    split at refused
    · cases refused
    split at refused
    · next offset found =>
      cases refused
      have inside : offset < letters.length := (List.findIdx?_eq_some_iff_findIdx_eq.mp found).1
      exact ⟨.character '_', inside⟩
    · cases refused
  | _ => cases refused

/-- The diagnostic is about characters of the text, which stands at `start`. -/
structure Misfits (source : String) (start : Nat) (text : List Char) (diagnostic : Diagnostic) :
    Prop where
  cause : Unlexable diagnostic.cause
  place : Span.Inside diagnostic.span ⟨source, start, start + text.length⟩

theorem Among.misfits {text : List Char} {misfit : Misfit} (among : Among text.length misfit)
    (source : String) (start : Nat) : Misfits source start text (misfit.at source start) where
  cause := among.cause
  place := by
    have stop := among.stop
    refine ⟨_, rfl, rfl, ?_, ?_, ?_⟩ <;> dsimp only <;> omega

theorem Misfits.later {source : String} {start : Nat} {text : List Char} {diagnostic : Diagnostic}
    (misfits : Misfits source (start + 1) text diagnostic) (first : Char) :
    Misfits source start (first :: text) diagnostic where
  cause := misfits.cause
  place := by
    obtain ⟨span, found, within⟩ := misfits.place
    have least := within.start
    have most := within.stop
    refine ⟨span, found, within.source, ?_, within.forward, ?_⟩
    · dsimp only at least ⊢
      omega
    · dsimp only [List.length_cons] at most ⊢
      omega

theorem scanFrom_misfits {source : String} {start passed : Nat} {text : List Char}
    {diagnostic : Diagnostic}
    (refused : Token.scanFrom source start passed text = .error diagnostic) :
    Misfits source start text diagnostic := by
  induction text generalizing start passed with
  | nil => cases refused
  | cons first rest ih =>
    cases passed with
    | succ passed => exact (ih refused).later first
    | zero =>
      rw [Token.scanFrom] at refused
      cases read : next first rest with
      | error misfit =>
        rw [read] at refused
        cases refused
        exact (next_misfit read).misfits source start
      | ok found =>
        obtain ⟨piece, after⟩ := found
        have whole := congrArg List.length (Lexeme.next_append read)
        rw [List.length_append] at whole
        simp only [read] at refused
        cases marked : piece.marks with
        | error misfit =>
          rw [marked] at refused
          cases refused
          exact ((marks_misfit marked).mono (by omega)).misfits source start
        | ok marks =>
          simp only [marked] at refused
          cases later : Token.scanFrom source (start + 1) (piece.chars.length - 1) rest with
          | error other =>
            rw [later] at refused
            cases refused
            exact (ih later).later first
          | ok tokens =>
            rw [later] at refused
            cases refused

theorem scan_misfits {source text : String} {diagnostic : Diagnostic}
    (refused : Token.scan source text = .error diagnostic) :
    Unlexable diagnostic.cause ∧ Span.Inside diagnostic.span ⟨source, 0, text.length⟩ := by
  have misfits := scanFrom_misfits refused
  have place := misfits.place
  rw [String.length_toList, Int.ofNat_zero, Int.zero_add] at place
  exact ⟨misfits.cause, place⟩

end PlotScript.Lexis

import PlotScript.Proofs.Double.Order
import PlotScript.Proofs.Double.Whole
import PlotScript.Proofs.Numeral
import PlotScript.Number.Decimal

namespace PlotScript.Numeral

open Lexeme (isDigit)
open Binary64 (ofFloat)

theorem whole_toDigits (number : Nat) : whole (Nat.toDigits 10 number) = number :=
  Nat.ofDigitChars_eq_foldl.symm.trans Nat.ofDigitChars_ten_toDigits

theorem isDigit_toDigits {number : Nat} : ∀ c ∈ Nat.toDigits 10 number, isDigit c :=
  fun _ member => Nat.isDigit_of_mem_toDigits (by decide) (by decide) member

theorem isDecimal_digits {digits : List Char} (filled : digits ≠ [])
    (all : ∀ c ∈ digits, isDigit c) : Lexis.IsDecimal digits :=
  ⟨digits, filled, all, .inl rfl⟩

theorem isDecimal_toDigits (number : Nat) : Lexis.IsDecimal (Nat.toDigits 10 number) :=
  isDecimal_digits Nat.toDigits_ne_nil isDigit_toDigits

theorem whole_lt {digits : List Char} (all : ∀ c ∈ digits, isDigit c) :
    whole digits < 10 ^ digits.length := by
  -- With a total already there, which every further digit moves one place on.
  have run (total : Nat) : digits.foldl (fun total c => 10 * total + (c.toNat - '0'.toNat)) total <
      (total + 1) * 10 ^ digits.length := by
    induction digits generalizing total with
    | nil => simp
    | cons c rest ih =>
      obtain ⟨head, tail⟩ := List.forall_mem_cons.mp all
      have range := isDigit_range head
      have zero : '0'.toNat = 48 := rfl
      refine Nat.lt_of_lt_of_le (ih tail _) ?_
      rw [List.length_cons, Nat.pow_succ, Nat.mul_comm _ 10, ← Nat.mul_assoc]
      exact Nat.mul_le_mul_right _ (by dsimp only; omega)
  simpa [whole] using run 0

theorem ofFloat_nearest (num den : Nat) :
    (∃ significand exponent, ofFloat (Binary64.nearest false num den) =
        .finite false significand exponent) ∨
      ofFloat (Binary64.nearest false num den) = .infinite false := by
  rw [Binary64.nearest]
  cases found : Binary64.nearestBits? num den with
  | none =>
    right
    rw [Option.getD_none]
    decide +kernel
  | some bits =>
    left
    rw [Option.getD_some, Binary64.ofFloat_ofBits (Binary64.nearestBits?_lt found),
      if_neg Bool.false_ne_true, Binary64.ofMagnitudeBits]
    split <;> exact ⟨_, _, rfl⟩

theorem ofFloat_value (text : List Char) :
    (∃ significand exponent, ofFloat (value text) = .finite false significand exponent) ∨
      ofFloat (value text) = .infinite false := by
  simp only [value, Literal.ofDecimal]
  split
  · exact ofFloat_nearest 0 1
  split
  · right
    decide +kernel
  split
  · exact ofFloat_nearest 0 1
  · exact ofFloat_nearest _ _

theorem digits_ofQuotient (count num den : Nat) :
    ∀ c ∈ (Decimal.ofQuotient count num den).digits, isDigit c := by
  intro c member
  have kept := (List.dropWhile_suffix _).mem (List.mem_reverse.mp member)
  exact isDigit_toDigits c (List.mem_reverse.mp kept)

theorem isDecimal_withFraction {integral fraction : List Char} (filled : integral ≠ [])
    (digits : ∀ c ∈ integral, isDigit c) (fractionDigits : ∀ c ∈ fraction, isDigit c) :
    Lexis.IsDecimal (Decimal.withFraction .general integral fraction) := by
  rw [Decimal.withFraction]
  split
  · exact isDecimal_digits filled digits
  · exact ⟨integral, filled, digits, .inr ⟨fraction, fractionDigits, rfl⟩⟩

theorem digits_replicate (count : Nat) : ∀ c ∈ List.replicate count '0', isDigit c := by
  intro c member
  rw [List.eq_of_mem_replicate member]
  rfl

theorem isDecimal_positional {number : Decimal} (digits : ∀ c ∈ number.digits, isDigit c) :
    Lexis.IsDecimal (Decimal.positional .general number) := by
  rw [Decimal.positional]
  split
  · refine isDecimal_withFraction (by simp) (by simp [isDigit]) fun c member => ?_
    exact (List.mem_append.mp member).elim (digits_replicate _ c) (digits c)
  · refine isDecimal_withFraction ?_ ?_ fun c member => digits c (List.mem_of_mem_drop member)
    · intro empty
      have lengths := congrArg List.length empty
      simp only [List.length_append, List.length_take, List.length_replicate, List.length_nil] at lengths
      omega
    · intro c member
      exact (List.mem_append.mp member).elim (fun taken => digits c (List.mem_of_mem_take taken))
        (digits_replicate _ c)

theorem isDecimal_general {number : Float} {significand : Nat} {exponent : Int}
    (finite : ofFloat number = .finite false significand exponent)
    (positional : 'e' ∉ (Decimal.general number).toList) :
    Lexis.IsDecimal (Decimal.general number).toList := by
  simp only [Decimal.general, finite, Decimal.render, String.toList_ofList, Bool.false_eq_true,
    if_false] at positional ⊢
  split at positional
  · next zero =>
    rw [if_pos zero]
    exact isDecimal_withFraction (by simp) (by simp [isDigit]) (by simp)
  · next filled =>
    rw [if_neg filled]
    rw [Decimal.text] at positional ⊢
    split
    · exact isDecimal_positional (digits_ofQuotient _ _ _)
    · next exponential =>
      rw [if_neg exponential, Decimal.scientific, Decimal.exponentText] at positional
      exact absurd (by simp) positional

end PlotScript.Numeral

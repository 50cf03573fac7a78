import Mathlib.Data.List.TakeWhile
import PlotScript.Number.Literal
import PlotScript.Proofs.Lexis
import PlotScript.Text.Integer

namespace PlotScript.Numeral

open Lexeme (isDigit)

def whole (digits : List Char) : Nat :=
  digits.foldl (fun total c => 10 * total + (c.toNat - '0'.toNat)) 0

def value (text : List Char) : Float :=
  let integral := text.takeWhile isDigit
  let fraction := (text.dropWhile isDigit).drop 1
  Literal.ofDecimal false (whole (integral ++ fraction)) (integral ++ fraction).length
    (-(fraction.length : Int))

theorem isDigit_range {c : Char} (digit : isDigit c) : 48 ≤ c.toNat ∧ c.toNat ≤ 57 := by
  simp only [isDigit, Bool.and_eq_true, decide_eq_true_eq, Char.le_def, UInt32.le_iff_toNat_le] at digit
  exact digit

theorem digitValue?_of_isDigit {c : Char} (digit : isDigit c) :
    Text.digitValue? c = some (c.toNat - '0'.toNat) := by
  have range := isDigit_range digit
  have first : Text.zeros.find? (fun start => start ≤ c.toNat && c.toNat < start + 10) = some 48 := by
    rw [Text.zeros, List.find?_cons_of_pos]
    simp only [Bool.and_eq_true, decide_eq_true_eq]
    omega
  rw [Text.digitValue?, first]
  rfl

theorem isPadding_of_isDigit {c : Char} (digit : isDigit c) : Text.isPadding c = false := by
  have range := isDigit_range digit
  simp only [Text.isPadding, Bool.or_eq_false_iff, Bool.and_eq_false_iff, decide_eq_false_iff_not,
    beq_eq_false_iff_ne]
  omega

theorem numberOf_map (digits : List Char) :
    Text.numberOf (digits.map fun c => c.toNat - '0'.toNat) = whole digits := by
  rw [Text.numberOf, List.foldl_map, whole]

theorem ne_underscore_of_digits {digits : List Char} (all : ∀ c ∈ digits, isDigit c)
    (more : List Char) : digits ≠ '_' :: more := by
  intro same
  have digit := all '_' (same ▸ List.mem_cons_self)
  cases digit

theorem digits?_cons {c : Char} {rest : List Char} (filled : rest ≠ [])
    (plain : ∀ more, rest ≠ '_' :: more) :
    Text.Integer.digits? (c :: rest) = (do
      return (← Text.digitValue? c) :: (← Text.Integer.digits? rest)) := by
  rw [Text.Integer.digits?.eq_def]
  split <;> simp_all

theorem digits?_of_digits {digits : List Char} (filled : digits ≠ [])
    (all : ∀ c ∈ digits, isDigit c) :
    Text.Integer.digits? digits = some (digits.map fun c => c.toNat - '0'.toNat) := by
  induction digits with
  | nil => contradiction
  | cons c rest ih =>
    have head := digitValue?_of_isDigit (all c List.mem_cons_self)
    have remaining : ∀ other ∈ rest, isDigit other :=
      fun other member => all other (List.mem_cons_of_mem c member)
    by_cases last : rest = []
    · subst last
      simp [Text.Integer.digits?, head]
    · rw [digits?_cons last (ne_underscore_of_digits remaining), ih last remaining, head]
      rfl

theorem unsigned_of_digits {digits : List Char} (filled : digits ≠ [])
    (all : ∀ c ∈ digits, isDigit c) :
    Text.Integer.unsigned digits =
      if Text.Integer.digitLimit < digits.length then .error (.tooLong digits.length)
      else .ok (whole digits) := by
  have run : ∀ c ∈ digits, Text.Integer.isRunChar c := by
    intro c member
    simp [Text.Integer.isRunChar, digitValue?_of_isDigit (all c member)]
  have taken : digits.takeWhile Text.Integer.isRunChar = digits :=
    List.takeWhile_eq_self_iff.mpr run
  have dropped : digits.dropWhile Text.Integer.isRunChar = [] :=
    List.dropWhile_eq_nil_iff.mpr run
  rw [Text.Integer.unsigned, taken, dropped, digits?_of_digits filled all]
  simp only [List.length_map, numberOf_map]
  rfl

theorem read_digits {digits : List Char} (filled : digits ≠ []) (all : ∀ c ∈ digits, isDigit c) :
    Text.Integer.read (String.ofList digits) =
      if Text.Integer.digitLimit < digits.length then .error (.tooLong digits.length)
      else .ok (whole digits : Int) := by
  obtain ⟨first, rest, rfl⟩ := List.exists_cons_of_ne_nil filled
  have digit := all first List.mem_cons_self
  have kept : (first :: rest).dropWhile Text.isPadding = first :: rest := by
    rw [List.dropWhile_cons, isPadding_of_isDigit digit]
    rfl
  rw [Text.Integer.read, String.toList_ofList, kept]
  split
  · next same => cases same; cases digit
  · next same => cases same; cases digit
  · rw [unsigned_of_digits filled all]
    split <;> rfl

theorem digitRun_cons {c : Char} {rest : List Char} (plain : ∀ more, rest ≠ '_' :: more) :
    Literal.digitRun (c :: rest) =
      match Text.digitValue? c, Literal.digitRun rest with
      | none, _ => ([], c :: rest)
      | some digit, (digits, after) => (digit :: digits, after) := by
  rw [Literal.digitRun.eq_def]
  split
  · contradiction
  · next same => cases same; exact absurd rfl (plain _)
  · next same => cases same; rfl

theorem digitRun_digits {digits : List Char} (rest : List Char) (all : ∀ c ∈ digits, isDigit c)
    (stops : rest = [] ∨ ∃ more, rest = '.' :: more) :
    Literal.digitRun (digits ++ rest) = (digits.map fun c => c.toNat - '0'.toNat, rest) := by
  induction digits with
  | nil =>
    rcases stops with rfl | ⟨more, rfl⟩
    · rfl
    · have noDigit : Text.digitValue? '.' = none := by decide
      rw [List.nil_append, Literal.digitRun.eq_def]
      split
      · next same => cases same
      · next same => cases same; rw [noDigit]; rfl
      · next same => cases same; rw [noDigit]; rfl
  | cons c tail ih =>
    have remaining : ∀ other ∈ tail, isDigit other :=
      fun other member => all other (List.mem_cons_of_mem c member)
    have plain : ∀ more, tail ++ rest ≠ '_' :: more := by
      intro more same
      cases tail with
      | nil => rcases stops with rfl | ⟨other, rfl⟩ <;> cases same
      | cons next tail => cases same; cases remaining '_' List.mem_cons_self
    rw [List.cons_append, digitRun_cons plain, digitValue?_of_isDigit (all c List.mem_cons_self),
      ih remaining]
    rfl

theorem trimWhile_eq_self {drop : Char → Bool} {text : List Char}
    (kept : ∀ c ∈ text, drop c = false) : Text.trimWhile drop text = text := by
  have whole : ∀ list : List Char, (∀ c ∈ list, drop c = false) → list.dropWhile drop = list := by
    intro list none
    cases list with
    | nil => rfl
    | cons head tail => rw [List.dropWhile_cons, none head List.mem_cons_self]; rfl
  rw [Text.trimWhile, whole text kept, whole text.reverse, List.reverse_reverse]
  intro c member
  exact kept c (List.mem_reverse.mp member)

theorem toLower_of_isDigit {c : Char} (digit : isDigit c) : c.toLower = c := by
  have range := isDigit_range digit
  have small : ¬ (c.val ≥ 'A'.val ∧ c.val ≤ 'Z'.val) := by
    intro capital
    have least := UInt32.le_iff_toNat_le.mp capital.1
    change 65 ≤ c.toNat at least
    omega
  exact dif_neg small

theorem map_toLower_ne {first : Char} (digit : isDigit first) (rest : List Char) {word : List Char}
    (worded : word.head?.any isDigit = false) :
    (first :: rest).map Char.toLower ≠ word := by
  intro same
  rw [List.map_cons, toLower_of_isDigit digit] at same
  rw [← same, List.head?_cons, Option.any_some, digit] at worded
  cases worded

theorem fraction_stops {fraction after : List Char}
    (shape : after = [] ∧ fraction = [] ∨ after = '.' :: fraction) :
    after = [] ∨ ∃ more, after = '.' :: more := by
  rcases shape with ⟨empty, _⟩ | point
  · exact .inl empty
  · exact .inr ⟨fraction, point⟩

theorem unsigned?_of_digits {integral fraction after : List Char} (filled : integral ≠ [])
    (digits : ∀ c ∈ integral, isDigit c) (fractionDigits : ∀ c ∈ fraction, isDigit c)
    (shape : after = [] ∧ fraction = [] ∨ after = '.' :: fraction) :
    Literal.unsigned? false (integral ++ after) =
      some (Literal.ofDecimal false (whole (integral ++ fraction)) (integral ++ fraction).length
        (-(fraction.length : Int))) := by
  have stops := fraction_stops shape
  obtain ⟨first, rest, rfl⟩ := List.exists_cons_of_ne_nil filled
  have digit := digits first List.mem_cons_self
  have front := digitRun_digits after digits stops
  have back := digitRun_digits [] fractionDigits (.inl rfl)
  rw [List.append_nil] at back
  rw [Literal.unsigned?, if_neg, if_neg, front]
  · rcases shape with ⟨rfl, rfl⟩ | rfl
    · simp only [List.append_nil, numberOf_map, List.length_map]
      rfl
    · simp only [back, ← List.map_append, numberOf_map, List.length_map]
      rw [← Int.zero_sub]
      rfl
  · exact map_toLower_ne digit _ rfl
  · exact not_or.mpr ⟨map_toLower_ne digit _ rfl, map_toLower_ne digit _ rfl⟩

theorem takeWhile_digits {integral after : List Char} (digits : ∀ c ∈ integral, isDigit c)
    (stops : after = [] ∨ ∃ more, after = '.' :: more) :
    (integral ++ after).takeWhile isDigit = integral ∧
      (integral ++ after).dropWhile isDigit = after := by
  rw [List.takeWhile_append_of_pos digits, List.dropWhile_append_of_pos digits]
  rcases stops with rfl | ⟨more, rfl⟩
  · simp
  · simp [isDigit]

theorem read?_decimal {chars : List Char} (decimal : Lexis.IsDecimal chars) :
    Literal.read? (String.ofList chars) = some (value chars) := by
  obtain ⟨integral, filled, digits, shape⟩ := decimal
  obtain ⟨fraction, after, rfl, fractionDigits, behind⟩ : ∃ fraction after,
      chars = integral ++ after ∧ (∀ c ∈ fraction, isDigit c) ∧
        (after = [] ∧ fraction = [] ∨ after = '.' :: fraction) := by
    rcases shape with rfl | ⟨fraction, fractionDigits, rfl⟩
    · exact ⟨[], [], (List.append_nil _).symm, by simp, .inl ⟨rfl, rfl⟩⟩
    · exact ⟨fraction, _, rfl, fractionDigits, .inr rfl⟩
  have kept : ∀ c ∈ integral ++ after, Text.isPadding c = false := by
    intro c member
    rcases List.mem_append.mp member with inside | inside
    · exact isPadding_of_isDigit (digits c inside)
    · rcases behind with ⟨rfl, _⟩ | rfl
      · cases inside
      · rcases List.mem_cons.mp inside with rfl | inside
        · decide
        · exact isPadding_of_isDigit (fractionDigits c inside)
  have stops := fraction_stops behind
  have written : value (integral ++ after) =
      Literal.ofDecimal false (whole (integral ++ fraction)) (integral ++ fraction).length
        (-(fraction.length : Int)) := by
    obtain ⟨taken, dropped⟩ := takeWhile_digits digits stops
    rcases behind with ⟨rfl, rfl⟩ | rfl
    · rw [value, taken, dropped]
      rfl
    · rw [value, taken, dropped]
      rfl
  rw [Literal.read?, String.toList_ofList, trimWhile_eq_self kept]
  obtain ⟨first, rest, rfl⟩ := List.exists_cons_of_ne_nil filled
  have digit := digits first List.mem_cons_self
  split
  · next same => cases same; cases digit
  · next same => cases same; cases digit
  · rw [unsigned?_of_digits filled digits fractionDigits behind, written]

end PlotScript.Numeral

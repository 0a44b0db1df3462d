import Mathlib.Data.Rat.Cast.Order
import Shaderwright.FloatLiteral
import Shaderwright.Proofs.Expression.Written

/-!
Decimal literals: what a literal says of its digits, and the decimal number it
denotes. The text of a literal determines it (`text_injective`).
-/

namespace Shaderwright

open BinaryFormat

-- Powers are those of `Nat` itself, whatever monoids are in scope.
attribute [local instance (high)] instPowNat

/-- A decimal literal without an exponent: digits on both sides of a point,
and possibly a minus in front of them. -/
@[ext]
structure DecimalLiteral where
  isNegative : Bool
  whole : List Char
  fraction : List Char
  whole_ne_nil : whole ≠ []
  fraction_ne_nil : fraction ≠ []
  whole_isDigit : ∀ c ∈ whole, c.isDigit = true
  fraction_isDigit : ∀ c ∈ fraction, c.isDigit = true

namespace DecimalLiteral

def sign (literal : DecimalLiteral) : List Char :=
  if literal.isNegative then ['-'] else []

def text (literal : DecimalLiteral) : String :=
  String.ofList (literal.sign ++ (literal.whole ++ '.' :: literal.fraction))

/-- The number that all the digits form without the point. -/
def digits (literal : DecimalLiteral) : Nat :=
  Nat.ofDigitChars 10 (literal.whole ++ literal.fraction) 0

def places (literal : DecimalLiteral) : Nat :=
  literal.fraction.length

/-- The decimal number without its sign. -/
def magnitude (literal : DecimalLiteral) : ℚ :=
  literal.digits / (10 ^ literal.places : Nat)

/-- The single-precision number that the literal is rounded to, with the sign
of the literal. -/
def rounded (literal : DecimalLiteral) : Binary32 :=
  .ofMagnitude literal.isNegative
    (binary32.nearest literal.digits (10 ^ literal.places))

/-! ## Texts of literals -/

theorem eq_of_append_point {whole other fraction others : List Char}
    (wholeDigits : ∀ c ∈ whole, c.isDigit = true)
    (otherDigits : ∀ c ∈ other, c.isDigit = true)
    (same : whole ++ '.' :: fraction = other ++ '.' :: others) :
    whole = other ∧ fraction = others := by
  have parts : ∀ digits rest : List Char,
      (∀ c ∈ digits, c.isDigit = true) →
        (digits ++ '.' :: rest).takeWhile Char.isDigit = digits := by
    intro digits rest areDigits
    rw [List.takeWhile_append_of_pos areDigits,
      List.takeWhile_cons_of_neg (by decide), List.append_nil]
  have wholes := congrArg (List.takeWhile Char.isDigit) same
  rw [parts _ _ wholeDigits, parts _ _ otherDigits] at wholes
  subst wholes
  exact ⟨rfl, List.tail_eq_of_cons_eq (List.append_cancel_left same)⟩

/-- A literal without a minus begins with a digit. -/
theorem sign_append_eq {first second : DecimalLiteral}
    {rest others : List Char}
    (same : first.sign ++ (first.whole ++ rest) =
      second.sign ++ (second.whole ++ others)) :
    first.isNegative = second.isNegative ∧
      first.whole ++ rest = second.whole ++ others := by
  have notMinus : ∀ literal : DecimalLiteral, ∀ behind others : List Char,
      literal.whole ++ behind ≠ '-' :: others := by
    intro literal behind others same
    cases digits : literal.whole with
    | nil =>
        exact literal.whole_ne_nil digits
    | cons digit whole =>
        rw [digits, List.cons_append] at same
        have minus := (List.cons.inj same).1
        have isDigit := literal.whole_isDigit digit
          (digits ▸ List.mem_cons_self ..)
        rw [minus] at isDigit
        exact absurd isDigit (by decide)
  unfold sign at same
  cases firstSign : first.isNegative <;>
    cases secondSign : second.isNegative <;>
      simp only [firstSign, secondSign, if_true, Bool.false_eq_true,
        if_false, List.nil_append, List.cons_append] at same
  · exact ⟨rfl, same⟩
  · exact absurd same (notMinus first _ _)
  · exact absurd same.symm (notMinus second _ _)
  · exact ⟨rfl, (List.cons.inj same).2⟩

theorem text_injective : Function.Injective text := by
  intro first second same
  obtain ⟨signs, unsigned⟩ := sign_append_eq (String.ofList_injective same)
  obtain ⟨wholes, fractions⟩ := eq_of_append_point first.whole_isDigit
    second.whole_isDigit unsigned
  exact DecimalLiteral.ext signs wholes fractions

/-! ## Positional notation -/

theorem length_decimalDigits (width n : Nat) :
    (Binary32.decimalDigits width n).length = width := by
  induction width generalizing n with
  | zero =>
      rfl
  | succ width inductionHypothesis =>
      rw [Binary32.decimalDigits, List.length_append, inductionHypothesis,
        List.length_singleton]

theorem ofDigitChars_decimalDigits (width n initial : Nat) :
    Nat.ofDigitChars 10 (Binary32.decimalDigits width n) initial =
      initial * 10 ^ width + n % 10 ^ width := by
  induction width generalizing n with
  | zero =>
      simp [Binary32.decimalDigits, Nat.mod_one]
  | succ width inductionHypothesis =>
      have lastDigit : (Nat.digitChar (n % 10)).toNat - '0'.toNat = n % 10 := by
        have all : ∀ digit < 10,
            (Nat.digitChar digit).toNat - '0'.toNat = digit := by decide
        exact all _ (Nat.mod_lt n (by decide))
      rw [Binary32.decimalDigits, Nat.ofDigitChars_append,
        inductionHypothesis, Nat.ofDigitChars_cons, Nat.ofDigitChars_nil,
        lastDigit, Nat.pow_succ', Nat.mod_mul]
      ring

/-- The literal for `n / 10 ^ places` with exactly that many places. -/
def ofPositional (isNegative : Bool) (n : Nat) {places : Nat}
    (positive : 0 < places) : DecimalLiteral where
  isNegative := isNegative
  whole := Nat.toDigits 10 (n / 10 ^ places)
  fraction := Binary32.decimalDigits places (n % 10 ^ places)
  whole_ne_nil := Nat.toDigits_ne_nil
  fraction_ne_nil := by
    rw [← List.length_pos_iff, length_decimalDigits]
    exact positive
  whole_isDigit _ member :=
    Nat.isDigit_of_mem_toDigits (by decide) (by decide) member
  fraction_isDigit := Expression.decimalDigits_isDigit _ _

section OfPositional

variable (isNegative : Bool) (n : Nat) {places : Nat}
  (positive : 0 < places)

theorem text_ofPositional :
    (ofPositional isNegative n positive).text =
      (if isNegative then "-" else "") ++ Binary32.positional n places := by
  rw [← String.toList_inj]
  cases isNegative <;>
    simp [text, sign, ofPositional, Binary32.positional]

theorem places_ofPositional :
    (ofPositional isNegative n positive).places = places :=
  length_decimalDigits _ _

theorem digits_ofPositional :
    (ofPositional isNegative n positive).digits = n := by
  rw [digits, ofPositional, Nat.ofDigitChars_append,
    Nat.ofDigitChars_toDigits (by decide) (by decide),
    ofDigitChars_decimalDigits, Nat.mod_mod]
  exact Nat.div_add_mod' n (10 ^ places)

theorem magnitude_ofPositional :
    (ofPositional isNegative n positive).magnitude =
      (n : ℚ) / (10 ^ places : Nat) := by
  rw [magnitude, digits_ofPositional, places_ofPositional]

end OfPositional

end DecimalLiteral

end Shaderwright

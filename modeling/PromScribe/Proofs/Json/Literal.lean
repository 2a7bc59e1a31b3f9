import Mathlib.Algebra.Order.Field.Rat
import Mathlib.Tactic.Ring
import PromScribe.Proofs.Json.Scaled
import PromScribe.Proofs.Text.Digits

/-!
# Literals

Every literal writes an exact number. What is read of one with a point or an exponent are the digits
that fit into the significand, at the place where they stand.
-/

namespace PromScribe.NumberLiteral

open Text

variable {value : Nat} {literal : NumberLiteral}

theorem naturalOf_eq (digits : List Char) : naturalOf digits = Nat.ofDigitChars 10 digits 0 := by
  rw [Nat.ofDigitChars_eq_foldl]
  simp only [naturalOf, digitOf, Nat.mul_comm]

theorem pow_mul_le_ofDigitChars (digits : List Char) (value : Nat) :
    value * 10 ^ digits.length ≤ Nat.ofDigitChars 10 digits value := by
  rw [Nat.ofDigitChars_eq_ofDigitChars_zero, Nat.mul_comm]
  exact Nat.le_add_right _ _

/-- Digits are taken as long as they fit; those that are left out are counted. -/
theorem exists_absorb (small : value < 2 ^ 64) (digits : List Char) :
    ∃ taken left, absorb value digits = (taken, left) ∧ taken < 2 ^ 64 ∧
      left.length ≤ digits.length ∧
      taken * 10 ^ left.length ≤ Nat.ofDigitChars 10 digits value ∧
      (Nat.ofDigitChars 10 digits value < 2 ^ 64 →
        taken = Nat.ofDigitChars 10 digits value ∧ left = []) := by
  induction digits generalizing value with
  | nil => exact ⟨value, [], rfl, small, Nat.le_refl _, by simp, fun _ => ⟨rfl, rfl⟩⟩
  | cons digit digits ih =>
      have next : value * 10 + digitOf digit =
          10 * value + (digit.toNat - '0'.toNat) := by
        rw [Nat.mul_comm, digitOf]
      unfold absorb
      dsimp only
      rw [next, Nat.ofDigitChars_cons]
      split
      · next fits =>
          obtain ⟨taken, left, same, bound, shorter, least, all⟩ := ih fits
          exact ⟨taken, left, same, bound, Nat.le_succ_of_le shorter, least, all⟩
      · next full =>
          have front := pow_mul_le_ofDigitChars digits (10 * value + (digit.toNat - '0'.toNat))
          refine ⟨value, digit :: digits, rfl, small, Nat.le_refl _, ?_, fun fits => ?_⟩
          · refine Nat.le_trans ?_ front
            rw [List.length_cons, Nat.pow_succ, ← Nat.mul_assoc, Nat.mul_right_comm]
            exact Nat.mul_le_mul_right _ (by omega)
          · have positive : 0 < 10 ^ digits.length := Nat.pow_pos (by decide)
            have within := Nat.le_mul_of_pos_right
              (10 * value + (digit.toNat - '0'.toNat)) positive
            exact absurd (Nat.lt_of_le_of_lt (Nat.le_trans within front) fits) full

/-- The digits of a literal in front of its point and behind it. -/
def allDigits (literal : NumberLiteral) : List Char :=
  literal.whole ++ literal.fraction.getD []

/-- The power of ten that the last digit counts. -/
def place (literal : NumberLiteral) : Int :=
  literal.exponentValue - (literal.fraction.getD []).length

/-- The number that the digits of a literal write. -/
def numeral (literal : NumberLiteral) : Nat :=
  Nat.ofDigitChars 10 literal.allDigits 0

/-- The exact number that a literal writes, without its sign. -/
def magnitude (literal : NumberLiteral) : ℚ :=
  literal.numeral * 10 ^ literal.place

/-- A literal with a point or an exponent is scaled from the digits that fit. -/
theorem exists_value? (broken : literal.fraction.isSome ∨ literal.exponent.isSome)
    (short : Nat.ofDigitChars 10 literal.whole 0 < 2 ^ 64) :
    ∃ taken dropped : Nat, taken < 2 ^ 64 ∧ taken * 10 ^ dropped ≤ literal.numeral ∧
      (literal.numeral < 2 ^ 64 → taken = literal.numeral ∧ dropped = 0) ∧
      literal.value? = (scaled? taken (literal.place + dropped)).map fun number =>
        .double (literal.signed number) := by
  obtain ⟨front, none, same, bound, -, -, all⟩ :=
    exists_absorb (by decide : 0 < 2 ^ 64) literal.whole
  obtain ⟨rfl, rfl⟩ := all short
  obtain ⟨taken, left, read, small, shorter, least, rest⟩ :=
    exists_absorb bound (literal.fraction.getD [])
  rw [← Nat.ofDigitChars_append] at least rest
  refine ⟨taken, left.length, small, least, fun fits => ?_, ?_⟩
  · obtain ⟨whole, rfl⟩ := rest fits
    exact ⟨whole, rfl⟩
  · have other : (literal.fraction.isNone && literal.exponent.isNone &&
        ([] : List Char).isEmpty) = false := by
      rcases broken with there | there
      · rw [Option.isNone_eq_false_iff.mpr there]
        rfl
      · rw [Option.isNone_eq_false_iff.mpr there, Bool.and_false]
        rfl
    have shift : ((0 : Nat) : Int) -
        (((literal.fraction.getD []).length - left.length : Nat) : Int) + literal.exponentValue =
          literal.place + left.length := by
      unfold place
      omega
    unfold value?
    rw [same]
    dsimp only
    rw [other, if_neg nofun, read]
    dsimp only
    rw [List.length_nil, shift]

end PromScribe.NumberLiteral

import Mathlib.Algebra.Order.Ring.Nat
import Mathlib.Data.List.Basic
import Mathlib.Data.List.Induction
import PromScribe.Text.Blank
import PromScribe.Text.Word

/-!
# Letters and digits

The places of the ASCII letters and digits. None of them is blank. A decimal digit of any script is
a word character. A positive number is written without a leading zero, and such digits are what
their number is written as.
-/

namespace PromScribe.Text

variable {c : Char}

theorem isUpper_iff : c.isUpper = true ↔ 65 ≤ c.toNat ∧ c.toNat ≤ 90 :=
  decide_eq_true_iff

theorem isLower_iff : c.isLower = true ↔ 97 ≤ c.toNat ∧ c.toNat ≤ 122 :=
  Bool.and_eq_true_iff.trans (and_congr decide_eq_true_iff decide_eq_true_iff)

theorem isAlpha_iff : c.isAlpha = true ↔ c.isUpper = true ∨ c.isLower = true :=
  Bool.or_eq_true_iff

theorem toNat_of_isAlpha (alpha : c.isAlpha = true) :
    (65 ≤ c.toNat ∧ c.toNat ≤ 90) ∨ (97 ≤ c.toNat ∧ c.toNat ≤ 122) := by
  rcases isAlpha_iff.mp alpha with upper | lower
  · exact .inl (isUpper_iff.mp upper)
  · exact .inr (isLower_iff.mp lower)

theorem toNat_of_isDigit (digit : c.isDigit = true) : 48 ≤ c.toNat ∧ c.toNat ≤ 57 := by
  simp only [Char.isDigit, Bool.and_eq_true, decide_eq_true_eq, ge_iff_le,
    UInt32.le_iff_toNat_le] at digit
  exact digit

/-- No digit is a letter. -/
theorem isAlpha_of_isDigit (digit : c.isDigit = true) : c.isAlpha = false := by
  refine eq_false_of_ne_true fun alpha => ?_
  have number := toNat_of_isDigit digit
  have letter := toNat_of_isAlpha alpha
  omega

theorem isBlank_of_isDigit (digit : c.isDigit = true) : isBlank c = false := by
  have range := toNat_of_isDigit digit
  simp only [isBlank, Bool.or_eq_false_iff, Bool.and_eq_false_iff, decide_eq_false_iff_not,
    beq_eq_false_iff_ne]
  omega

/-- The range is within one of the word characters. -/
def isWordRange (range : Nat × Nat) : Bool :=
  [wordRangesA, wordRangesB, wordRangesC, wordRangesD].any fun ranges =>
    ranges.any fun word => Nat.ble word.1 range.1 && Nat.ble range.2 word.2

theorem isWordRange_of_mem_digitRanges : ∀ range ∈ digitRanges, isWordRange range = true := by
  decide +kernel

theorem isWord_of_isDecimal {c : Char} (decimal : isDecimal c = true) : isWord c = true := by
  unfold isDecimal at decimal
  unfold isWord
  split
  · next ascii =>
      rw [if_pos ascii] at decimal
      simp [isAsciiWord, Char.isAlphanum, decimal]
  · next beyond =>
      rw [if_neg beyond] at decimal
      obtain ⟨digits, mem, above, below⟩ := inRanges_iff.mp decimal
      obtain ⟨ranges, part, within⟩ :=
        List.any_eq_true.mp (isWordRange_of_mem_digitRanges digits mem)
      obtain ⟨word, member, covers⟩ := List.any_eq_true.mp within
      simp only [Bool.and_eq_true, Nat.ble_eq] at covers
      have found : inRanges ranges c = true := inRanges_iff.mpr ⟨word, member, by omega, by omega⟩
      simp only [List.mem_cons, List.not_mem_nil, or_false] at part
      rcases part with rfl | rfl | rfl | rfl <;> simp [found]

/-! ## Counts in decimal digits -/

variable {digits : List Char} {number : Nat}

/-- Decimal digits of which the first one is not zero. -/
structure IsCount (digits : List Char) : Prop where
  nonempty : digits ≠ []
  decimal : ∀ c ∈ digits, c.isDigit = true
  leading : digits.head? ≠ some '0'

theorem toNat_sub_lt_ten {c : Char} (digit : c.isDigit = true) : c.toNat - '0'.toNat < 10 := by
  have place := toNat_of_isDigit digit
  have zero : '0'.toNat = 48 := rfl
  omega

/-- The digit of a digit's value is the digit. -/
theorem digitChar_toNat_sub {c : Char} (digit : c.isDigit = true) :
    (c.toNat - '0'.toNat).digitChar = c := by
  apply Char.toNat_inj.mp
  rw [Nat.toNat_digitChar_of_lt_ten (toNat_sub_lt_ten digit)]
  have place := toNat_of_isDigit digit
  exact Nat.add_sub_cancel' place.1

theorem head?_toDigits (positive : 0 < number) : (Nat.toDigits 10 number).head? ≠ some '0' := by
  induction number using Nat.strongRecOn with
  | ind number ih =>
      by_cases small : number < 10
      · rw [Nat.toDigits_of_lt_base small]
        intro zero
        have none := Nat.digitChar_eq_zero.mp (Option.some.inj zero)
        omega
      · have large : 10 ≤ number := Nat.le_of_not_lt small
        have less : number / 10 < number := Nat.div_lt_self positive (by decide)
        have some : 0 < number / 10 := Nat.div_pos large (by decide)
        rw [Nat.toDigits_of_base_le (by decide) large,
          List.head?_append_of_ne_nil _ Nat.toDigits_ne_nil]
        exact ih _ less some

/-- A positive number is written as a count. -/
theorem isCount_toDigits (positive : 0 < number) : IsCount (Nat.toDigits 10 number) where
  nonempty := Nat.toDigits_ne_nil
  decimal := fun _ mem => Nat.isDigit_of_mem_toDigits (by decide) (by decide) mem
  leading := head?_toDigits positive

theorem lt_pow_length_toDigits (number : Nat) : number < 10 ^ (Nat.toDigits 10 number).length :=
  (Nat.length_toDigits_le_iff (by decide) Nat.length_toDigits_pos).mp (Nat.le_refl _)

/-- A positive number has no fewer digits than it is written with. -/
theorem pow_length_toDigits_le (positive : 0 < number) :
    10 ^ ((Nat.toDigits 10 number).length - 1) ≤ number := by
  rcases Nat.eq_zero_or_pos ((Nat.toDigits 10 number).length - 1) with single | more
  · rw [single]
    exact positive
  · have short := Nat.length_toDigits_le_iff (n := number) (by decide : 1 < 10) more
    have full := Nat.length_toDigits_pos (b := 10) (n := number)
    omega

/-- A count is not zero. -/
theorem IsCount.positive (count : IsCount digits) : 0 < Nat.ofDigitChars 10 digits 0 := by
  cases digits with
  | nil => exact absurd rfl count.nonempty
  | cons c digits =>
      have digit := count.decimal c List.mem_cons_self
      have apart : c ≠ '0' := fun zero => count.leading (congrArg some zero)
      have value : c.toNat - '0'.toNat ≠ 0 := by
        intro none
        have char := digitChar_toNat_sub digit
        rw [none] at char
        exact apart char.symm
      rw [Nat.ofDigitChars_cons, Nat.ofDigitChars_eq_ofDigitChars_zero]
      have whole : 0 < 10 ^ digits.length * (10 * 0 + (c.toNat - '0'.toNat)) :=
        Nat.mul_pos (Nat.pow_pos (by decide)) (by omega)
      omega

/-- A count is what its number is written as. -/
theorem IsCount.toDigits_eq (count : IsCount digits) :
    Nat.toDigits 10 (Nat.ofDigitChars 10 digits 0) = digits := by
  induction digits using List.reverseRecOn with
  | nil => exact absurd rfl count.nonempty
  | append_singleton front c ih =>
      have digit := count.decimal c (List.mem_append_right _ List.mem_cons_self)
      have small := toNat_sub_lt_ten digit
      have value : Nat.ofDigitChars 10 (front ++ [c]) 0 =
          10 * Nat.ofDigitChars 10 front 0 + (c.toNat - '0'.toNat) := by
        rw [Nat.ofDigitChars_append, Nat.ofDigitChars_cons, Nat.ofDigitChars_nil]
      rw [value]
      by_cases single : front = []
      · subst single
        rw [Nat.ofDigitChars_nil, Nat.mul_zero, Nat.zero_add, Nat.toDigits_of_lt_base small,
          digitChar_toNat_sub digit, List.nil_append]
      · have rest : IsCount front := by
          refine ⟨single, fun d mem => count.decimal d (List.mem_append_left _ mem), ?_⟩
          have leading := count.leading
          rwa [List.head?_append_of_ne_nil _ single] at leading
        rw [← Nat.toDigits_append_toDigits (by decide) rest.positive small, ih rest,
          Nat.toDigits_of_lt_base small, digitChar_toNat_sub digit]

end PromScribe.Text

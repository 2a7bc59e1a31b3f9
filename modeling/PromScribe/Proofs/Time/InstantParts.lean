import Mathlib.Data.List.TakeWhile
import PromScribe.Proofs.Json.Decoding
import PromScribe.Proofs.Text.Digits
import PromScribe.Time.InstantReader

/-!
# The parts of instants

A number in at least so many digits is read as the number, at its place or from the front of a
text. A fraction is read as what it was written for, whatever digits it was written in.
-/

namespace PromScribe

namespace Instant

variable {width number : Nat} {c : Char}

/-- A number with one digit more. -/
theorem padded_succ (positive : 0 < width) (number : Nat) :
    padded (width + 1) number = padded width (number / 10) ++ [(number % 10).digitChar] := by
  unfold padded
  by_cases small : number < 10
  · rw [Nat.div_eq_of_lt small, Nat.mod_eq_of_lt small, Nat.toDigits_of_lt_base small,
      Nat.toDigits_of_lt_base (by decide : 0 < 10)]
    obtain ⟨width, rfl⟩ := Nat.exists_eq_add_of_lt positive
    simp [List.replicate_succ']
  · rw [Nat.toDigits_of_base_le (by decide) (Nat.le_of_not_lt small)]
    dsimp only
    rw [List.length_append, List.length_singleton, Nat.add_sub_add_right, List.append_assoc]

theorem padded_one (small : number < 10) : padded 1 number = [number.digitChar] := by
  rw [padded, Nat.toDigits_of_lt_base small]
  rfl

theorem padded_two (small : number < 100) :
    padded 2 number = [(number / 10).digitChar, (number % 10).digitChar] := by
  rw [padded_succ (by decide), padded_one (by omega)]
  rfl

theorem padded_four (number : Nat) :
    padded 4 number = padded 2 (number / 100) ++ padded 2 (number % 100) := by
  have tens : number % 100 / 10 = number / 10 % 10 := by omega
  have ones : number % 100 % 10 = number % 10 := by omega
  rw [padded_succ (by decide), padded_succ (by decide), padded_two (Nat.mod_lt _ (by decide)),
    Nat.div_div_eq_div_mul, tens, ones, List.append_assoc]
  rfl

theorem isDigit_of_mem_padded (mem : c ∈ padded width number) : c.isDigit = true := by
  rcases List.mem_append.mp mem with zero | digit
  · rw [List.eq_of_mem_replicate zero]
    rfl
  · exact Nat.isDigit_of_mem_toDigits (by decide) (by decide) digit

theorem padded_ne_nil : padded width number ≠ [] :=
  List.append_ne_nil_of_right_ne_nil _ Nat.toDigits_ne_nil

theorem length_padded (positive : 0 < width) (small : number < 10 ^ width) :
    (padded width number).length = width := by
  have fits := (Nat.length_toDigits_le_iff (by decide) positive).mpr small
  rw [padded, List.length_append, List.length_replicate]
  omega

end Instant

namespace InstantReader

open Instant Text

variable {width number most place : Nat} {text digits rest : List Char}

theorem digitsValue_eq (digits : List Char) :
    digitsValue digits = Nat.ofDigitChars 10 digits 0 := by
  rw [Nat.ofDigitChars_eq_foldl]
  simp only [digitsValue, Nat.mul_comm]

theorem digitsValue_padded (width number : Nat) : digitsValue (padded width number) = number := by
  rw [digitsValue_eq, padded, Nat.ofDigitChars_append, Nat.ofDigitChars_replicate_zero,
    Nat.mul_zero, Nat.ofDigitChars_ten_toDigits]

/-- All digits in front are read, if no more may be read or none follows. -/
theorem number_append (full : digits ≠ []) (decimal : ∀ c ∈ digits, c.isDigit = true)
    (short : digits.length ≤ most)
    (ends : digits.length = most ∨ ∀ c ∈ rest.head?, c.isDigit = false) :
    InstantReader.number most (digits ++ rest) = .ok (digitsValue digits, rest) := by
  have taken : ((digits ++ rest).take most).takeWhile Char.isDigit = digits := by
    rw [List.take_append, List.take_of_length_le short,
      List.takeWhile_append_of_pos decimal]
    refine (congrArg (digits ++ ·) ?_).trans (List.append_nil digits)
    rcases ends with same | stops
    · rw [same, Nat.sub_self, List.take_zero]
      rfl
    · cases rest with
      | nil => simp
      | cons c rest =>
          cases most - digits.length with
          | zero => rfl
          | succ left =>
              rw [List.take_succ_cons, List.takeWhile_cons, stops c rfl]
              rfl
  have there : (digits ++ rest).isEmpty = false :=
    List.isEmpty_eq_false_iff.mpr (List.append_ne_nil_of_left_ne_nil full rest)
  unfold InstantReader.number
  dsimp only
  rw [taken, there, List.isEmpty_eq_false_iff.mpr full, List.drop_left]
  rfl

theorem number_padded (positive : 0 < width) (small : number < 10 ^ width) (rest : List Char) :
    InstantReader.number width (padded width number ++ rest) = .ok (number, rest) := by
  have length := length_padded positive small
  rw [number_append padded_ne_nil (fun _ => isDigit_of_mem_padded) (Nat.le_of_eq length)
    (.inl length), digitsValue_padded]

/-- A number in as many digits as it takes, up to what is not a digit. -/
theorem number_long (short : (padded width number).length ≤ most)
    (stops : ∀ c ∈ rest.head?, c.isDigit = false) :
    InstantReader.number most (padded width number ++ rest) = .ok (number, rest) := by
  rw [number_append padded_ne_nil (fun _ => isDigit_of_mem_padded) short (.inr stops),
    digitsValue_padded]

/-- The digits of a fraction have the value of their first places. -/
theorem fraction_padded (positive : 0 < width) (narrow : width ≤ 9) (small : number < 10 ^ width)
    (stops : ∀ c ∈ rest.head?, c.isDigit = false) :
    fraction (padded width number ++ rest) = .ok (number * 10 ^ (9 - width), rest) := by
  have length := length_padded positive small
  have kept : rest.dropWhile Char.isDigit = rest := by
    cases rest with
    | nil => rfl
    | cons c rest => rw [List.dropWhile_cons, stops c rfl]; rfl
  have count : (padded width number ++ rest).length - rest.length = width := by
    rw [List.length_append, Nat.add_sub_cancel, length]
  unfold fraction
  rw [number_long (length.le.trans narrow) stops]
  simp only [bind, Except.bind, pure, Except.pure, count, kept]
  rfl

/-- A number that is read is the value of the digits in front. -/
theorem exists_of_number {value : Nat}
    (read : InstantReader.number most text = .ok (value, rest)) :
    ∃ digits : List Char, (∀ c ∈ digits, c.isDigit = true) ∧ digits.length ≤ most ∧
      text = digits ++ rest ∧ value = digitsValue digits := by
  unfold InstantReader.number at read
  dsimp only at read
  split at read
  · cases read
  split at read
  · cases read
  cases read
  have front := List.takeWhile_prefix (l := text.take most) Char.isDigit
  refine ⟨_, fun c mem => List.mem_takeWhile_imp mem,
    front.length_le.trans (List.length_take_le _ _), ?_, rfl⟩
  exact (List.prefix_iff_eq_append.mp (front.trans (List.take_prefix _ _))).symm

/-- Digits are worth less than one at the place in front of them. -/
theorem digitsValue_lt (decimal : ∀ c ∈ digits, c.isDigit = true) :
    digitsValue digits < 10 ^ digits.length := by
  rw [digitsValue_eq]
  induction digits using List.reverseRecOn with
  | nil => exact Nat.one_pos
  | append_singleton front c ih =>
      have before := ih fun d mem => decimal d (List.mem_append_left _ mem)
      have digit := toNat_sub_lt_ten (decimal c (List.mem_append_right _ List.mem_cons_self))
      rw [Nat.ofDigitChars_append, Nat.ofDigitChars_cons, Nat.ofDigitChars_nil,
        List.length_append, List.length_singleton, Nat.pow_succ]
      omega

/-- A fraction is less than a second. -/
theorem fraction_lt {nanosecond : Nat} (read : fraction text = .ok (nanosecond, rest)) :
    nanosecond < 1000000000 := by
  unfold fraction at read
  obtain ⟨⟨value, behind⟩, digits, read⟩ := bind_eq_ok_iff.mp read
  cases read
  obtain ⟨row, decimal, short, rfl, rfl⟩ := exists_of_number digits
  have count : (row ++ behind).length - behind.length = row.length := by
    rw [List.length_append, Nat.add_sub_cancel]
  have places : 10 ^ row.length * Nat.pow 10 (9 - row.length) = 1000000000 := by
    rw [Nat.pow_eq, ← Nat.pow_add, Nat.add_sub_cancel' short]
  rw [count, ← places]
  exact Nat.mul_lt_mul_of_pos_right (digitsValue_lt decimal) (Nat.pow_pos (by decide))

theorem digitAt_digitChar (there : text[place]? = some number.digitChar) (small : number < 10) :
    digitAt text place = .ok number := by
  have value : number.digitChar.toNat - '0'.toNat = number := by
    rw [Nat.toNat_digitChar_of_lt_ten small]
    exact Nat.add_sub_cancel_left 48 number
  unfold digitAt
  rw [there]
  dsimp only
  rw [Nat.isDigit_digitChar, decide_eq_true small, value]
  rfl

/-- The number whose two digits stand at a place is read there. -/
theorem pairAt_eq (first : text[place]? = some (number / 10).digitChar)
    (second : text[place + 1]? = some (number % 10).digitChar) (small : number < 100) :
    pairAt text place = .ok number := by
  unfold pairAt
  rw [digitAt_digitChar first (by omega), digitAt_digitChar second (by omega)]
  refine congrArg Except.ok ?_
  omega

/-- One of the marks that stands at a place is accepted there. -/
theorem markAt_eq {marks : List Char} {c : Char} (there : text[place]? = some c)
    (one : marks.contains c = true) : markAt text place marks = .ok () := by
  unfold markAt
  rw [there]
  exact if_pos one

end InstantReader

end PromScribe

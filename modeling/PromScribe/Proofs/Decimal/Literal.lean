import Mathlib.Algebra.Order.Field.Rat
import Mathlib.Data.List.TakeWhile
import Mathlib.Tactic.FieldSimp
import PromScribe.Decimal.Shortest
import PromScribe.Proofs.Decimal.Shortest
import PromScribe.Proofs.Json.Grammar
import PromScribe.Proofs.Json.Literal

/-!
# The literal of a decimal

The text of a decimal in a document is a literal with a point or an exponent, and writes the number
of the decimal.
-/

namespace PromScribe

open Text

/-- A count is written with as many digits as it has. -/
theorem Text.IsCount.lt_pow {digits : List Char} (count : IsCount digits) :
    Nat.ofDigitChars 10 digits 0 < 10 ^ digits.length := by
  have bound := lt_pow_length_toDigits (Nat.ofDigitChars 10 digits 0)
  rwa [count.toDigits_eq] at bound

namespace NumberLiteral

variable {digits kept : List Char} {point : Int} {zeros place : Nat} (negative : Bool)

/-- Digits with the point at a place, without an exponent. -/
def positional (digits : List Char) (point : Int) : NumberLiteral :=
  if point ≤ 0 then
    ⟨negative, ['0'], some (List.replicate (-point).toNat '0' ++ digits), none⟩
  else if digits.length ≤ point.toNat then
    ⟨negative, digits ++ List.replicate (point.toNat - digits.length) '0', some ['0'], none⟩
  else ⟨negative, digits.take point.toNat, some (digits.drop point.toNat), none⟩

/-- Digits with the point behind the first one, and an exponent. -/
def exponential (digits : List Char) (point : Int) : NumberLiteral :=
  ⟨negative, digits.take 1, if digits.length ≤ 1 then none else some (digits.drop 1),
    some (decide (point - 1 < 0), Nat.toDigits 10 (point - 1).natAbs)⟩

theorem exists_positional (digits : List Char) (point : Int) : ∃ whole fraction,
    positional negative digits point = ⟨negative, whole, some fraction, none⟩ := by
  unfold positional
  split
  · exact ⟨_, _, rfl⟩
  · split <;> exact ⟨_, _, rfl⟩

theorem isDigits_toDigits (number : Nat) : IsDigits (Nat.toDigits 10 number) :=
  ⟨Nat.toDigits_ne_nil, fun _ mem => Nat.isDigit_of_mem_toDigits (by decide) (by decide) mem⟩

/-- Digits in front of zeros. -/
theorem isCount_of_append_zeros (count : IsCount (kept ++ List.replicate zeros '0')) :
    IsCount kept := by
  have full : kept ≠ [] := by
    rintro rfl
    cases zeros with
    | zero => exact count.nonempty rfl
    | succ zeros => exact count.leading rfl
  refine ⟨full, fun c mem => count.decimal c (List.mem_append_left _ mem), ?_⟩
  have leading := count.leading
  rwa [List.head?_append_of_ne_nil _ full] at leading

theorem isDigit_zeros {c : Char} (mem : c ∈ List.replicate zeros '0') : c.isDigit = true := by
  rw [List.eq_of_mem_replicate mem]
  rfl

theorem isCount_append_zeros (count : IsCount kept) (zeros : Nat) :
    IsCount (kept ++ List.replicate zeros '0') := by
  refine ⟨List.append_ne_nil_of_left_ne_nil count.nonempty _, ?_, ?_⟩
  · intro c mem
    rcases List.mem_append.mp mem with front | behind
    · exact count.decimal c front
    · exact isDigit_zeros behind
  · rw [List.head?_append_of_ne_nil _ count.nonempty]
    exact count.leading

theorem isCount_take (count : IsCount kept) (positive : 0 < place) : IsCount (kept.take place) := by
  obtain ⟨place, rfl⟩ := Nat.exists_eq_add_of_lt positive
  cases kept with
  | nil => exact absurd rfl count.nonempty
  | cons c kept =>
      rw [Nat.zero_add, List.take_succ_cons]
      refine ⟨List.cons_ne_nil _ _, ?_, count.leading⟩
      rw [← List.take_succ_cons]
      exact fun d mem => count.decimal d (List.mem_of_mem_take mem)

theorem writes_pointed {whole fraction : List Char} (leading : whole = ['0'] ∨ IsCount whole)
    (row : IsDigits fraction) :
    Writes ⟨negative, whole, some fraction, none⟩
      ((if negative then ['-'] else []) ++ (whole ++ '.' :: fraction)) := by
  have written : Writes ⟨negative, whole, some fraction, none⟩ _ :=
    .parts leading (.present row) .absent
  rwa [List.append_nil, List.append_assoc] at written

theorem writes_positional (count : IsCount digits) (point : Int) :
    (positional negative digits point).Writes
      ((if negative then ['-'] else []) ++ NumberStyle.document.positional digits point) := by
  unfold positional NumberStyle.positional
  split
  · refine writes_pointed negative (.inl rfl)
      ⟨List.append_ne_nil_of_right_ne_nil _ count.nonempty, fun c mem => ?_⟩
    rcases List.mem_append.mp mem with front | behind
    · exact isDigit_zeros front
    · exact count.decimal c behind
  next above =>
  dsimp only
  split
  · exact writes_pointed negative (.inr (isCount_append_zeros count _))
      ⟨List.cons_ne_nil _ _, List.forall_mem_singleton.mpr rfl⟩
  · next long =>
      exact writes_pointed negative (.inr (isCount_take count (by omega)))
        ⟨List.drop_eq_nil_iff.not.mpr long, fun c mem => count.decimal c (List.mem_of_mem_drop mem)⟩

theorem writes_exponential (count : IsCount digits) (point : Int) :
    (exponential negative digits point).Writes
      ((if negative then ['-'] else []) ++ NumberStyle.document.exponential digits point) := by
  have power : WritesExponent
      (some (decide (point - 1 < 0), Nat.toDigits 10 (point - 1).natAbs))
      ('e' :: ((if point - 1 < 0 then ['-'] else ['+']) ++
        Nat.toDigits 10 (point - 1).natAbs)) := by
    refine .present (by decide) ?_ (isDigits_toDigits _)
    by_cases below : point - 1 < 0
    · simp [below]
    · simp [below]
  cases digits with
  | nil => exact absurd rfl count.nonempty
  | cons digit digits =>
      have first : IsCount [digit] := isCount_take count Nat.one_pos
      cases digits with
      | nil =>
          have written : Writes (exponential negative [digit] point) _ :=
            .parts (.inr first) .absent power
          rwa [List.append_nil, List.append_assoc] at written
      | cons next digits =>
          have row : IsDigits (next :: digits) :=
            ⟨List.cons_ne_nil _ _, fun c mem => count.decimal c (List.mem_cons_of_mem _ mem)⟩
          have written : Writes (exponential negative (digit :: next :: digits) point) _ :=
            .parts (.inr first) (.present row) power
          rwa [List.append_assoc, List.append_assoc] at written

theorem exponentValue_exponential (digits : List Char) (point : Int) :
    (exponential negative digits point).exponentValue = point - 1 := by
  unfold exponential exponentValue
  dsimp only
  by_cases below : point - 1 < 0
  · rw [decide_eq_true below]
    simp only [naturalOf_eq, Nat.ofDigitChars_ten_toDigits]
    omega
  · rw [decide_eq_false below]
    simp only [naturalOf_eq, Nat.ofDigitChars_ten_toDigits]
    omega

theorem magnitude_pointed (whole fraction : List Char) :
    (NumberLiteral.mk negative whole (some fraction) none).magnitude =
      Nat.ofDigitChars 10 (whole ++ fraction) 0 * 10 ^ (-fraction.length : Int) := by
  have place : (NumberLiteral.mk negative whole (some fraction) none).place = -fraction.length :=
    Int.zero_sub _
  rw [magnitude, place]
  rfl

theorem magnitude_positional (digits : List Char) (point : Int) :
    (positional negative digits point).magnitude =
      Nat.ofDigitChars 10 digits 0 * 10 ^ (point - digits.length) := by
  unfold positional
  split
  · next behind =>
      have shift : -((List.replicate (-point).toNat '0' ++ digits).length : Int) =
          point - digits.length := by
        rw [List.length_append, List.length_replicate]
        omega
      rw [magnitude_pointed, shift, Nat.ofDigitChars_append, Nat.ofDigitChars_append,
        Nat.ofDigitChars_replicate_zero]
      rfl
  split
  · next above short =>
      have shift : point - digits.length = ((point.toNat - digits.length : Nat) : Int) := by omega
      rw [magnitude_pointed, shift, zpow_natCast, Nat.ofDigitChars_append, Nat.ofDigitChars_append,
        Nat.ofDigitChars_replicate_zero, Nat.ofDigitChars_cons, Nat.ofDigitChars_nil, Nat.sub_self,
        Nat.add_zero, List.length_singleton]
      push_cast
      field_simp
  · next above long =>
      have shift : -((digits.drop point.toNat).length : Int) = point - digits.length := by
        rw [List.length_drop]
        omega
      rw [magnitude_pointed, shift, List.take_append_drop]

theorem magnitude_exponential (full : digits ≠ []) (point : Int) :
    (exponential negative digits point).magnitude =
      Nat.ofDigitChars 10 digits 0 * 10 ^ (point - digits.length) := by
  have all : (exponential negative digits point).allDigits = digits := by
    cases digits with
    | nil => exact absurd rfl full
    | cons digit digits => cases digits <;> rfl
  have length : ((exponential negative digits point).fraction.getD []).length =
      digits.length - 1 := by
    cases digits with
    | nil => rfl
    | cons digit digits => cases digits <;> rfl
  have place : (exponential negative digits point).place = point - digits.length := by
    have positive := List.length_pos_iff.mpr full
    rw [NumberLiteral.place, exponentValue_exponential, length]
    omega
  rw [magnitude, numeral, all, place]

end NumberLiteral

namespace Decimal

open NumberLiteral

variable {decimal : Decimal} (negative : Bool)

/-- The exact number of the decimal. -/
def magnitude (decimal : Decimal) : ℚ := decimal.digits * 10 ^ decimal.exponent

theorem magnitude_mul_denominator (decimal : Decimal) :
    decimal.magnitude * decimal.denominator = decimal.numerator := by
  have shift : decimal.exponent + ((-decimal.exponent).toNat : Int) = decimal.exponent.toNat := by
    omega
  change (decimal.digits * 10 ^ decimal.exponent * ((10 ^ (-decimal.exponent).toNat : Nat) : ℚ)) =
    ((decimal.digits * 10 ^ decimal.exponent.toNat : Nat) : ℚ)
  push_cast
  rw [mul_assoc, ← zpow_natCast, ← zpow_add₀ (by decide), shift, zpow_natCast]

/-- The literal that the decimal is written as. -/
def literal (decimal : Decimal) : NumberLiteral :=
  if decimal.digits = 0 then ⟨negative, ['0'], some ['0'], none⟩
  else
    let (digits, point) := decimal.significant
    if -5 < point && point ≤ 16 then .positional negative digits point
    else .exponential negative digits point

/-- Digits are those in front of the last zeros, and these zeros. -/
theorem exists_zeros (digits : List Char) : ∃ zeros,
    (digits.reverse.dropWhile (· == '0')).reverse ++ List.replicate zeros '0' = digits := by
  have zero : ∀ c ∈ digits.reverse.takeWhile (· == '0'), c = '0' := by
    intro c mem
    have same := List.mem_takeWhile_imp mem
    exact eq_of_beq same
  refine ⟨(digits.reverse.takeWhile (· == '0')).length, ?_⟩
  rw [← List.reverse_replicate, ← List.eq_replicate_of_mem zero, ← List.reverse_append,
    List.takeWhile_append_dropWhile, List.reverse_reverse]

/-- The digits that are shown are those of the number but for zeros behind them. -/
theorem exists_significant (positive : 0 < decimal.digits) :
    ∃ kept zeros, IsCount kept ∧ kept ++ List.replicate zeros '0' = Nat.toDigits 10 decimal.digits ∧
      decimal.significant = (kept, decimal.exponent + (kept.length + zeros : Nat)) := by
  obtain ⟨zeros, whole⟩ := exists_zeros (Nat.toDigits 10 decimal.digits)
  have count := isCount_of_append_zeros (whole ▸ isCount_toDigits positive)
  refine ⟨_, zeros, count, whole, ?_⟩
  have length := congrArg List.length whole
  rw [List.length_append, List.length_replicate] at length
  unfold significant
  dsimp only
  rw [if_neg (by simpa using count.nonempty), length]

/-- A decimal but zero has digits without last zeros, and writes them with the point where it is. -/
theorem exists_kept (positive : 0 < decimal.digits) :
    ∃ kept zeros, IsCount kept ∧ Nat.ofDigitChars 10 kept 0 * 10 ^ zeros = decimal.digits ∧
      decimal.significant = (kept, decimal.exponent + (kept.length + zeros : Nat)) := by
  obtain ⟨kept, zeros, count, whole, shown⟩ := exists_significant positive
  refine ⟨kept, zeros, count, ?_, shown⟩
  have digits := Nat.ofDigitChars_ten_toDigits (n := decimal.digits)
  rwa [← whole, Nat.ofDigitChars_append, Nat.ofDigitChars_replicate_zero, Nat.mul_comm] at digits

theorem negative_literal (decimal : Decimal) : (decimal.literal negative).negative = negative := by
  unfold literal
  split
  · rfl
  dsimp only
  split
  · obtain ⟨whole, fraction, shape⟩ :=
      exists_positional negative decimal.significant.1 decimal.significant.2
    rw [shape]
  · rfl

theorem writes_literal (decimal : Decimal) : (decimal.literal negative).Writes
    ((if negative then ['-'] else []) ++ NumberStyle.document.decimalText decimal) := by
  unfold literal NumberStyle.decimalText
  split
  · exact writes_pointed negative (.inl rfl)
      ⟨List.cons_ne_nil _ _, List.forall_mem_singleton.mpr rfl⟩
  · next nonzero =>
      obtain ⟨kept, zeros, count, -, shown⟩ := exists_kept (Nat.pos_of_ne_zero nonzero)
      rw [shown]
      dsimp only [NumberStyle.document]
      split
      · exact writes_positional negative count _
      · exact writes_exponential negative count _

theorem magnitude_literal (decimal : Decimal) :
    (decimal.literal negative).magnitude = decimal.magnitude := by
  unfold literal
  split
  · next zero =>
      rw [magnitude_pointed, magnitude, zero, Nat.cast_zero, zero_mul]
      exact zero_mul _
  · next nonzero =>
      obtain ⟨kept, zeros, count, digits, shown⟩ := exists_kept (Nat.pos_of_ne_zero nonzero)
      have shift : decimal.exponent + (kept.length + zeros : Nat) - kept.length =
          zeros + decimal.exponent := by
        push_cast
        ring
      have whole : (Nat.ofDigitChars 10 kept 0 : ℚ) * 10 ^ ((zeros : Int) + decimal.exponent) =
          decimal.magnitude := by
        rw [magnitude, ← digits, zpow_add₀ (by decide), zpow_natCast]
        push_cast
        ring
      rw [shown]
      dsimp only
      split
      · rw [magnitude_positional, shift, whole]
      · rw [magnitude_exponential negative count.nonempty, shift, whole]

/-- The digits of the literal, moved to their place, are the number. -/
theorem numeral_mul_denominator (decimal : Decimal) :
    (decimal.literal negative).numeral * 10 ^ (decimal.literal negative).place.toNat *
        decimal.denominator =
      decimal.numerator * 10 ^ (-(decimal.literal negative).place).toNat := by
  have shift : (decimal.literal negative).place + (-(decimal.literal negative).place).toNat =
      (decimal.literal negative).place.toNat := by omega
  have number := decimal.magnitude_mul_denominator
  rw [← magnitude_literal negative, NumberLiteral.magnitude] at number
  have scaled : ((decimal.literal negative).numeral : ℚ) *
      10 ^ (decimal.literal negative).place.toNat * decimal.denominator =
        decimal.numerator * 10 ^ (-(decimal.literal negative).place).toNat := by
    rw [← number, ← zpow_natCast, ← shift, zpow_add₀ (by decide), zpow_natCast]
    ring
  exact_mod_cast scaled

/-- What the reader takes of a decimal is at most the number. -/
theorem taken_mul_le {taken dropped : Nat}
    (least : taken * 10 ^ dropped ≤ (decimal.literal negative).numeral)
    (above : 0 ≤ (decimal.literal negative).place + dropped) :
    taken * 10 ^ ((decimal.literal negative).place + dropped).natAbs * decimal.denominator ≤
      decimal.numerator := by
  have whole := decimal.numeral_mul_denominator negative
  generalize (decimal.literal negative).place = place at above whole ⊢
  have shift : (place + dropped).natAbs + (-place).toNat = dropped + place.toNat := by omega
  refine Nat.le_of_mul_le_mul_right (c := 10 ^ (-place).toNat) ?_ (Nat.pow_pos (by decide))
  calc taken * 10 ^ (place + dropped).natAbs * decimal.denominator * 10 ^ (-place).toNat
      = taken * 10 ^ dropped * 10 ^ place.toNat * decimal.denominator := by
        rw [Nat.mul_right_comm, Nat.mul_assoc taken, ← Nat.pow_add, shift, Nat.pow_add,
          ← Nat.mul_assoc]
    _ ≤ (decimal.literal negative).numeral * 10 ^ place.toNat * decimal.denominator :=
        Nat.mul_le_mul_right _ (Nat.mul_le_mul_right _ least)
    _ = decimal.numerator * 10 ^ (-place).toNat := whole

theorem isSome_literal (decimal : Decimal) :
    (decimal.literal negative).fraction.isSome ∨ (decimal.literal negative).exponent.isSome := by
  unfold literal
  split
  · exact .inl rfl
  dsimp only
  split
  · obtain ⟨whole, fraction, shape⟩ :=
      exists_positional negative decimal.significant.1 decimal.significant.2
    rw [shape]
    exact .inl rfl
  · exact .inr rfl

/-- Few digits stand in front of the point. -/
theorem whole_literal_lt (decimal : Decimal) :
    Nat.ofDigitChars 10 (decimal.literal negative).whole 0 < 2 ^ 64 := by
  refine Nat.lt_trans ?_ (by decide : 10 ^ 16 < 2 ^ 64)
  have few {digits : List Char} (count : IsCount digits) (short : digits.length ≤ 16) :
      Nat.ofDigitChars 10 digits 0 < 10 ^ 16 :=
    Nat.lt_of_lt_of_le count.lt_pow (Nat.pow_le_pow_right (by decide) short)
  unfold literal
  split
  · exact (by decide : 0 < 10 ^ 16)
  next nonzero =>
  obtain ⟨kept, zeros, count, -, shown⟩ := exists_kept (Nat.pos_of_ne_zero nonzero)
  rw [shown]
  dsimp only
  split
  · next within =>
      have low := of_decide_eq_true (Bool.and_eq_true_iff.mp within).2
      unfold positional
      split
      · exact (by decide : 0 < 10 ^ 16)
      split
      · refine few (isCount_append_zeros count _) ?_
        rw [List.length_append, List.length_replicate]
        omega
      · refine few (isCount_take count (by omega)) ?_
        rw [List.length_take]
        omega
  · exact few (isCount_take count Nat.one_pos)
      (Nat.le_trans (List.length_take_le 1 kept) (by decide))

end Decimal

end PromScribe

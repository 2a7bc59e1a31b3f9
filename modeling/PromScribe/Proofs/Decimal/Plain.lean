import PromScribe.Proofs.Decimal.Literal

/-!
# The literal of plain decimals

A plain decimal is written with a point and without an exponent. Its digits are few, or end in a
zero that only the point asks for; so they are read as the nearest double.
-/

namespace PromScribe.Decimal.IsPlain

open Binary NumberLiteral Text

variable {decimal : Decimal} (negative : Bool) (plain : decimal.IsPlain)
include plain

theorem positive : 0 < decimal.digits := by
  by_contra none
  have zero : decimal.numerator = 0 := by
    rw [numerator, Nat.le_zero.mp (Nat.le_of_not_lt none), Nat.zero_mul]
  have above := plain.aboveOne
  rw [zero] at above
  exact absurd above (Nat.not_le_of_lt (Nat.pow_pos (by decide)))

/-- There are digits in front of the point, at most sixteen. -/
theorem point_bounds {count : Nat} (low : 10 ^ (count - 1) ≤ decimal.digits)
    (high : decimal.digits < 10 ^ count) :
    0 < decimal.exponent + count ∧ decimal.exponent + count ≤ 16 := by
  constructor
  · have wide : 10 ^ (-decimal.exponent).toNat < 10 ^ (count + decimal.exponent.toNat) := by
      rw [Nat.pow_add]
      exact Nat.lt_of_le_of_lt plain.aboveOne
        (Nat.mul_lt_mul_of_pos_right high (Nat.pow_pos (by decide)))
    have less := (Nat.pow_lt_pow_iff_right (by decide)).mp wide
    omega
  · have wide : 10 ^ (count - 1 + decimal.exponent.toNat) ≤
        10 ^ (15 + (-decimal.exponent).toNat) := by
      rw [Nat.pow_add, Nat.pow_add]
      exact Nat.le_trans (Nat.mul_le_mul_right _ low) plain.bounded
    have less := (Nat.pow_le_pow_iff_right (by decide)).mp wide
    omega

/-- The point stands among the digits, or right behind them. -/
theorem exists_positional : ∃ kept point, IsCount kept ∧
    Nat.ofDigitChars 10 kept 0 ≤ decimal.digits ∧ 0 < point ∧
    decimal.literal negative = positional negative kept point := by
  obtain ⟨kept, zeros, count, all, shown⟩ := exists_significant plain.positive
  have length := congrArg List.length all
  rw [List.length_append, List.length_replicate] at length
  have least := pow_length_toDigits_le plain.positive
  have most := lt_pow_length_toDigits decimal.digits
  rw [← length] at least most
  have ⟨start, stop⟩ := plain.point_bounds least most
  have within : (decide (-5 < decimal.exponent + ((kept.length + zeros : Nat) : Int)) &&
      decide (decimal.exponent + ((kept.length + zeros : Nat) : Int) ≤ 16)) = true :=
    Bool.and_eq_true_iff.mpr ⟨decide_eq_true (by omega), decide_eq_true stop⟩
  refine ⟨kept, _, count, ?_, start, ?_⟩
  · have digits := Nat.ofDigitChars_ten_toDigits (n := decimal.digits)
    rw [← digits, ← all, Nat.ofDigitChars_append, Nat.ofDigitChars_replicate_zero]
    exact Nat.le_mul_of_pos_left _ (Nat.pow_pos (by decide))
  · unfold literal
    rw [if_neg (Nat.ne_of_gt plain.positive), shown]
    exact if_pos within

/-- The literal has few digits, or these and a zero, and few of them behind the point. -/
theorem exists_places : ∃ places few : Nat, 0 < places ∧ places ≤ 15 ∧ few ≤ 10 ^ 15 ∧
    (decimal.literal negative).place = -places ∧
    ((decimal.literal negative).numeral = few ∨ (decimal.literal negative).numeral = 10 * few) ∧
    (decimal.literal negative).numeral * decimal.denominator = decimal.numerator * 10 ^ places := by
  have denominator : 0 < decimal.denominator := Nat.pow_pos (by decide)
  have whole {places : Nat} (behind : (decimal.literal negative).place = -places) :
      (decimal.literal negative).numeral * decimal.denominator =
        decimal.numerator * 10 ^ places := by
    have whole := decimal.numeral_mul_denominator negative
    have none : (-(places : Int)).toNat = 0 := by omega
    have all : (-(-(places : Int))).toNat = places := by omega
    rwa [behind, none, all, Nat.pow_zero, Nat.mul_one] at whole
  obtain ⟨kept, point, count, within, start, shown⟩ := plain.exists_positional negative
  by_cases short : kept.length ≤ point.toNat
  · have pointed : decimal.literal negative =
        ⟨negative, kept ++ List.replicate (point.toNat - kept.length) '0', some ['0'], none⟩ := by
      rw [shown, positional, if_neg (Int.not_le_of_gt start), if_pos short]
    have place : (decimal.literal negative).place = -(1 : Nat) := by
      rw [pointed]
      rfl
    have joined : (decimal.literal negative).numeral = 10 *
        Nat.ofDigitChars 10 (kept ++ List.replicate (point.toNat - kept.length) '0') 0 := by
      rw [pointed]
      exact Nat.ofDigitChars_append 0
    refine ⟨1, _, Nat.one_pos, by decide, ?_, place, .inr joined, whole place⟩
    refine Nat.le_of_mul_le_mul_right (Nat.le_trans (Nat.le_of_eq ?_) plain.bounded) denominator
    refine Nat.eq_of_mul_eq_mul_left (by decide : 0 < 10) ?_
    rw [← Nat.mul_assoc, ← joined, whole place, Nat.mul_comm]
    rfl
  · have pointed : decimal.literal negative =
        ⟨negative, kept.take point.toNat, some (kept.drop point.toNat), none⟩ := by
      rw [shown, positional, if_neg (Int.not_le_of_gt start), if_neg short]
    have place : (decimal.literal negative).place = -(kept.drop point.toNat).length := by
      rw [pointed]
      exact Int.zero_sub _
    have joined : (decimal.literal negative).numeral = Nat.ofDigitChars 10 kept 0 := by
      rw [pointed]
      exact congrArg (Nat.ofDigitChars 10 · 0) (List.take_append_drop _ _)
    have few := Nat.le_trans within plain.few
    refine ⟨_, _, ?_, ?_, few, place, .inl joined, whole place⟩
    · rw [List.length_drop]
      omega
    · refine (Nat.pow_le_pow_iff_right (by decide : 1 < 10)).mp (Nat.le_trans ?_ few)
      refine Nat.le_of_mul_le_mul_right (c := decimal.denominator) ?_ denominator
      rw [← joined, whole place, Nat.mul_comm]
      exact Nat.mul_le_mul_right _ plain.aboveOne

/-- The literal is read as the nearest double. -/
theorem value?_literal {rank : Nat} (leads : decimal.rankIn double = rank)
    (bound : rank < double.ranks) :
    (decimal.literal negative).value? = some (.double ⟨negative, rank, bound⟩) := by
  obtain ⟨places, few, behind, short, small, place, digits, whole⟩ := plain.exists_places negative
  obtain ⟨taken, dropped, -, -, all, value⟩ :=
    exists_value? (decimal.isSome_literal negative) (decimal.whole_literal_lt negative)
  have wide : (decimal.literal negative).numeral ≤ 10 ^ 16 := by omega
  obtain ⟨rfl, rfl⟩ := all (Nat.lt_of_le_of_lt wide (by decide))
  have met : IsMet (decimal.literal negative).numeral := by
    rcases digits with same | same
    · exact isMet_of_lt (by omega)
    · exact ⟨5 * few, by omega, 1, by decide, by omega⟩
  have near : double.rankOf (decimal.literal negative).numeral (10 ^ places) = rank := by
    rw [← leads, rankIn]
    exact Layout.rankOf_congr (Nat.pow_pos (by decide)) (Nat.pow_pos (by decide)) whole
  have low : (decimal.literal negative).numeral ≤ 10 ^ largestPower :=
    Nat.le_trans wide (Nat.pow_le_pow_right (by decide) (by decide))
  rw [value, place, Nat.cast_zero, Int.add_zero,
    scaled?_neg met low (Nat.le_trans short (by decide)) behind near bound, Option.map_some, signed,
    negative_literal]
  cases negative <;> rfl

end PromScribe.Decimal.IsPlain

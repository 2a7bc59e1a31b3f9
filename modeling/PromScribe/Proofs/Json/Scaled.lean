import PromScribe.Json.Number
import PromScribe.Proofs.Binary.Nearest

/-!
# Powers of ten

A significand is multiplied with a power of ten, or divided by one, as a double. With exact operands
there is one rounding, the last; and the result is finite if the exact one is a little below the end
of the doubles.
-/

namespace PromScribe.NumberLiteral

open Binary

variable {value significand places rank : Nat} {exponent : Int}

/-- A whole number that a double is equal to, and that is not too large. -/
def IsMet (value : Nat) : Prop :=
  ∃ digits < 2 ^ 53, ∃ order ≤ 22, value = digits * 2 ^ order

theorem isMet_of_lt (small : value < 2 ^ 53) : IsMet value :=
  ⟨value, small, 0, by decide, (Nat.mul_one value).symm⟩

theorem isMet_ten_pow (few : places ≤ 22) : IsMet (10 ^ places) := by
  refine ⟨5 ^ places, ?_, places, few, ?_⟩
  · exact Nat.lt_of_le_of_lt (Nat.pow_le_pow_right (by decide) few) (by decide)
  · rw [← Nat.mul_pow]

theorem ranks_eq : double.ranks = (2045 + 2) * double.stride := rfl

theorem ofQuotient?_eq {layout : Layout} {numerator denominator : Nat} (negative : Bool)
    (low : layout.rankOf numerator denominator < layout.ranks) :
    Finite.ofQuotient? negative numerator denominator =
      some ⟨negative, layout.rankOf numerator denominator, low⟩ := by
  unfold Finite.ofQuotient?
  dsimp only
  rw [dif_pos low]

theorem isZero_of_units {number : Double} (none : number.units = 0) : number.isZero = true := by
  have self := @Layout.rankOf_units double (by decide) number.rank
  have zero := @Layout.rankOf_units double (by decide) 0
  have nothing : double.units 0 = 0 := if_pos double.stride_pos
  have same : double.units number.rank = 0 := none
  rw [nothing] at zero
  rw [same, zero] at self
  exact beq_iff_eq.mpr self.symm

/-- Whole numbers up to the largest power of ten have a nearest double. -/
theorem exists_ofNat? (bound : value ≤ 10 ^ largestPower) :
    ∃ number : Double, Finite.ofNat? value = some number ∧ number.negative = false ∧
      number.units = double.units (double.rankOf value 1) := by
  have low : double.rankOf value 1 < double.ranks := by
    rw [ranks_eq]
    refine Layout.rankOf_lt (by decide) Nat.one_pos ?_
    have limit : 2 * (10 ^ largestPower * double.one) <
        1 * 2 ^ 2045 * (2 * 2 ^ double.precision - 1) := by decide +kernel
    exact Nat.lt_of_le_of_lt (Nat.mul_le_mul_left 2 (Nat.mul_le_mul_right _ bound)) limit
  exact ⟨⟨false, _, low⟩, ofQuotient?_eq false low, rfl, rfl⟩

theorem units_rankOf_of_isMet (met : IsMet value) :
    double.units (double.rankOf value 1) = value * double.one := by
  obtain ⟨digits, few, order, -, rfl⟩ := met
  have same : digits * 2 ^ order * double.one = digits * 2 ^ (order + double.places) := by
    rw [double.one_eq, Nat.pow_add, Nat.mul_assoc]
  rw [same]
  exact Layout.units_rankOf_self (by decide) Nat.one_pos few (same.trans (Nat.mul_one _).symm)

/-- A power of ten as a double. -/
theorem exists_power (exponent : Int) (low : exponent.natAbs ≤ largestPower) :
    ∃ power : Double, Finite.ofNat? (Nat.pow 10 exponent.natAbs) = some power ∧
      power.negative = false ∧ double.one ≤ power.units ∧
      power.units = double.units (double.rankOf (10 ^ exponent.natAbs) 1) := by
  obtain ⟨power, taken, plus, units⟩ :=
    exists_ofNat? (Nat.pow_le_pow_right (by decide : 0 < 10) low)
  refine ⟨power, taken, plus, units ▸ ?_, units⟩
  exact Layout.one_le_units_rankOf (by decide) Nat.one_pos (Nat.pow_pos (by decide))

/-- A significand of a double's digits is divided by a power of ten with one rounding. -/
theorem scaled?_neg (met : IsMet significand) (small : significand ≤ 10 ^ largestPower)
    (few : places ≤ 22) (behind : 0 < places)
    (near : double.rankOf significand (10 ^ places) = rank) (bound : rank < double.ranks) :
    scaled? significand (-places) = some ⟨false, rank, bound⟩ := by
  have size : (-(places : Int)).natAbs = places := by omega
  have below : -(places : Int) < 0 := by omega
  have within : (-(places : Int)).natAbs ≤ largestPower := by
    unfold largestPower
    omega
  obtain ⟨number, taken, plus, units⟩ := exists_ofNat? small
  obtain ⟨power, raised, powerPlus, -, powerUnits⟩ := exists_power _ within
  rw [units_rankOf_of_isMet met] at units
  rw [size, units_rankOf_of_isMet (isMet_ten_pow few)] at powerUnits
  have quotient : number.over? power = some ⟨false, rank, bound⟩ := by
    have same : double.rankOf number.units power.units = rank := by
      rw [units, powerUnits, Layout.rankOf_mul_right _ double.one_pos, near]
    have fits : double.rankOf number.units power.units < double.ranks := same ▸ bound
    rw [Finite.over?, plus, powerPlus, ofQuotient?_eq _ fits]
    simp only [same, bne_self_eq_false]
  have once : scaleOnce? number (-places) = some ⟨false, rank, bound⟩ := by
    unfold scaleOnce?
    refine Option.bind_eq_some_iff.mpr ⟨power, raised, ?_⟩
    rw [if_pos below, quotient]
  unfold scaled?
  refine Option.bind_eq_some_iff.mpr ⟨number, taken, ?_⟩
  rw [if_pos within, once]

/-- What is divided by one or more stays as low. -/
theorem exists_over? {number power : Double} (small : number.units ≤ 2 ^ (65 + double.places))
    (large : double.one ≤ power.units) :
    ∃ quotient, number.over? power = some quotient ∧
      quotient.units ≤ 2 ^ (65 + double.places) := by
  have positive : 0 < power.units := Nat.lt_of_lt_of_le double.one_pos large
  have bound : number.units * double.one ≤ 1 * 2 ^ (65 + double.places) * power.units := by
    rw [Nat.one_mul]
    exact Nat.mul_le_mul small large
  have wide : number.units * double.one <
      power.units * 2 ^ (65 + double.places + double.precision) := by
    refine Nat.lt_of_le_of_lt bound ?_
    rw [Nat.one_mul, Nat.mul_comm]
    exact Nat.mul_lt_mul_of_pos_left (Nat.pow_lt_pow_right (by decide) (by decide)) positive
  have low : double.rankOf number.units power.units < double.ranks := by
    refine Nat.lt_of_le_of_lt (Layout.rankOf_le (by decide) positive wide) ?_
    rw [ranks_eq]
    exact Nat.mul_lt_mul_of_pos_right (by decide) double.stride_pos
  refine ⟨⟨_, _, low⟩, ofQuotient?_eq _ low, ?_⟩
  have units := Layout.units_rankOf_le (by decide) positive
    (Layout.orderOf_le (by decide) wide) bound
  rwa [Nat.one_mul] at units

/-- Two roundings of factors do not carry a product over the last half step below the end. -/
theorem product_lt {number power factor one limit : Nat} (positive : 0 < one * one * limit)
    (near : number * 2 ^ 53 ≤ significand * one * (2 ^ 53 + 1))
    (powerNear : power * 2 ^ 53 ≤ factor * one * (2 ^ 53 + 1))
    (bound : 2 * (significand * factor * one) ≤ limit * (2 * 2 ^ 53 - 7)) :
    2 * (number * power * one) < one * one * limit * (2 * 2 ^ 53 - 1) := by
  refine Nat.lt_of_mul_lt_mul_right (a := 2 ^ 53 * 2 ^ 53) ?_
  calc 2 * (number * power * one) * (2 ^ 53 * 2 ^ 53)
      = 2 * one * (number * 2 ^ 53 * (power * 2 ^ 53)) := by ring
    _ ≤ 2 * one * (significand * one * (2 ^ 53 + 1) * (factor * one * (2 ^ 53 + 1))) :=
        Nat.mul_le_mul_left _ (Nat.mul_le_mul near powerNear)
    _ = 2 * (significand * factor * one) * (one * one * ((2 ^ 53 + 1) * (2 ^ 53 + 1))) := by ring
    _ ≤ limit * (2 * 2 ^ 53 - 7) * (one * one * ((2 ^ 53 + 1) * (2 ^ 53 + 1))) :=
        Nat.mul_le_mul_right _ bound
    _ = one * one * limit * ((2 * 2 ^ 53 - 7) * ((2 ^ 53 + 1) * (2 ^ 53 + 1))) := by ring
    _ < one * one * limit * ((2 * 2 ^ 53 - 1) * (2 ^ 53 * 2 ^ 53)) :=
        Nat.mul_lt_mul_of_pos_left (by decide) positive
    _ = one * one * limit * (2 * 2 ^ 53 - 1) * (2 ^ 53 * 2 ^ 53) := by ring

/-- A product is finite if the exact one is a little below the end. -/
theorem exists_times? {number power : Double} {factor : Nat}
    (near : number.units * 2 ^ 53 ≤ significand * double.one * (2 ^ 53 + 1))
    (powerNear : power.units * 2 ^ 53 ≤ factor * double.one * (2 ^ 53 + 1))
    (bound : 2 * (significand * factor * double.one) ≤ 2 ^ 2045 * (2 * 2 ^ 53 - 7)) :
    ∃ product, number.times? power = some product := by
  have low : double.rankOf (number.units * power.units) (double.one * double.one) <
      double.ranks := by
    rw [ranks_eq]
    have positive := Nat.mul_pos double.one_pos double.one_pos
    have digits : double.precision = 53 := rfl
    have whole : 0 < double.one * double.one * 2 ^ 2045 :=
      Nat.mul_pos positive (pow_pos (by decide) 2045)
    have less := product_lt whole near powerNear bound
    rw [← digits] at less
    exact Layout.rankOf_lt (by decide) positive less
  exact ⟨⟨_, _, low⟩, ofQuotient?_eq _ low⟩

/-- One step is taken if the exact product is a little below the end. -/
theorem exists_scaleOnce? {number : Double} (low : exponent.natAbs ≤ largestPower)
    (small : number.units ≤ 2 ^ (65 + double.places))
    (near : 0 ≤ exponent → ∃ significand,
      number.units * 2 ^ 53 ≤ significand * double.one * (2 ^ 53 + 1) ∧
        2 * (significand * 10 ^ exponent.natAbs * double.one) ≤ 2 ^ 2045 * (2 * 2 ^ 53 - 7)) :
    ∃ result, scaleOnce? number exponent = some result ∧
      (exponent < 0 → result.units ≤ 2 ^ (65 + double.places)) := by
  obtain ⟨power, raised, -, large, units⟩ := exists_power exponent low
  by_cases below : exponent < 0
  · obtain ⟨quotient, taken, still⟩ := exists_over? small large
    refine ⟨quotient, ?_, fun _ => still⟩
    unfold scaleOnce?
    exact Option.bind_eq_some_iff.mpr ⟨power, raised, (if_pos below).trans taken⟩
  · obtain ⟨significand, number_near, bound⟩ := near (Int.not_lt.mp below)
    have powerNear := units ▸ @Layout.units_rankOf_one_le double (by decide) (10 ^ exponent.natAbs)
    obtain ⟨product, taken⟩ := exists_times? number_near powerNear bound
    refine ⟨product, ?_, fun less => absurd less below⟩
    unfold scaleOnce?
    exact Option.bind_eq_some_iff.mpr ⟨power, raised, (if_neg below).trans taken⟩

/-- A significand of 64 bits is scaled if the exact product is a little below the end. -/
theorem exists_scaled? (small : significand < 2 ^ 64)
    (bound : 0 ≤ exponent →
      2 * (significand * 10 ^ exponent.natAbs * double.one) ≤ 2 ^ 2045 * (2 * 2 ^ 53 - 7)) :
    ∃ number, scaled? significand exponent = some number := by
  have low : significand ≤ 10 ^ largestPower :=
    Nat.le_trans (Nat.le_of_lt small) (by decide +kernel)
  obtain ⟨number, taken, -, units⟩ := exists_ofNat? low
  have near : number.units * 2 ^ 53 ≤ significand * double.one * (2 ^ 53 + 1) :=
    units ▸ @Layout.units_rankOf_one_le double (by decide) significand
  have fits : number.units ≤ 2 ^ (65 + double.places) := by
    refine Nat.le_of_mul_le_mul_right (c := 2 ^ 53) ?_ (by decide)
    calc number.units * 2 ^ 53 ≤ significand * double.one * (2 ^ 53 + 1) := near
      _ ≤ 2 ^ 64 * double.one * (2 * 2 ^ 53) :=
          Nat.mul_le_mul (Nat.mul_le_mul_right _ (Nat.le_of_lt small)) (by decide)
      _ = 2 ^ (65 + double.places) * 2 ^ 53 := by
          rw [double.one_eq, Nat.pow_add]
          ring
  unfold scaled?
  simp only [Option.bind_eq_bind]
  rw [taken, Option.bind_some]
  split
  · next within =>
      obtain ⟨result, once, -⟩ := exists_scaleOnce? within fits fun above => ⟨_, near, bound above⟩
      exact ⟨result, once⟩
  split
  · exact ⟨number, rfl⟩
  next far nonzero =>
  have outside : ¬ exponent.natAbs ≤ 308 := far
  split
  · next above =>
      have some' : 1 ≤ significand := Nat.pos_of_ne_zero fun zero => nonzero (by
        rw [zero, units_rankOf_of_isMet (isMet_of_lt (by decide)), Nat.zero_mul] at units
        exact isZero_of_units units)
      have limit : 2 ^ 2045 * (2 * 2 ^ 53 - 7) < 2 * (1 * 10 ^ 309 * double.one) := by
        decide +kernel
      have wide : 10 ^ 309 ≤ 10 ^ exponent.natAbs := pow_le_pow_right₀ (by decide) (by omega)
      have more := Nat.mul_le_mul_left 2
        (Nat.mul_le_mul_right double.one (Nat.mul_le_mul some' wide))
      exact absurd (Nat.le_trans more (bound (Int.le_of_lt above))) (Nat.not_le_of_lt limit)
  · next above =>
      have below : exponent + largestPower < 0 := by
        change exponent + 308 < 0
        omega
      obtain ⟨smaller, once, still⟩ :=
        @exists_scaleOnce? (-largestPower) number (by decide) fits fun above => nomatch above
      rw [once, Option.bind_some]
      split
      · next within =>
          obtain ⟨result, twice, -⟩ := exists_scaleOnce? within (still (by decide)) fun above =>
            absurd below (Int.not_lt.mpr above)
          exact ⟨result, twice⟩
      · obtain ⟨zero, taken, -⟩ := exists_ofNat? (Nat.zero_le (10 ^ largestPower))
        exact ⟨zero, taken⟩

end PromScribe.NumberLiteral

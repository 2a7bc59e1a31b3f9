import Mathlib.Algebra.Order.Ring.Nat
import Mathlib.Tactic.Ring
import PromScribe.Binary.Layout

/-!
# Nearest numbers

The number nearest to a quotient depends on the quotient alone, is off by at most half a step of
its binary order, and is the quotient itself where that has few enough binary digits.
-/

namespace PromScribe.Binary

variable {layout : Layout} {numerator denominator factor quotient digits order : Nat}

theorem roundQuotient_mul_right (positive : 0 < factor) :
    roundQuotient (numerator * factor) (denominator * factor) =
      roundQuotient numerator denominator := by
  unfold roundQuotient
  dsimp only
  rw [Nat.mul_div_mul_right _ _ positive, Nat.mul_mod_mul_right, ← Nat.mul_assoc]
  simp only [Nat.mul_lt_mul_right positive]

/-- A quotient without remainder is not rounded. -/
theorem roundQuotient_mul_self (quotient : Nat) (positive : 0 < denominator) :
    roundQuotient (quotient * denominator) denominator = quotient := by
  unfold roundQuotient
  dsimp only
  rw [Nat.mul_div_cancel _ positive, Nat.mul_mod_left, Nat.mul_zero, if_pos positive]

/-- Rounding is down or up to the next whole number. -/
theorem roundQuotient_eq (numerator denominator : Nat) :
    roundQuotient numerator denominator = numerator / denominator ∨
      roundQuotient numerator denominator = numerator / denominator + 1 := by
  unfold roundQuotient
  dsimp only
  split
  · exact .inl rfl
  split
  · exact .inr rfl
  · omega

/-- A rounded quotient is off by at most a half. -/
theorem roundQuotient_near (numerator : Nat) (positive : 0 < denominator) :
    2 * (roundQuotient numerator denominator * denominator) ≤ 2 * numerator + denominator ∧
      2 * numerator ≤ 2 * (roundQuotient numerator denominator * denominator) + denominator := by
  have whole := Nat.div_add_mod' numerator denominator
  have rest := Nat.mod_lt numerator positive
  unfold roundQuotient
  dsimp only
  split
  · omega
  split
  · rw [Nat.add_mul, Nat.one_mul]
    omega
  · rcases Nat.mod_two_eq_zero_or_one (numerator / denominator) with even | odd
    · rw [even, Nat.add_zero]
      omega
    · rw [odd, Nat.add_mul, Nat.one_mul]
      omega

theorem roundQuotient_le (positive : 0 < denominator)
    (bound : numerator ≤ quotient * denominator) :
    roundQuotient numerator denominator ≤ quotient := by
  have ⟨near, _⟩ := roundQuotient_near numerator positive
  have less : 2 * roundQuotient numerator denominator * denominator ≤
      (2 * quotient + 1) * denominator := by
    rw [Nat.mul_assoc, Nat.add_mul, Nat.mul_assoc, Nat.one_mul]
    omega
  have half := Nat.le_of_mul_le_mul_right less positive
  omega

theorem le_roundQuotient (positive : 0 < denominator)
    (bound : quotient * denominator ≤ numerator) :
    quotient ≤ roundQuotient numerator denominator := by
  have whole := (Nat.le_div_iff_mul_le positive).mpr bound
  rcases roundQuotient_eq numerator denominator with down | up
  · omega
  · omega

namespace Layout

theorem one_eq (layout : Layout) : layout.one = 2 ^ layout.places := rfl

theorem one_pos (layout : Layout) : 0 < layout.one := Nat.pow_pos (by decide)

theorem stride_pos (layout : Layout) : 0 < layout.stride := Nat.pow_pos (by decide)

theorem rankOf_mul_right (layout : Layout) (positive : 0 < factor) :
    layout.rankOf (numerator * factor) (denominator * factor) =
      layout.rankOf numerator denominator := by
  unfold rankOf
  dsimp only
  have scaled : numerator * factor * layout.one = numerator * layout.one * factor := by ring
  rw [scaled, Nat.mul_div_mul_right _ _ positive, Nat.mul_right_comm denominator,
    roundQuotient_mul_right positive]

/-- Equal quotients have one nearest number. -/
theorem rankOf_congr {otherNumerator otherDenominator : Nat} (positive : 0 < denominator)
    (otherPositive : 0 < otherDenominator)
    (same : numerator * otherDenominator = otherNumerator * denominator) :
    layout.rankOf numerator denominator = layout.rankOf otherNumerator otherDenominator := by
  rw [← layout.rankOf_mul_right otherPositive, same, Nat.mul_comm denominator,
    layout.rankOf_mul_right positive]

/-- Numbers of an order, its end included, are counted in steps of the order. -/
theorem units_add (full : layout.stride ≤ digits ∨ order = 0) (bound : digits ≤ 2 * layout.stride) :
    layout.units (order * layout.stride + digits) = digits * 2 ^ order := by
  have positive := layout.stride_pos
  unfold units
  split
  · next small =>
      have none : order = 0 := by
        rcases full with full | none
        · omega
        · exact none
      rw [none, Nat.zero_mul, Nat.zero_add, Nat.pow_zero, Nat.mul_one]
  · next large =>
      have full : layout.stride ≤ digits := by
        rcases full with full | none
        · exact full
        · rw [none] at large
          omega
      rcases Nat.lt_or_eq_of_le bound with within | last
      · have split : order * layout.stride + digits =
            (digits - layout.stride) + (order + 1) * layout.stride := by
          rw [Nat.add_mul]
          omega
        have small : digits - layout.stride < layout.stride := by omega
        rw [split, Nat.add_mul_mod_self_right, Nat.add_mul_div_right _ _ positive,
          Nat.mod_eq_of_lt small, Nat.div_eq_of_lt small, Nat.zero_add, Nat.add_sub_cancel,
          Nat.add_sub_cancel' full]
        rfl
      · have whole : order * layout.stride + digits = (order + 2) * layout.stride := by
          rw [last, Nat.add_mul]
        rw [whole, Nat.mul_mod_left, Nat.mul_div_cancel _ positive, last, Nat.add_zero]
        change layout.stride * 2 ^ (order + 1) = _
        rw [Nat.pow_succ]
        ring

/-- The order in which the number nearest to a quotient is found. -/
def orderOf (layout : Layout) (numerator denominator : Nat) : Nat :=
  Nat.log2 (numerator * layout.one / denominator) + 1 - layout.precision

/-- The digits of the number nearest to a quotient, in steps of its order. -/
def stepsOf (layout : Layout) (numerator denominator : Nat) : Nat :=
  roundQuotient (numerator * layout.one) (denominator * 2 ^ layout.orderOf numerator denominator)

theorem rankOf_eq (layout : Layout) (numerator denominator : Nat) :
    layout.rankOf numerator denominator =
      layout.orderOf numerator denominator * layout.stride +
        layout.stepsOf numerator denominator := rfl

theorem mul_pow_pos (positive : 0 < denominator) (order : Nat) : 0 < denominator * 2 ^ order :=
  Nat.mul_pos positive (Nat.pow_pos (by decide))

/-- A multiple of a higher order is one of the order below it. -/
theorem pow_add_mul_comm (digits above order denominator : Nat) :
    digits * 2 ^ (above + order) * denominator =
      digits * 2 ^ above * (denominator * 2 ^ order) := by
  rw [Nat.pow_add, ← Nat.mul_assoc, Nat.mul_right_comm, Nat.mul_assoc]

theorem lt_mul_pow_orderOf (positive : 0 < denominator) :
    numerator * layout.one <
      denominator * 2 ^ (layout.orderOf numerator denominator + layout.precision) := by
  have log := Nat.lt_log2_self (n := numerator * layout.one / denominator)
  have wide : 2 ^ (Nat.log2 (numerator * layout.one / denominator) + 1) ≤
      2 ^ (layout.orderOf numerator denominator + layout.precision) := by
    refine Nat.pow_le_pow_right (by decide) ?_
    unfold orderOf
    omega
  rw [Nat.mul_comm denominator]
  exact (Nat.div_lt_iff_lt_mul positive).mp (Nat.lt_of_lt_of_le log wide)

section Precise

variable (precise : 0 < layout.precision)
include precise

theorem two_strides : 2 ^ layout.precision = 2 * layout.stride := by
  have next : layout.precision = layout.precision - 1 + 1 := by omega
  rw [next, pow_succ, Nat.mul_comm]
  rfl

/-- A quotient of few binary digits is of a low order. -/
theorem orderOf_le
    (bound : numerator * layout.one < denominator * 2 ^ (order + layout.precision)) :
    layout.orderOf numerator denominator ≤ order := by
  have less : numerator * layout.one / denominator < 2 ^ (order + layout.precision) :=
    Nat.div_lt_of_lt_mul bound
  unfold orderOf
  by_cases zero : numerator * layout.one / denominator = 0
  · rw [zero, Nat.log2_zero]
    omega
  · have log := (Nat.log2_lt zero).mpr less
    omega

/-- Above the lowest order a quotient has all binary digits. -/
theorem pow_orderOf_le (positive : 0 < denominator)
    (above : 0 < layout.orderOf numerator denominator) :
    layout.stride * (denominator * 2 ^ layout.orderOf numerator denominator) ≤
      numerator * layout.one := by
  have nonzero : numerator * layout.one / denominator ≠ 0 := by
    intro zero
    unfold orderOf at above
    rw [zero, Nat.log2_zero] at above
    omega
  have log := Nat.log2_self_le nonzero
  have place : Nat.log2 (numerator * layout.one / denominator) =
      layout.precision - 1 + layout.orderOf numerator denominator := by
    unfold orderOf at above ⊢
    omega
  rw [place, Nat.pow_add, Nat.le_div_iff_mul_le positive, Nat.mul_assoc,
    Nat.mul_comm (2 ^ _) denominator] at log
  exact log

/-- The steps are at least half of the greatest ones, but in the lowest order. -/
theorem stepsOf_bounds (positive : 0 < denominator) :
    (layout.stride ≤ layout.stepsOf numerator denominator ∨
      layout.orderOf numerator denominator = 0) ∧
      layout.stepsOf numerator denominator ≤ 2 * layout.stride := by
  have step := mul_pow_pos positive (layout.orderOf numerator denominator)
  have rounded := roundQuotient_eq (numerator * layout.one)
    (denominator * 2 ^ layout.orderOf numerator denominator)
  constructor
  · rcases Nat.eq_zero_or_pos (layout.orderOf numerator denominator) with none | above
    · exact .inr none
    · have full := (Nat.le_div_iff_mul_le step).mpr (pow_orderOf_le precise positive above)
      unfold stepsOf
      omega
  · have wide : numerator * layout.one <
        denominator * 2 ^ (layout.orderOf numerator denominator + layout.precision) :=
      lt_mul_pow_orderOf positive
    rw [Nat.add_comm, Nat.pow_add, two_strides precise, Nat.mul_left_comm,
      ← Nat.div_lt_iff_lt_mul step] at wide
    unfold stepsOf
    omega

/-- The units of the nearest number are its steps. -/
theorem units_rankOf (positive : 0 < denominator) :
    layout.units (layout.rankOf numerator denominator) =
      layout.stepsOf numerator denominator * 2 ^ layout.orderOf numerator denominator := by
  have ⟨full, bound⟩ := @stepsOf_bounds layout numerator denominator precise positive
  rw [rankOf_eq, units_add full bound]

/-- The nearest number is off by at most half a step. -/
theorem units_rankOf_near (positive : 0 < denominator) :
    2 * (layout.units (layout.rankOf numerator denominator) * denominator) ≤
        2 * (numerator * layout.one) + denominator * 2 ^ layout.orderOf numerator denominator ∧
      2 * (numerator * layout.one) ≤
        2 * (layout.units (layout.rankOf numerator denominator) * denominator) +
          denominator * 2 ^ layout.orderOf numerator denominator := by
  have step := mul_pow_pos positive (layout.orderOf numerator denominator)
  rw [units_rankOf precise positive, Nat.mul_assoc, Nat.mul_comm (2 ^ _) denominator]
  exact roundQuotient_near _ step

/-- Rounding does not pass a number of the order, or of an order above it. -/
theorem units_rankOf_le (positive : 0 < denominator)
    (low : layout.orderOf numerator denominator ≤ order)
    (bound : numerator * layout.one ≤ digits * 2 ^ order * denominator) :
    layout.units (layout.rankOf numerator denominator) ≤ digits * 2 ^ order := by
  have step := mul_pow_pos positive (layout.orderOf numerator denominator)
  obtain ⟨above, rfl⟩ := Nat.exists_eq_add_of_le' low
  rw [pow_add_mul_comm] at bound
  rw [units_rankOf precise positive, Nat.pow_add, ← Nat.mul_assoc]
  exact Nat.mul_le_mul_right _ (roundQuotient_le step bound)

theorem le_units_rankOf (positive : 0 < denominator)
    (low : layout.orderOf numerator denominator ≤ order)
    (bound : digits * 2 ^ order * denominator ≤ numerator * layout.one) :
    digits * 2 ^ order ≤ layout.units (layout.rankOf numerator denominator) := by
  have step := mul_pow_pos positive (layout.orderOf numerator denominator)
  obtain ⟨above, rfl⟩ := Nat.exists_eq_add_of_le' low
  rw [pow_add_mul_comm] at bound
  rw [units_rankOf precise positive, Nat.pow_add, ← Nat.mul_assoc]
  exact Nat.mul_le_mul_right _ (le_roundQuotient step bound)

/-- A quotient of few binary digits is its nearest number. -/
theorem units_rankOf_self (positive : 0 < denominator) (few : digits < 2 ^ layout.precision)
    (same : numerator * layout.one = digits * 2 ^ order * denominator) :
    layout.units (layout.rankOf numerator denominator) = digits * 2 ^ order := by
  have low : layout.orderOf numerator denominator ≤ order := by
    refine orderOf_le precise ?_
    rw [same, Nat.mul_comm, Nat.add_comm, Nat.pow_add]
    exact Nat.mul_lt_mul_of_pos_left
      (Nat.mul_lt_mul_of_pos_right few (Nat.pow_pos (by decide))) positive
  exact Nat.le_antisymm (units_rankOf_le precise positive low (Nat.le_of_eq same))
    (le_units_rankOf precise positive low (Nat.le_of_eq same.symm))

/-- What is at least a power of two is nearest to a number of at least that power. -/
theorem one_mul_pow_le_units_rankOf (order : Nat) (positive : 0 < denominator)
    (above : denominator * 2 ^ order ≤ numerator) :
    layout.one * 2 ^ order ≤ layout.units (layout.rankOf numerator denominator) := by
  rcases Nat.lt_or_ge (layout.places + order) (layout.orderOf numerator denominator) with high | low
  · have ⟨full, _⟩ := @stepsOf_bounds layout numerator denominator precise positive
    have full := full.resolve_right (Nat.ne_of_gt (Nat.lt_of_le_of_lt (Nat.zero_le _) high))
    have wide : 2 ^ (layout.places + order) ≤ 2 ^ layout.orderOf numerator denominator :=
      Nat.pow_le_pow_right (by decide) (Nat.le_of_lt high)
    rw [units_rankOf precise positive, one_eq, ← Nat.pow_add]
    exact Nat.le_trans wide
      (Nat.le_mul_of_pos_left _ (Nat.lt_of_lt_of_le layout.stride_pos full))
  · have unit := @le_units_rankOf layout numerator denominator 1 (layout.places + order) precise
      positive low
    rw [Nat.one_mul, Nat.pow_add, ← one_eq, Nat.mul_assoc, Nat.mul_comm, Nat.mul_comm (2 ^ order)]
      at unit
    exact unit (Nat.mul_le_mul_right _ above)

/-- What is at least one is nearest to a number of at least one. -/
theorem one_le_units_rankOf (positive : 0 < denominator) (above : denominator ≤ numerator) :
    layout.one ≤ layout.units (layout.rankOf numerator denominator) := by
  have unit := @one_mul_pow_le_units_rankOf layout numerator denominator precise 0 positive
  rw [Nat.pow_zero, Nat.mul_one, Nat.mul_one] at unit
  exact unit above

/-- A whole number is off by at most half of its last binary digit. -/
theorem units_rankOf_one_le (number : Nat) :
    layout.units (layout.rankOf number 1) * 2 ^ layout.precision ≤
      number * layout.one * (2 ^ layout.precision + 1) := by
  have ⟨near, _⟩ := @units_rankOf_near layout number 1 precise Nat.one_pos
  rw [Nat.mul_one, Nat.one_mul] at near
  rcases Nat.eq_zero_or_pos (layout.orderOf number 1) with none | above
  · rw [none, Nat.pow_zero] at near
    have least : layout.units (layout.rankOf number 1) ≤ number * layout.one := by omega
    exact Nat.mul_le_mul least (Nat.le_succ _)
  · have full := pow_orderOf_le precise Nat.one_pos above
    rw [Nat.one_mul] at full
    rw [two_strides precise]
    calc layout.units (layout.rankOf number 1) * (2 * layout.stride)
        = 2 * layout.units (layout.rankOf number 1) * layout.stride := by ring
      _ ≤ (2 * (number * layout.one) + 2 ^ layout.orderOf number 1) * layout.stride :=
          Nat.mul_le_mul_right _ near
      _ = number * layout.one * (2 * layout.stride) +
            layout.stride * 2 ^ layout.orderOf number 1 := by ring
      _ ≤ number * layout.one * (2 * layout.stride) + number * layout.one :=
          Nat.add_le_add_left full _

/-- Below the middle between the last number of an order and what is behind it, the rank is one of
the order or lower. -/
theorem rankOf_lt (positive : 0 < denominator)
    (bound : 2 * (numerator * layout.one) <
      denominator * 2 ^ order * (2 * 2 ^ layout.precision - 1)) :
    layout.rankOf numerator denominator < (order + 2) * layout.stride := by
  have half := layout.stride_pos
  have low : layout.orderOf numerator denominator ≤ order := by
    refine orderOf_le precise ?_
    have wide : denominator * 2 ^ order * (2 * 2 ^ layout.precision - 1) ≤
        denominator * 2 ^ order * (2 * 2 ^ layout.precision) :=
      Nat.mul_le_mul_left _ (Nat.sub_le _ _)
    rw [Nat.pow_add, ← Nat.mul_assoc]
    rw [Nat.mul_left_comm] at wide
    omega
  have step := mul_pow_pos positive order
  have ⟨_, steps⟩ := @stepsOf_bounds layout numerator denominator precise positive
  rw [rankOf_eq]
  rcases Nat.lt_or_eq_of_le low with less | same
  · have next := Nat.mul_le_mul_right layout.stride less
    rw [Nat.succ_mul] at next
    rw [Nat.add_mul]
    omega
  · have ⟨near, _⟩ := roundQuotient_near (numerator * layout.one) step
    have few : 2 * layout.stepsOf numerator denominator < 2 * 2 ^ layout.precision := by
      refine Nat.lt_of_mul_lt_mul_left (a := denominator * 2 ^ order) ?_
      rw [Nat.mul_sub, Nat.mul_one] at bound
      rw [stepsOf, same]
      calc denominator * 2 ^ order *
            (2 * roundQuotient (numerator * layout.one) (denominator * 2 ^ order))
          = 2 * (roundQuotient (numerator * layout.one) (denominator * 2 ^ order) *
              (denominator * 2 ^ order)) := by ring
        _ ≤ 2 * (numerator * layout.one) + denominator * 2 ^ order := near
        _ < denominator * 2 ^ order * (2 * 2 ^ layout.precision) := by omega
    rw [two_strides precise] at few
    rw [same, Nat.add_mul]
    omega

/-- A quotient whose rank is four or more below the end of an order is as far below it. -/
theorem le_of_rankOf_le (positive : 0 < denominator) (wide : 4 ≤ layout.stride)
    (low : layout.rankOf numerator denominator + 4 ≤ (order + 2) * layout.stride) :
    2 * (numerator * layout.one) ≤
      denominator * 2 ^ order * (2 * 2 ^ layout.precision - 7) := by
  have ⟨full, steps⟩ := @stepsOf_bounds layout numerator denominator precise positive
  have ⟨_, near⟩ := @units_rankOf_near layout numerator denominator precise positive
  have whole : 2 * (layout.stepsOf numerator denominator *
      2 ^ layout.orderOf numerator denominator * denominator) +
        denominator * 2 ^ layout.orderOf numerator denominator =
      denominator * 2 ^ layout.orderOf numerator denominator *
        (2 * layout.stepsOf numerator denominator + 1) := by ring
  rw [units_rankOf precise positive, whole] at near
  rw [rankOf_eq, Nat.add_mul] at low
  rw [two_strides precise]
  refine Nat.le_trans near ?_
  rcases Nat.lt_trichotomy (layout.orderOf numerator denominator) order with less | same | more
  · have half : denominator * 2 ^ layout.orderOf numerator denominator * 2 ≤
        denominator * 2 ^ order := by
      rw [Nat.mul_assoc, ← Nat.pow_succ]
      exact Nat.mul_le_mul_left _ (Nat.pow_le_pow_right (by decide) less)
    calc denominator * 2 ^ layout.orderOf numerator denominator *
          (2 * layout.stepsOf numerator denominator + 1)
        ≤ denominator * 2 ^ layout.orderOf numerator denominator *
            (2 * (2 * (2 * layout.stride) - 7)) := Nat.mul_le_mul_left _ (by omega)
      _ = denominator * 2 ^ layout.orderOf numerator denominator * 2 *
            (2 * (2 * layout.stride) - 7) := by rw [Nat.mul_assoc _ 2]
      _ ≤ denominator * 2 ^ order * (2 * (2 * layout.stride) - 7) :=
          Nat.mul_le_mul_right _ half
  · rw [same] at low ⊢
    exact Nat.mul_le_mul_left _ (by omega)
  · have next := Nat.mul_le_mul_right layout.stride more
    rw [Nat.succ_mul] at next
    have full := full.resolve_right (by omega)
    omega

/-- A number of the layout is nearest to itself. -/
theorem rankOf_units (rank : Nat) : layout.rankOf (layout.units rank) layout.one = rank := by
  have positive := layout.stride_pos
  have digits {steps order : Nat} (units : layout.units rank = steps * 2 ^ order)
      (place : layout.orderOf (layout.units rank) layout.one = order) :
      layout.stepsOf (layout.units rank) layout.one = steps := by
    have step : 0 < layout.one * 2 ^ order := Nat.mul_pos layout.one_pos (Nat.pow_pos (by decide))
    rw [stepsOf, place, units, Nat.mul_assoc, Nat.mul_comm (2 ^ _) layout.one]
    exact roundQuotient_mul_self steps step
  have place : layout.orderOf (layout.units rank) layout.one =
      Nat.log2 (layout.units rank) + 1 - layout.precision := by
    rw [orderOf, Nat.mul_div_cancel _ layout.one_pos]
  by_cases small : rank < layout.stride
  · have units : layout.units rank = rank := if_pos small
    have low : layout.orderOf (layout.units rank) layout.one = 0 := by
      rw [place, units]
      by_cases zero : rank = 0
      · rw [zero, Nat.log2_zero]
        omega
      · have log := (Nat.log2_lt zero).mpr small
        omega
    have steps := digits (units.trans (Nat.mul_one rank).symm) low
    rw [rankOf_eq, low, steps, Nat.zero_mul, Nat.zero_add]
  · have units : layout.units rank =
        (layout.stride + rank % layout.stride) * 2 ^ (rank / layout.stride - 1) := if_neg small
    have rest := Nat.mod_lt rank positive
    have low : layout.orderOf (layout.units rank) layout.one = rank / layout.stride - 1 := by
      have log : Nat.log2 (layout.units rank) =
          layout.precision - 1 + (rank / layout.stride - 1) := by
        have nonzero : layout.units rank ≠ 0 := by
          rw [units]
          exact Nat.ne_of_gt (Nat.mul_pos (by omega) (Nat.pow_pos (by decide)))
        refine (Nat.log2_eq_iff nonzero).mpr ⟨?_, ?_⟩
        · rw [units, Nat.pow_add]
          exact Nat.mul_le_mul_right _ (Nat.le_add_right _ _)
        · rw [units, Nat.add_right_comm, Nat.pow_add, Nat.sub_add_cancel precise,
            two_strides precise]
          exact Nat.mul_lt_mul_of_pos_right (by omega) (Nat.pow_pos (by decide))
      rw [place, log]
      omega
    have above : 1 ≤ rank / layout.stride :=
      (Nat.one_le_div_iff positive).mpr (Nat.le_of_not_lt small)
    have once := Nat.mul_le_mul_right layout.stride above
    have whole := Nat.div_add_mod' rank layout.stride
    rw [rankOf_eq, low, digits units low, Nat.sub_mul, Nat.one_mul]
    omega

/-- A quotient of few binary digits has a low rank. -/
theorem rankOf_le (positive : 0 < denominator)
    (bound : numerator * layout.one < denominator * 2 ^ (order + layout.precision)) :
    layout.rankOf numerator denominator ≤ (order + 2) * layout.stride := by
  have low := Nat.mul_le_mul_right layout.stride (orderOf_le precise bound)
  have ⟨_, steps⟩ := @stepsOf_bounds layout numerator denominator precise positive
  rw [rankOf_eq, Nat.add_mul]
  exact Nat.add_le_add low steps

end Precise

end Layout

end PromScribe.Binary

/-!
## Numbers that are no proportions

What is far enough from the numbers between zero and one stays outside of them, however few binary
digits it is brought to.
-/

namespace PromScribe

open Binary

variable {layout target : Layout} {negative : Bool} {numerator denominator : Nat}
variable {number : Finite layout}

namespace Finite

theorem nearest_cases (layout : Layout) (negative : Bool) (numerator denominator : Nat) :
    (∃ number : Finite layout, nearest negative numerator denominator = .finite number) ∨
      (nearest negative numerator denominator : Scalar layout) = .infinite negative := by
  unfold nearest
  split
  · exact .inl ⟨_, rfl⟩
  · exact .inr rfl

theorem of_nearest (near : nearest negative numerator denominator = .finite number) :
    number.negative = negative ∧
      number.units = layout.units (layout.rankOf numerator denominator) := by
  unfold nearest ofQuotient? at near
  dsimp only at near
  split at near
  · next found same =>
      split at same
      · obtain rfl := Option.some.inj same
        obtain rfl := Scalar.finite.inj near
        exact ⟨rfl, rfl⟩
      · cases same
  · cases near

variable (precise : 0 < layout.precision) (positive : 0 < denominator)
include precise positive

theorem one_le_units_of_nearest (above : denominator ≤ numerator)
    (near : nearest negative numerator denominator = .finite number) :
    layout.one ≤ number.units := by
  rw [(of_nearest near).2]
  exact Layout.one_le_units_rankOf precise positive above

theorem two_le_units_of_nearest (above : denominator * 2 ≤ numerator)
    (near : nearest negative numerator denominator = .finite number) :
    layout.one * 2 ≤ number.units := by
  rw [(of_nearest near).2]
  exact Layout.one_mul_pow_le_units_rankOf precise 1 positive above

/-- What is one or more below zero, or two or more above it, is not nearest to a proportion. -/
theorem isProportion_nearest (above : denominator ≤ numerator)
    (far : negative = true ∨ denominator * 2 ≤ numerator) :
    (nearest negative numerator denominator : Scalar layout).isProportion = false := by
  rcases nearest_cases layout negative numerator denominator with
    ⟨number, near⟩ | near
  · have one := layout.one_pos
    have least := one_le_units_of_nearest precise positive above near
    have nonzero : number.rank ≠ 0 := by
      intro zero
      have none : number.units = 0 := by
        unfold units Layout.units
        rw [zero, if_pos layout.stride_pos]
      omega
    rw [near]
    change (number.rank == 0 || (!number.negative && number.units ≤ layout.one)) = false
    rw [(of_nearest near).1]
    rcases far with below | twice
    · simp [nonzero, below]
    · have most := two_le_units_of_nearest precise positive twice near
      have beyond : ¬number.units ≤ layout.one := by omega
      simp [nonzero, beyond]
  · rw [near]
    rfl

/-- Neither is it where it is brought to another layout. -/
theorem isProportion_convert_nearest (targetPrecise : 0 < target.precision)
    (above : denominator ≤ numerator) (far : negative = true ∨ denominator * 2 ≤ numerator) :
    ((nearest negative numerator denominator : Scalar layout).convert target).isProportion =
      false := by
  rcases nearest_cases layout negative numerator denominator with
    ⟨number, near⟩ | near
  · rw [near]
    refine isProportion_nearest targetPrecise layout.one_pos
      (one_le_units_of_nearest precise positive above near) ?_
    rw [(of_nearest near).1]
    exact far.imp_right fun twice => two_le_units_of_nearest precise positive twice near
  · rw [near]
    rfl

end Finite

end PromScribe

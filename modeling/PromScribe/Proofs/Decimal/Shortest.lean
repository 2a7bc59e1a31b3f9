import PromScribe.Decimal.Shortest
import PromScribe.Proofs.Binary.Nearest
import PromScribe.Proofs.Text.Digits

/-!
# Decimals of few digits

The number nearest to a decimal of at most fifteen digits has a shortest decimal of at most fifteen
digits, and that leads back to the number.
-/

namespace PromScribe.Decimal

open Binary Text

variable {layout : Layout} {rank count size digits places : Nat} {order : Int} {decimal : Decimal}

/-- The digits of a rank down to an exponent; what is behind them is left out. -/
def digitsAt (layout : Layout) (rank : Nat) (exponent : Int) : Nat :=
  layout.units rank * 10 ^ (-exponent).toNat / (layout.one * 10 ^ exponent.toNat)

/-- What is found leads back, and is beside the number. -/
theorem of_withDigits? (found : withDigits? layout rank order count = some decimal) :
    decimal.exponent = order - count ∧ decimal.rankIn layout = rank ∧
      digitsAt layout rank (order - count) ≤ decimal.digits ∧
      decimal.digits ≤ digitsAt layout rank (order - count) + 1 := by
  unfold withDigits? at found
  dsimp only at found
  split at found
  · next below above =>
      obtain rfl := Option.some.inj found
      refine ⟨rfl, ?_⟩
      rcases roundQuotient_eq (layout.units rank * 10 ^ (-(order - count)).toNat)
        (layout.one * 10 ^ (order - count).toNat) with down | up
      · exact ⟨down ▸ eq_of_beq below, Nat.le_of_eq down.symm,
          Nat.le_succ_of_le (Nat.le_of_eq down)⟩
      · exact ⟨up ▸ eq_of_beq above, up ▸ Nat.le_succ _, Nat.le_of_eq up⟩
  · next below above =>
      obtain rfl := Option.some.inj found
      exact ⟨rfl, eq_of_beq below, Nat.le_refl _, Nat.le_succ _⟩
  · next below above =>
      obtain rfl := Option.some.inj found
      exact ⟨rfl, eq_of_beq above, Nat.le_succ _, Nat.le_refl _⟩
  · cases found

/-- A decimal beside the number that leads back is not missed. -/
theorem isSome_withDigits? (digits : Nat)
    (leads : (Decimal.mk digits (order - count)).rankIn layout = rank)
    (beside : digits = digitsAt layout rank (order - count) ∨
      digits = digitsAt layout rank (order - count) + 1) :
    (withDigits? layout rank order count).isSome = true := by
  unfold withDigits?
  dsimp only
  split
  · rfl
  · rfl
  · rfl
  · next below above =>
      rcases beside with same | same
      · rw [same] at leads
        exact absurd leads (ne_of_beq_false below)
      · rw [same] at leads
        exact absurd leads (ne_of_beq_false above)

theorem rankIn_exact (layout : Layout) (precise : 0 < layout.precision) (rank : Nat) :
    (exact layout rank).rankIn layout = rank := by
  have whole : (-(layout.places : Int)).toNat = 0 := by omega
  have places : (-(-(layout.places : Int))).toNat = layout.places := by omega
  have ten : 10 ^ layout.places = 5 ^ layout.places * layout.one := by
    rw [layout.one_eq, ← Nat.mul_pow]
  rw [rankIn, numerator, denominator, exact, whole, places]
  refine Eq.trans ?_ (Layout.rankOf_units precise rank)
  refine Layout.rankOf_congr (Nat.pow_pos (by decide)) layout.one_pos ?_
  change layout.units rank * 5 ^ layout.places * 10 ^ 0 * layout.one =
    layout.units rank * 10 ^ layout.places
  rw [ten]
  ring

/-- The decimal that is shown leads back. -/
theorem rankIn_shortestOfRank (precise : 0 < layout.precision) (rank : Nat) :
    (shortestOfRank layout rank).rankIn layout = rank := by
  unfold shortestOfRank
  split
  · next zero =>
      have nothing : layout.units 0 = 0 := if_pos layout.stride_pos
      have self := Layout.rankOf_units precise 0
      rw [nothing] at self
      rw [zero, rankIn, numerator, denominator]
      refine Eq.trans ?_ self
      exact Layout.rankOf_congr Nat.one_pos layout.one_pos (by simp)
  · dsimp only
    cases found : (List.range 17).findSome? fun count => withDigits? layout rank
        (orderOf (layout.units rank) layout.one layout.places) (count + 1) with
    | none => exact rankIn_exact layout precise rank
    | some decimal =>
        obtain ⟨count, -, taken⟩ := List.exists_of_findSome?_eq_some found
        exact (of_withDigits? taken).2.1

/-- The shortest decimal has no more digits than another one that is found. -/
theorem exists_withDigits?_shortestOfRank (nonzero : rank ≠ 0) (few : count < 17)
    (found : (withDigits? layout rank (orderOf (layout.units rank) layout.one layout.places)
      (count + 1)).isSome = true) :
    ∃ less ≤ count, withDigits? layout rank
      (orderOf (layout.units rank) layout.one layout.places) (less + 1) =
        some (shortestOfRank layout rank) := by
  have initial : List.range (count + 1) <+: List.range 17 := by
    refine ⟨(List.range (17 - (count + 1))).map (count + 1 + ·), ?_⟩
    rw [← List.range_add, Nat.add_sub_cancel' few]
  have any : ((List.range (count + 1)).findSome? fun less => withDigits? layout rank
      (orderOf (layout.units rank) layout.one layout.places) (less + 1)).isSome = true :=
    List.findSome?_isSome_iff.mpr ⟨count, List.self_mem_range_succ, found⟩
  obtain ⟨decimal, first⟩ := Option.isSome_iff_exists.mp any
  have whole : shortestOfRank layout rank = decimal := by
    unfold shortestOfRank
    rw [if_neg nonzero]
    dsimp only
    rw [initial.findSome?_eq_some first]
    rfl
  obtain ⟨less, within, taken⟩ := List.exists_of_findSome?_eq_some first
  exact ⟨less, Nat.le_of_lt_succ (List.mem_range.mp within), whole ▸ taken⟩

/-- A number of at least one has the digits of its whole part in front of its point. -/
theorem exists_size {numerator denominator : Nat} (positive : 0 < denominator)
    (above : denominator ≤ numerator) (places : Nat) :
    ∃ size : Nat, orderOf numerator denominator places = size ∧ 0 < size ∧
      10 ^ (size - 1) * denominator ≤ numerator ∧ numerator < 10 ^ size * denominator := by
  refine ⟨(Nat.toDigits 10 (numerator / denominator)).length, if_pos above,
    Nat.length_toDigits_pos, ?_, ?_⟩
  · exact (Nat.le_div_iff_mul_le positive).mp
      (pow_length_toDigits_le (Nat.div_pos above positive))
  · exact (Nat.div_lt_iff_lt_mul positive).mp (lt_pow_length_toDigits _)

/-- A decimal of at most fifteen digits, between one and so many digits in front of the point. -/
structure IsPlain (decimal : Decimal) : Prop where
  few : decimal.digits ≤ 10 ^ 15
  aboveOne : decimal.denominator ≤ decimal.numerator
  bounded : decimal.numerator ≤ 10 ^ 15 * decimal.denominator

/-- What is found for a number of at least one is plain if its digits are few. -/
theorem isPlain_of_withDigits? (size : Nat) (positive : 0 < size) (low : size ≤ 15)
    (few : count < 15)
    (lower : 10 ^ (size - 1) * layout.one ≤ layout.units rank)
    (upper : layout.units rank < 10 ^ size * layout.one)
    (found : withDigits? layout rank size (count + 1) = some decimal) : decimal.IsPlain := by
  obtain ⟨place, -, least, most⟩ := of_withDigits? found
  have grid : 0 < layout.one * 10 ^ decimal.exponent.toNat :=
    Nat.mul_pos layout.one_pos (Nat.pow_pos (by decide))
  rw [← place] at least most
  -- digits down to the exponent are one less than the size or as many
  have shift : 10 ^ size * 10 ^ (-decimal.exponent).toNat =
      10 ^ (count + 1) * 10 ^ decimal.exponent.toNat := by
    rw [← Nat.pow_add, ← Nat.pow_add]
    congr 1
    omega
  have shiftLess : 10 ^ (size - 1) * 10 ^ (-decimal.exponent).toNat =
      10 ^ count * 10 ^ decimal.exponent.toNat := by
    rw [← Nat.pow_add, ← Nat.pow_add]
    congr 1
    omega
  have atLeast : 10 ^ count ≤ decimal.digits := by
    refine Nat.le_trans ((Nat.le_div_iff_mul_le grid).mpr ?_) least
    calc 10 ^ count * (layout.one * 10 ^ decimal.exponent.toNat)
        = 10 ^ count * 10 ^ decimal.exponent.toNat * layout.one := by ring
      _ = 10 ^ (size - 1) * layout.one * 10 ^ (-decimal.exponent).toNat := by
          rw [← shiftLess]
          ring
      _ ≤ layout.units rank * 10 ^ (-decimal.exponent).toNat := Nat.mul_le_mul_right _ lower
  have atMost : decimal.digits ≤ 10 ^ (count + 1) := by
    refine Nat.le_trans most ((Nat.div_lt_iff_lt_mul grid).mpr ?_)
    calc layout.units rank * 10 ^ (-decimal.exponent).toNat
        < 10 ^ size * layout.one * 10 ^ (-decimal.exponent).toNat :=
          Nat.mul_lt_mul_of_pos_right upper (Nat.pow_pos (by decide))
      _ = 10 ^ size * 10 ^ (-decimal.exponent).toNat * layout.one := by ring
      _ = 10 ^ (count + 1) * (layout.one * 10 ^ decimal.exponent.toNat) := by
          rw [shift]
          ring
  constructor
  · exact Nat.le_trans atMost (Nat.pow_le_pow_right (by decide) few)
  · calc 10 ^ (-decimal.exponent).toNat
        ≤ 10 ^ (size - 1) * 10 ^ (-decimal.exponent).toNat :=
          Nat.le_mul_of_pos_left _ (Nat.pow_pos (by decide))
      _ = 10 ^ count * 10 ^ decimal.exponent.toNat := shiftLess
      _ ≤ decimal.numerator := Nat.mul_le_mul_right _ atLeast
  · calc decimal.numerator
        ≤ 10 ^ (count + 1) * 10 ^ decimal.exponent.toNat := Nat.mul_le_mul_right _ atMost
      _ = 10 ^ size * 10 ^ (-decimal.exponent).toNat := shift.symm
      _ ≤ 10 ^ 15 * 10 ^ (-decimal.exponent).toNat :=
          Nat.mul_le_mul_right _ (Nat.pow_le_pow_right (by decide) low)

section Few

variable (few : digits < 10 ^ 15) (above : 10 ^ places ≤ digits)
include few above

/-- The steps around the number are less than the last place. -/
theorem step_lt_one : 10 ^ places * 2 ^ double.orderOf digits (10 ^ places) < double.one := by
  have positive : 0 < 10 ^ places := Nat.pow_pos (by decide)
  rcases Nat.eq_zero_or_pos (double.orderOf digits (10 ^ places)) with none | order
  · rw [none, Nat.pow_zero, Nat.mul_one]
    have wide : 10 ^ 15 ≤ double.one := by
      rw [double.one_eq]
      exact Nat.le_trans (by decide : 10 ^ 15 ≤ 2 ^ 50)
        (Nat.pow_le_pow_right (by decide) (by decide))
    exact Nat.lt_of_le_of_lt above (Nat.lt_of_lt_of_le few wide)
  · have full := Layout.pow_orderOf_le (by decide) positive order
    have wide : digits < double.stride := Nat.lt_trans few (by decide +kernel)
    by_contra large
    have less : digits * double.one < double.stride * double.one :=
      Nat.mul_lt_mul_of_pos_right wide double.one_pos
    have more := Nat.mul_le_mul_left double.stride (Nat.le_of_not_lt large)
    omega

/-- The number is off by less than the last place. -/
theorem units_near :
    digits * double.one <
        double.units (double.rankOf digits (10 ^ places)) * 10 ^ places + double.one ∧
      double.units (double.rankOf digits (10 ^ places)) * 10 ^ places <
        (digits + 1) * double.one := by
  have positive : 0 < 10 ^ places := Nat.pow_pos (by decide)
  have step := step_lt_one few above
  have ⟨low, high⟩ := @Layout.units_rankOf_near double digits _ (by decide) positive
  rw [Nat.add_mul]
  omega

/-- Down to the last place the number has the digits of the decimal, or those of one less. -/
theorem digitsAt_eq :
    digits = digitsAt double (double.rankOf digits (10 ^ places)) (-places) ∨
      digits = digitsAt double (double.rankOf digits (10 ^ places)) (-places) + 1 := by
  have ⟨low, high⟩ := units_near few above
  have whole : (-(-(places : Int))).toNat = places := by omega
  have none : (-(places : Int)).toNat = 0 := by omega
  unfold digitsAt
  rw [whole, none, Nat.pow_zero, Nat.mul_one]
  have least : digits - 1 ≤
      double.units (double.rankOf digits (10 ^ places)) * 10 ^ places / double.one := by
    refine (Nat.le_div_iff_mul_le double.one_pos).mpr ?_
    rw [Nat.sub_mul]
    omega
  have most := (Nat.div_lt_iff_lt_mul double.one_pos).mpr high
  omega

/-- The decimal that is shown is plain. -/
theorem isPlain_shortestOfRank :
    (shortestOfRank double (double.rankOf digits (10 ^ places))).IsPlain := by
  have unit := @Layout.one_le_units_rankOf double digits _ (by decide)
    (Nat.pow_pos (by decide)) above
  obtain ⟨size, order, positive, lower, upper⟩ := exists_size double.one_pos unit double.places
  -- the digits of the decimal are a candidate, and no longer one is shown
  have short : size + places ≤ 15 := by
    have ⟨_, near⟩ := units_near few above
    have wide : 10 ^ (size - 1) * double.one * 10 ^ places < 10 ^ 15 * double.one :=
      calc 10 ^ (size - 1) * double.one * 10 ^ places
          ≤ double.units (double.rankOf digits (10 ^ places)) * 10 ^ places :=
            Nat.mul_le_mul_right _ lower
        _ < (digits + 1) * double.one := near
        _ ≤ 10 ^ 15 * double.one := Nat.mul_le_mul_right _ few
    rw [Nat.mul_right_comm, ← Nat.pow_add, Nat.mul_lt_mul_right double.one_pos,
      Nat.pow_lt_pow_iff_right (by decide)] at wide
    omega
  have fewer : size + places - 1 < 15 := by omega
  have place : (size : Int) - (size + places - 1 + 1 : Nat) = -places := by omega
  have found : (withDigits? double (double.rankOf digits (10 ^ places)) size
      (size + places - 1 + 1)).isSome = true := by
    refine isSome_withDigits? digits ?_ (place ▸ digitsAt_eq few above)
    rw [place, rankIn, numerator, denominator, Int.neg_neg, Int.toNat_natCast]
    have none : (-(places : Int)).toNat = 0 := by omega
    rw [none]
    exact congrArg (double.rankOf · _) (Nat.mul_one digits)
  have nonzero : double.rankOf digits (10 ^ places) ≠ 0 := by
    intro zero
    have none : double.units 0 = 0 := if_pos double.stride_pos
    rw [zero, none] at unit
    exact absurd unit (Nat.not_le_of_lt double.one_pos)
  rw [← order] at found
  obtain ⟨less, within, shown⟩ := exists_withDigits?_shortestOfRank nonzero
    (Nat.lt_trans fewer (by decide)) found
  rw [order] at shown
  exact isPlain_of_withDigits? size positive (Nat.le_trans (Nat.le_add_right _ _) short)
    (Nat.lt_of_le_of_lt within fewer) lower upper shown

end Few

end PromScribe.Decimal

/-!
# Binary numbers

A binary layout fixes how many binary digits a number has and which binary orders it knows. Its
numbers without sign are ranked from zero upwards, so neighbours have neighbouring ranks, and every
finite number is a sign and a rank.
-/

namespace PromScribe.Binary

/-- The binary digits of a number, the places behind the point of the smallest one, and the count
of binary orders. -/
structure Layout where
  precision : Nat
  places : Nat
  orders : Nat
deriving DecidableEq, Repr

/-- Sixty-four bits. -/
def double : Layout := ⟨53, 1074, 2047⟩

/-- Thirty-two bits. -/
def single : Layout := ⟨24, 149, 255⟩

/-- The count of ranks within one binary order. -/
def Layout.stride (layout : Layout) : Nat := Nat.pow 2 (layout.precision - 1)

/-- The count of finite numbers without sign. -/
def Layout.ranks (layout : Layout) : Nat := layout.orders * layout.stride

/-- The number of a rank, in units of the smallest number. -/
def Layout.units (layout : Layout) (rank : Nat) : Nat :=
  if rank < layout.stride then rank
  else (layout.stride + rank % layout.stride) * Nat.pow 2 (rank / layout.stride - 1)

/-- The units of one. -/
def Layout.one (layout : Layout) : Nat := Nat.pow 2 layout.places

/-- The whole number nearest to a quotient; a half goes to the even neighbour. -/
def roundQuotient (numerator denominator : Nat) : Nat :=
  let quotient := numerator / denominator
  let twice := 2 * (numerator % denominator)
  if twice < denominator then quotient
  else if denominator < twice then quotient + 1
  else quotient + quotient % 2

/-- The rank of the number nearest to `numerator / denominator`; a half goes to the even rank.
Ranks that are not finite stand for numbers too large for the layout. -/
def Layout.rankOf (layout : Layout) (numerator denominator : Nat) : Nat :=
  let scaled := numerator * layout.one
  let order := Nat.log2 (scaled / denominator) + 1 - layout.precision
  order * layout.stride + roundQuotient scaled (denominator * Nat.pow 2 order)

end PromScribe.Binary

namespace PromScribe

open Binary

/-- A finite number of a binary layout. -/
structure Finite (layout : Layout) where
  negative : Bool
  rank : Nat
  rank_lt : rank < layout.ranks
deriving DecidableEq

/-- A number of a binary layout, possibly infinite or undefined. -/
inductive Scalar (layout : Layout) where
  | finite (number : Finite layout)
  | infinite (negative : Bool)
  | undefined
deriving DecidableEq

/-- Finite numbers of sixty-four bits. -/
abbrev Double := Finite Binary.double

namespace Finite

variable {layout : Layout}

/-- The units of the number without its sign. -/
def units (number : Finite layout) : Nat := layout.units number.rank

/-- The number is zero, with either sign. -/
def isZero (number : Finite layout) : Bool := number.rank == 0

/-- The number with the opposite sign. -/
def negated (number : Finite layout) : Finite layout :=
  { number with negative := !number.negative }

/-- The number nearest to a quotient with a sign, unless it is too large. -/
def ofQuotient? (negative : Bool) (numerator denominator : Nat) : Option (Finite layout) :=
  let rank := layout.rankOf numerator denominator
  if bound : rank < layout.ranks then some ⟨negative, rank, bound⟩ else none

/-- The nearest number, infinite when it is too large. -/
def nearest (negative : Bool) (numerator denominator : Nat) :
    Scalar layout :=
  match ofQuotient? negative numerator denominator with
  | some number => .finite number
  | none => .infinite negative

end Finite

end PromScribe

/-!
## Arithmetic of binary numbers

Each operation gives the number nearest to the exact result.
-/

namespace PromScribe.Finite

open Binary

variable {layout : Layout}

/-- The number nearest to a natural number, unless that is too large. -/
def ofNat? (value : Nat) : Option (Finite layout) :=
  ofQuotient? false value 1

/-- The number nearest to an integer, unless that is too large. -/
def ofInt? (value : Int) : Option (Finite layout) :=
  ofQuotient? (value < 0) value.natAbs 1

/-- The number nearest to a product, unless that is too large. -/
def times? (left right : Finite layout) : Option (Finite layout) :=
  ofQuotient? (left.negative != right.negative) (left.units * right.units)
    (layout.one * layout.one)

/-- The number nearest to a quotient, unless that is too large; the divisor must not be zero. -/
def over? (left right : Finite layout) : Option (Finite layout) :=
  ofQuotient? (left.negative != right.negative) left.units right.units

/-- The number nearest to a sum of numbers without sign, unless that is too large. -/
def plus? (left right : Finite layout) : Option (Finite layout) :=
  ofQuotient? false (left.units + right.units) layout.one

/-- The number of another layout nearest to this one. -/
def convert (target : Layout) (number : Finite layout) : Scalar target :=
  nearest number.negative number.units layout.one

/-- The number without its fraction, as an integer. -/
def truncated (number : Finite layout) : Int :=
  let whole : Int := number.units / layout.one
  if number.negative then -whole else whole

/-- The number is at least zero and at most one; both zeros are at least zero. -/
def isProportion (number : Finite layout) : Bool :=
  number.isZero || (!number.negative && number.units ≤ layout.one)

end PromScribe.Finite

namespace PromScribe.Scalar

open Binary

variable {layout : Layout}

/-- The number is finite, at least zero and at most one. -/
def isProportion : Scalar layout → Bool
  | .finite number => number.isProportion
  | .infinite _ => false
  | .undefined => false

/-- The number of another layout nearest to this one. -/
def convert (target : Layout) : Scalar layout → Scalar target
  | .finite number => number.convert target
  | .infinite negative => .infinite negative
  | .undefined => .undefined

end PromScribe.Scalar

import PromScribe.Binary.Layout

/-!
# Shortest decimals

The decimal form of a binary number has the fewest digits that lead back to it. Of two such
decimals the nearer one is taken.
-/

namespace PromScribe

/-- The number `digits · 10 ^ exponent`. -/
structure Decimal where
  digits : Nat
  exponent : Int
deriving DecidableEq, Repr

namespace Decimal

open Binary

/-- Numerator of the decimal. -/
def numerator (decimal : Decimal) : Nat :=
  decimal.digits * Nat.pow 10 decimal.exponent.toNat

/-- Denominator of the decimal. -/
def denominator (decimal : Decimal) : Nat :=
  Nat.pow 10 (-decimal.exponent).toNat

/-- The rank of the binary number nearest to the decimal. -/
def rankIn (decimal : Decimal) (layout : Layout) : Nat :=
  layout.rankOf decimal.numerator decimal.denominator

/-- How many decimal digits the whole part of `numerator / denominator` has; zero or less counts
the zeros behind the point. `places` is enough to bring the quotient above one. -/
def orderOf (numerator denominator places : Nat) : Int :=
  if denominator ≤ numerator then ((Nat.toDigits 10 (numerator / denominator)).length : Int)
  else
    ((Nat.toDigits 10 (numerator * Nat.pow 10 places / denominator)).length : Int) - (places : Int)

/-- The decimal with the given count of digits that leads back to the rank, if there is one; of two
the nearer, of two equally near the even one. -/
def withDigits? (layout : Layout) (rank : Nat) (order : Int) (count : Nat) : Option Decimal :=
  let exponent := order - count
  let grown := layout.units rank * Nat.pow 10 (-exponent).toNat
  let grid := layout.one * Nat.pow 10 exponent.toNat
  let below := grown / grid
  let leadsBack := fun digits => (Decimal.mk digits exponent).rankIn layout == rank
  match leadsBack below, leadsBack (below + 1) with
  | true, true => some ⟨roundQuotient grown grid, exponent⟩
  | true, false => some ⟨below, exponent⟩
  | false, true => some ⟨below + 1, exponent⟩
  | false, false => none

/-- The exact decimal form of a rank. -/
def exact (layout : Layout) (rank : Nat) : Decimal :=
  ⟨layout.units rank * Nat.pow 5 layout.places, -(layout.places : Int)⟩

/-- The shortest decimal that leads back to the rank. -/
def shortestOfRank (layout : Layout) (rank : Nat) : Decimal :=
  if rank = 0 then ⟨0, 0⟩
  else
    let order := orderOf (layout.units rank) layout.one layout.places
    ((List.range 17).findSome? fun count => withDigits? layout rank order (count + 1)).getD
      (exact layout rank)

/-- The digits of the decimal without trailing zeros, and the place of its point counted from the
first digit. -/
def significant (decimal : Decimal) : List Char × Int :=
  let digits := Nat.toDigits 10 decimal.digits
  let kept := (digits.reverse.dropWhile (· == '0')).reverse
  (if kept.isEmpty then ['0'] else kept, decimal.exponent + digits.length)

end Decimal

/-- The shortest decimal of the number without its sign. -/
def Finite.decimal {layout : Binary.Layout} (number : Finite layout) : Decimal :=
  Decimal.shortestOfRank layout number.rank

/-!
## Texts of numbers

A style says where the positional form ends, whether whole numbers keep a fraction, and how an
exponent is signed.
-/

/-- Decisions about the text of a number. Numbers whose point stands at a place above `low` and up
to `high`, counted from the first digit, are positional; `none` puts no bound. -/
structure NumberStyle where
  bounds : Option (Int × Int)
  keepsFraction : Bool
  signsExponent : Bool
deriving Repr

namespace NumberStyle

/-- Numbers in documents: positional from `0.00001` up to sixteen digits, always with a fraction
or an exponent, the exponent signed. -/
def document : NumberStyle := ⟨some (-5, 16), true, true⟩

/-- As in documents, but a positive exponent has no sign. -/
def sheet : NumberStyle := ⟨some (-5, 16), true, false⟩

/-- Numbers in running text: never an exponent, a fraction only where there is one. -/
def running : NumberStyle := ⟨none, false, true⟩

/-- The positional text of digits with the point at `point`. -/
def positional (style : NumberStyle) (digits : List Char) (point : Int) : List Char :=
  if point ≤ 0 then '0' :: '.' :: (List.replicate (-point).toNat '0' ++ digits)
  else
    let place := point.toNat
    if digits.length ≤ place then
      digits ++ List.replicate (place - digits.length) '0' ++
        (if style.keepsFraction then ['.', '0'] else [])
    else digits.take place ++ '.' :: digits.drop place

/-- The text with an exponent of digits with the point at `point`. -/
def exponential (style : NumberStyle) (digits : List Char) (point : Int) : List Char :=
  let exponent := point - 1
  let mantissa :=
    match digits with
    | [] => ['0']
    | [digit] => [digit]
    | digit :: rest => digit :: '.' :: rest
  let sign := if exponent < 0 then ['-'] else if style.signsExponent then ['+'] else []
  mantissa ++ 'e' :: (sign ++ Nat.toDigits 10 exponent.natAbs)

/-- The text of a decimal. -/
def decimalText (style : NumberStyle) (decimal : Decimal) : List Char :=
  if decimal.digits = 0 then '0' :: (if style.keepsFraction then ['.', '0'] else [])
  else
    let (digits, point) := decimal.significant
    match style.bounds with
    | none => style.positional digits point
    | some (low, high) =>
        if low < point && point ≤ high then style.positional digits point
        else style.exponential digits point

/-- The text of a finite number. -/
def chars {layout : Binary.Layout} (style : NumberStyle) (number : Finite layout) : List Char :=
  (if number.negative then ['-'] else []) ++ style.decimalText number.decimal

/-- The string of a finite number. -/
def text {layout : Binary.Layout} (style : NumberStyle) (number : Finite layout) : String :=
  String.ofList (style.chars number)

end NumberStyle

/-- The text of a number in running text. -/
def Scalar.text {layout : Binary.Layout} : Scalar layout → String
  | .finite number => NumberStyle.running.text number
  | .infinite false => "inf"
  | .infinite true => "-inf"
  | .undefined => "NaN"

/-- The seconds of a span as a double: whole seconds and fraction are rounded one by one. -/
def secondsText (wholeSeconds subseconds : Nat) : String :=
  let sum : Option Double := do
    let whole ← Finite.ofNat? wholeSeconds
    let fraction ← Finite.ofQuotient? false subseconds 1000000000
    whole.plus? fraction
  (sum.map NumberStyle.running.text).getD ""

end PromScribe

import PromScribe.Json.Value

/-!
# Written numbers

The number that a literal stands for. Integers of 64 bits are exact. Every other literal is taken
as a significand of at most 64 bits, further digits dropped, times a power of ten, and each of the
two roundings, of the significand and of the product, goes to the nearest double.
-/

namespace PromScribe

/-- The parts of a written number. -/
structure NumberLiteral where
  negative : Bool
  whole : List Char
  fraction : Option (List Char)
  /-- Whether the exponent is negative, and its digits. -/
  exponent : Option (Bool × List Char)
deriving Repr

namespace NumberLiteral

/-- The value of a digit. -/
def digitOf (c : Char) : Nat := c.toNat - '0'.toNat

/-- The value of a row of digits. -/
def naturalOf (digits : List Char) : Nat :=
  digits.foldl (fun value digit => value * 10 + digitOf digit) 0

/-- Takes digits as long as the significand keeps within 64 bits; gives the digits left. -/
def absorb (significand : Nat) : List Char → Nat × List Char
  | [] => (significand, [])
  | digit :: rest =>
      let next := significand * 10 + digitOf digit
      if next < Nat.pow 2 64 then absorb next rest else (significand, digit :: rest)

/-- The largest power of ten that is a double. -/
def largestPower : Nat := 308

/-- The number times a power of ten of at most `largestPower`. -/
def scaleOnce? (number : Double) (exponent : Int) : Option Double := do
  let power : Double ← Finite.ofNat? (Nat.pow 10 exponent.natAbs)
  if exponent < 0 then number.over? power else number.times? power

/-- The double nearest to the significand, times a power of ten; nothing if it is too large. -/
def scaled? (significand : Nat) (exponent : Int) : Option Double := do
  let number : Double ← Finite.ofNat? significand
  if exponent.natAbs ≤ largestPower then scaleOnce? number exponent
  else if number.isZero then some number
  else if 0 < exponent then none
  else
    let smaller ← scaleOnce? number (-largestPower)
    if (exponent + largestPower).natAbs ≤ largestPower then
      scaleOnce? smaller (exponent + largestPower)
    else Finite.ofNat? 0

/-- The power of ten of the exponent part. -/
def exponentValue (literal : NumberLiteral) : Int :=
  match literal.exponent with
  | none => 0
  | some (true, digits) => -(naturalOf digits : Int)
  | some (false, digits) => naturalOf digits

/-- The number with the literal's sign. -/
def signed (literal : NumberLiteral) (number : Double) : Double :=
  if literal.negative then number.negated else number

/-- The number that the literal stands for; nothing if it is too large. -/
def value? (literal : NumberLiteral) : Option JsonNumber :=
  let (significand, left) := absorb 0 literal.whole
  if literal.fraction.isNone && literal.exponent.isNone && left.isEmpty then
    if !literal.negative then some (.integer significand)
    else if 0 < significand && significand ≤ Nat.pow 2 63 then some (.integer (-significand))
    else (Finite.ofNat? significand).map fun number => .double (literal.signed number)
  else
    let digits := literal.fraction.getD []
    let (significand, unread) := absorb significand digits
    let shift : Int := left.length - ((digits.length - unread.length : Nat) : Int)
    (scaled? significand (shift + literal.exponentValue)).map fun number =>
      .double (literal.signed number)

/-- The literal at the head of a text with its length. A zero is followed by no digit; a point and
an exponent mark are followed by at least one. -/
def atHead? (text : List Char) : Option (NumberLiteral × Nat) :=
  let negative := text.head? == some '-'
  let unsigned := if negative then text.drop 1 else text
  let whole := unsigned.takeWhile Char.isDigit
  let afterWhole := unsigned.drop whole.length
  if whole.isEmpty || (whole.head? == some '0' && 1 < whole.length) then none
  else do
    let fraction ← fractionAtHead? afterWhole
    let afterFraction := afterWhole.drop (fraction.elim 0 fun digits => digits.length + 1)
    let exponent ← exponentAtHead? afterFraction
    let literal : NumberLiteral := ⟨negative, whole, fraction, exponent.map fun part => part.1⟩
    let length := (if negative then 1 else 0) + whole.length +
      (fraction.elim 0 fun digits => digits.length + 1) + exponent.elim 0 fun part => part.2
    return (literal, length)
where
  /-- The digits after a point, if there is one. -/
  fractionAtHead? : List Char → Option (Option (List Char))
    | '.' :: rest =>
        let digits := rest.takeWhile Char.isDigit
        if digits.isEmpty then none else some (some digits)
    | _ => some none
  /-- Sign and digits of an exponent with their length, if there is one. -/
  exponentAtHead? : List Char → Option (Option ((Bool × List Char) × Nat))
    | mark :: rest =>
        if mark = 'e' || mark = 'E' then
          let signed := rest.head? == some '+' || rest.head? == some '-'
          let digits := (if signed then rest.drop 1 else rest).takeWhile Char.isDigit
          if digits.isEmpty then none
          else some (some ((rest.head? == some '-', digits),
            1 + (if signed then 1 else 0) + digits.length))
        else some none
    | [] => some none

end NumberLiteral

end PromScribe

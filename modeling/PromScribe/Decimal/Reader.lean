import PromScribe.Binary.Layout

/-!
# Reading numbers

Integers and decimal fractions in running text. A fraction may lack the digits on one side of its
point, may have an exponent, and is taken as the nearest double; infinity and the undefined number
are written as words.
-/

namespace PromScribe.NumberReader

/-- The number that digits write. -/
def naturalOf (digits : List Char) : Nat :=
  digits.foldl (fun value digit => value * 10 + (digit.toNat - '0'.toNat)) 0

/-- Takes a sign off a text; whether it is negative, and the rest. -/
def splitSign : List Char → Bool × List Char
  | '-' :: rest => (true, rest)
  | '+' :: rest => (false, rest)
  | text => (false, text)

/-- The number of a non-empty row of digits. -/
def digits? (text : List Char) : Option Nat :=
  if text.isEmpty || !text.all Char.isDigit then none else some (naturalOf text)

/-- The integer that a text writes, with or without a sign. -/
def integer? (text : String) : Option Int :=
  let (negative, rest) := splitSign text.toList
  (digits? rest).map fun value => if negative then -value else value

/-- The exponent that stands behind the digits of a fraction. -/
def exponent? : List Char → Option Int
  | [] => some 0
  | mark :: rest =>
      if mark = 'e' || mark = 'E' then
        let (negative, digits) := splitSign rest
        (digits? digits).map fun value => if negative then -value else value
      else none

/-- Powers of ten with which every double is either zero or too large. -/
def reach : Int := 400

/-- The double nearest to `significand * 10 ^ exponent`. -/
def scaled (negative : Bool) (significand : Nat) (exponent : Int) : Scalar Binary.double :=
  let place := (Nat.toDigits 10 significand).length + exponent
  if significand = 0 || place < -reach then Finite.nearest negative 0 1
  else if reach < place then .infinite negative
  else if exponent < 0 then Finite.nearest negative significand (Nat.pow 10 exponent.natAbs)
  else Finite.nearest negative (significand * Nat.pow 10 exponent.natAbs) 1

/-- The number that digits, a point and an exponent write. -/
def unsigned? (negative : Bool) (text : List Char) : Option (Scalar Binary.double) :=
  let whole := text.takeWhile Char.isDigit
  let afterWhole := text.drop whole.length
  let fraction := if afterWhole.head? = some '.' then (afterWhole.drop 1).takeWhile Char.isDigit else []
  let afterFraction :=
    if afterWhole.head? = some '.' then afterWhole.drop (fraction.length + 1) else afterWhole
  if whole.isEmpty && fraction.isEmpty then none
  else
    (exponent? afterFraction).map fun exponent =>
      scaled negative (naturalOf (whole ++ fraction)) (exponent - fraction.length)

/-- The number that a text writes. -/
def real? (text : String) : Option (Scalar Binary.double) :=
  let (negative, rest) := splitSign text.toList
  let word := String.ofList (rest.map Char.toLower)
  if word = "inf" || word = "infinity" then some (.infinite negative)
  else if word = "nan" then some .undefined
  else unsigned? negative rest

end PromScribe.NumberReader

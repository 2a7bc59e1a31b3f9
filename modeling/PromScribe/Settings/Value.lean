import PromScribe.Decimal.Reader
import PromScribe.Decimal.Shortest
import PromScribe.Text.Lower

/-!
# Setting values

Values as the sources of settings hold them, in tables that may be nested. Where a setting wants
another kind of value, texts, numbers and truth values are converted into each other.
-/

namespace PromScribe

/-- A value of a source. -/
inductive SettingValue where
  | nothing
  | truth (value : Bool)
  /-- A number of sixty-four bits with sign. -/
  | integer (value : Int)
  | real (value : Scalar Binary.double)
  | text (value : String)
  | list (items : List SettingValue)
  | table (entries : List (String × SettingValue))

namespace SettingValue

/-- The smallest and largest integers. -/
def isInteger (value : Int) : Bool :=
  -(Nat.pow 2 63 : Int) ≤ value && value < (Nat.pow 2 63 : Int)

/-- The truth value that a word stands for where numbers are wanted too. -/
def wordTruth? (word : String) : Option Bool :=
  let word := Text.lowerString word
  if ["true", "on", "yes"].contains word then some true
  else if ["false", "off", "no"].contains word then some false
  else none

/-- The largest natural number of sixty-four bits. -/
def maxWord : Nat := Nat.pow 2 64 - 1

/-- The nearest whole number, a half away from zero, brought into the range of natural numbers of
sixty-four bits. -/
def roundedWord : Scalar Binary.double → Nat
  | .finite number =>
      if number.negative then 0
      else Nat.min maxWord ((2 * number.units + Binary.double.one) / (2 * Binary.double.one))
  | .infinite negative => if negative then 0 else maxWord
  | .undefined => 0

/-- The value as a text. -/
def text? : SettingValue → Option String
  | .text value => some value
  | .truth value => some (if value then "true" else "false")
  | .integer value => some (toString value)
  | .real value => some value.text
  | _ => none

/-- The value as a truth value. -/
def truth? : SettingValue → Option Bool
  | .truth value => some value
  | .integer value => some (value != 0)
  | .real (.finite number) => some !number.isZero
  | .real _ => some true
  | .text "1" => some true
  | .text "0" => some false
  | .text word => wordTruth? word
  | _ => none

/-- The natural number of sixty-four bits that a text writes; a leading plus sign may stand. -/
def textWord? (text : String) : Option Nat :=
  match wordTruth? text with
  | some value => some (if value then 1 else 0)
  | none =>
      if text.toList.head? = some '-' then none
      else
        (NumberReader.integer? text).bind fun value =>
          if value.toNat ≤ maxWord then some value.toNat else none

/-- The value as a natural number below a bound. -/
def word? (bound : Nat) (value : SettingValue) : Option Nat :=
  let word? : Option Nat :=
    match value with
    | .integer number => if 0 ≤ number then some number.toNat else none
    | .truth value => some (if value then 1 else 0)
    | .real number => some (roundedWord number)
    | .text written => textWord? written
    | _ => none
  word?.bind fun number => if number < bound then some number else none

/-- The double that an integer, a truth value or a text stands for. -/
def real? : SettingValue → Option (Scalar Binary.double)
  | .real value => some value
  | .integer value => some (Finite.nearest (value < 0) value.natAbs 1)
  | .truth value => some (Finite.nearest false (if value then 1 else 0) 1)
  | .text written =>
      match wordTruth? written with
      | some value => some (Finite.nearest false (if value then 1 else 0) 1)
      | none => NumberReader.real? written
  | _ => none

/-- The value as a number of thirty-two bits. -/
def single? (value : SettingValue) : Option (Scalar Binary.single) :=
  value.real?.map (·.convert Binary.single)

/-- A value of the environment: a truth value, a number, or the text itself. -/
def ofVariable (text : String) : SettingValue :=
  let word := Text.lowerString text
  if word = "true" then .truth true
  else if word = "false" then .truth false
  else
    match (NumberReader.integer? text).filter isInteger with
    | some value => .integer value
    | none =>
        match NumberReader.real? text with
        | some value => .real value
        | none => .text text

end SettingValue

end PromScribe

import PromScribe.Text.Bytes

/-!
# Digits of bytes

Numbers and bytes are spelled in digits to the base of sixteen, or in letters to the base of sixty-four.
-/

/-!
## Hexadecimal digits

Digits to the base of sixteen. They are read in both cases.
-/

namespace PromScribe.Text

/-- The value of a hexadecimal digit. -/
def hexDigit? (c : Char) : Option Nat :=
  if c.isDigit then some (c.toNat - '0'.toNat)
  else if 'a' ≤ c && c ≤ 'f' then some (c.toNat - 'a'.toNat + 10)
  else if 'A' ≤ c && c ≤ 'F' then some (c.toNat - 'A'.toNat + 10)
  else none

/-- The number of a row of digits to a base of at most sixteen; there must be a digit. -/
def basedNumber? (base : Nat) (digits : List Char) : Option Nat := do
  if digits.isEmpty then none
  let values ← digits.mapM fun c => (hexDigit? c).filter (· < base)
  return values.foldl (fun number digit => number * base + digit) 0

/-- The character that hexadecimal digits number. -/
def charOfHex? (digits : List Char) : Option Char := do
  let code ← basedNumber? 16 digits
  if h : code.isValidChar then some (Char.ofNatAux code h) else none

/-- The small hexadecimal digit of a number below sixteen. -/
def smallHexDigit (value : Nat) : Char :=
  if value < 10 then Char.ofNat ('0'.toNat + value) else Char.ofNat ('a'.toNat + (value - 10))

/-- The capital hexadecimal digit of a number below sixteen. -/
def capitalHexDigit (value : Nat) : Char :=
  if value < 10 then Char.ofNat ('0'.toNat + value) else Char.ofNat ('A'.toNat + (value - 10))

/-- The digits of a number in capital letters, filled up with zeros to a width. -/
def capitalHexDigits : Nat → Nat → List Char
  | 0, _ => []
  | width + 1, number => capitalHexDigits width (number / 16) ++ [capitalHexDigit (number % 16)]

theorem length_capitalHexDigits (width number : Nat) :
    (capitalHexDigits width number).length = width := by
  induction width generalizing number with
  | zero => rfl
  | succ width ih => simp [capitalHexDigits, ih]

/-!
## Base64

Bytes in groups of three become groups of four letters; a short last group is filled up with equals
signs.
-/

/-- The letter of a number below sixty-four. -/
def base64Letter (value : Nat) : Char :=
  if value < 26 then Char.ofNat ('A'.toNat + value)
  else if value < 52 then Char.ofNat ('a'.toNat + (value - 26))
  else if value < 62 then Char.ofNat ('0'.toNat + (value - 52))
  else if value = 62 then '+'
  else '/'

/-- The letters of bytes. -/
def base64Letters : List Nat → List Char
  | [] => []
  | [first] => [base64Letter (first / 4), base64Letter (first % 4 * 16), '=', '=']
  | [first, second] =>
      [base64Letter (first / 4), base64Letter (first % 4 * 16 + second / 16),
        base64Letter (second % 16 * 4), '=']
  | first :: second :: third :: rest =>
      base64Letter (first / 4) :: base64Letter (first % 4 * 16 + second / 16) ::
        base64Letter (second % 16 * 4 + third / 64) :: base64Letter (third % 64) ::
        base64Letters rest

/-- The letters of the bytes of a string. -/
def base64 (text : String) : String :=
  String.ofList (base64Letters (bytes text.toList))

theorem length_base64Letters (data : List Nat) :
    (base64Letters data).length = (data.length + 2) / 3 * 4 := by
  fun_induction base64Letters data with
  | case1 => rfl
  | case2 first => simp
  | case3 first second => simp
  | case4 first second third rest ih =>
      simp only [List.length_cons, ih]
      omega

end PromScribe.Text

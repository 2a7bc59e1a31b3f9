import PromScribe.Text.Digits
import PromScribe.Text.Literal
import PromScribe.Decimal.Reader

/-!
# Hosts

A host is a name, four numbers, or eight numbers within brackets. Four numbers may be written with
fewer points and to other bases, eight numbers with a gap for zeros; both are put into their usual
form.
-/

namespace PromScribe.Http

open Text

/-- Why a text is no host. -/
inductive HostFault where
  | absent
  | badName
  | badCharacter
  | badFour
  | badEight
deriving DecidableEq, Repr

/-- The wording of the fault. -/
def HostFault.message : HostFault → String
  | .absent => "empty host"
  | .badName => "invalid international domain name"
  | .badCharacter => "invalid domain character"
  | .badFour => "invalid IPv4 address"
  | .badEight => "invalid IPv6 address"

namespace Host

/-- Printable ASCII. -/
def isVisible (c : Char) : Bool :=
  0x20 < c.toNat && c.toNat < 0x7F

/-- A mark that no name has. -/
def isMark (c : Char) : Bool :=
  "#/:<>?@[\\]^|".toList.contains c

/-- A character that no name has. -/
def isForbidden (c : Char) : Bool :=
  !isVisible c || isMark c || c = '%'

/-- The text with the characters that stand behind percent signs as two digits; other bytes than
those of ASCII are left as they are. -/
def percentDecoded : List Char → List Char
  | [] => []
  | '%' :: a :: b :: rest =>
      match (basedNumber? 16 [a, b]).filter (· < 0x80) with
      | some code => Char.ofNat code :: percentDecoded rest
      | none => '%' :: percentDecoded (a :: b :: rest)
  | c :: rest => c :: percentDecoded rest

/-- The number that a part of a host writes: behind `0x` to the base of sixteen, behind another zero
to the base of eight. -/
def partNumber? : List Char → Option Nat
  | [] => none
  | ['0', 'x'] => some 0
  | '0' :: 'x' :: digits => basedNumber? 16 digits
  | '0' :: c :: digits => basedNumber? 8 (c :: digits)
  | digits => NumberReader.digits? digits

/-- The parts of a host between points; a point at its end does not count. -/
def partsOf (host : List Char) : List (List Char) :=
  let parts := partsBetween '.' host
  if 1 < parts.length && parts.getLast? = some [] then parts.dropLast else parts

/-- The last part of a host is a number, or digits at least. -/
def endsInNumber (host : List Char) : Bool :=
  (partsOf host).getLast?.any fun part =>
    (partNumber? part).isSome || (!part.isEmpty && part.all Char.isDigit)

/-- Bytes as one number, the highest first. -/
def ofBytes (bytes : List Nat) : Nat :=
  bytes.foldl (fun number byte => number * 256 + byte) 0

/-- The number of four bytes that a host writes; its last part stands for all bytes that are left. -/
def fourBytes? (host : List Char) : Option Nat := do
  let numbers ← (partsOf host).mapM partNumber?
  let last ← numbers.getLast?
  let first := numbers.dropLast
  if 3 < first.length || first.any (256 ≤ ·) || Nat.pow 256 (4 - first.length) ≤ last then none
  return ofBytes first * Nat.pow 256 (4 - first.length) + last

/-- Four bytes with points between them. -/
def fourText (number : Nat) : String :=
  joined "." ([16777216, 65536, 256, 1].map fun unit => toString (number / unit % 256))

/-- The number below 256 that digits write without a needless zero. -/
def byteOf? (digits : List Char) : Option Nat :=
  if digits.length ≤ 3 && (digits.length = 1 || digits.head? != some '0') then
    (NumberReader.digits? digits).filter (· < 256)
  else none

/-- The two numbers of sixteen bits that four bytes with points between them write. -/
def lastPair? (text : List Char) : Option (List Nat) := do
  let bytes ← (partsBetween '.' text).mapM byteOf?
  match bytes with
  | [a, b, c, d] => return [a * 256 + b, c * 256 + d]
  | _ => none

/-- The numbers of sixteen bits between colons; the last two may be written as four bytes. -/
def wordsOf? (mayEndInBytes : Bool) (text : List Char) : Option (List Nat) :=
  if text.isEmpty then some []
  else
    let parts := partsBetween ':' text
    let last := parts.getLastD []
    let word? := fun (part : List Char) =>
      if part.length ≤ 4 then basedNumber? 16 part else none
    if mayEndInBytes && last.contains '.' then do
      let words ← parts.dropLast.mapM word?
      return words ++ (← lastPair? last)
    else parts.mapM word?

/-- The text before and after the first two colons in a row. -/
def gap? : List Char → Option (List Char × List Char)
  | ':' :: ':' :: rest => some ([], rest)
  | c :: rest => (gap? rest).map fun parts => (c :: parts.1, parts.2)
  | [] => none

/-- The eight numbers that a text writes; a gap stands for at least one zero. -/
def eightWords? (text : List Char) : Option (List Nat) :=
  match gap? text with
  | none => (wordsOf? true text).filter (·.length = 8)
  | some (before, after) => do
      let first ← wordsOf? false before
      let last ← wordsOf? true after
      if 8 ≤ first.length + last.length then none
      return first ++ List.replicate (8 - (first.length + last.length)) 0 ++ last

/-- How many zeros stand at the head of the numbers. -/
def zeroRun (words : List Nat) : Nat :=
  (words.takeWhile (· == 0)).length

/-- The place and the length of the first longest row of zeros. -/
def longestRun (place : Nat) : List Nat → Nat × Nat
  | [] => (place, 0)
  | word :: rest =>
      let here := zeroRun (word :: rest)
      let later := longestRun (place + 1) rest
      if later.2 ≤ here then (place, here) else later

/-- Numbers to the base of sixteen with colons between them. -/
def wordsText (words : List Nat) : String :=
  joined ":" (words.map fun word => String.ofList (Nat.toDigits 16 word))

/-- Eight numbers within brackets; the longest row of at least two zeros is a gap. -/
def eightText (words : List Nat) : String :=
  let (place, count) := longestRun 0 words
  let inner :=
    if count < 2 then wordsText words
    else wordsText (words.take place) ++ "::" ++ wordsText (words.drop (place + count))
  "[" ++ inner ++ "]"

/-- The host within brackets, whose opening bracket was taken. -/
def readBracketed (text : List Char) : Except HostFault String :=
  if text.getLast? = some ']' then
    match eightWords? text.dropLast with
    | some words => .ok (eightText words)
    | none => .error .badEight
  else .error .badEight

/-- The host that a name or four numbers write. -/
def readNamed (text : List Char) : Except HostFault String :=
  let name := (percentDecoded text).map Char.toLower
  if name.isEmpty then .error .absent
  else if name.any isForbidden then .error .badName
  else if endsInNumber name then
    match fourBytes? name with
    | some number => .ok (fourText number)
    | none => .error .badFour
  else .ok (String.ofList name)

/-- The host that a text writes where hosts have their usual forms. -/
def read : List Char → Except HostFault String
  | [] => .error .absent
  | '[' :: text => readBracketed text
  | text => readNamed text

/-- The host that a text writes where names mean nothing but themselves. -/
def readOpaque : List Char → Except HostFault String
  | '[' :: text => readBracketed text
  | text => if text.any fun c => c = ' ' || isMark c then .error .badCharacter else .ok (String.ofList text)

end Host

end PromScribe.Http

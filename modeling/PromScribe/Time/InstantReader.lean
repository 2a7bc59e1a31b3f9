import PromScribe.Time.Instant
import PromScribe.Text.Blank
import PromScribe.Text.Bytes

/-!
# Reading instants

Two forms are read. The strict one is a date, a `T` or a space, a time of day with an optional
fraction, and an offset. The lenient one also takes blanks between the parts, numbers with fewer
digits, signed years, and `UTC` for the offset.
-/

namespace PromScribe

/-- Why a text is no instant. -/
inductive InstantFault where
  | tooShort
  | invalid
  | outOfRange
  | trailing
deriving DecidableEq, Repr

/-- The wording of the fault. -/
def InstantFault.message : InstantFault → String
  | .tooShort => "premature end of input"
  | .invalid => "input contains invalid characters"
  | .outOfRange => "input is out of range"
  | .trailing => "trailing input"

namespace InstantReader

open PromScribe.Text PromScribe.Calendar

/-- Fails unless a condition holds. -/
def ensure (condition : Bool) (fault : InstantFault) : Except InstantFault Unit :=
  if condition then .ok () else .error fault

/-- The value of a row of digits. -/
def digitsValue (digits : List Char) : Nat :=
  digits.foldl (fun value digit => value * 10 + (digit.toNat - '0'.toNat)) 0

/-- A number of at least one and at most `most` digits. -/
def number (most : Nat) (text : List Char) : Except InstantFault (Nat × List Char) :=
  let digits := (text.take most).takeWhile Char.isDigit
  if text.isEmpty then .error .tooShort
  else if digits.isEmpty then .error .invalid
  else .ok (digitsValue digits, text.drop digits.length)

/-- One given character. -/
def mark (expected : Char) : List Char → Except InstantFault (List Char)
  | [] => .error .tooShort
  | c :: rest => if c = expected then .ok rest else .error .invalid

/-- The digits behind the point of a second, in nanoseconds; further digits are dropped. -/
def fraction (text : List Char) : Except InstantFault (Nat × List Char) := do
  let (value, rest) ← number 9 text
  let scale := Nat.pow 10 (9 - (text.length - rest.length))
  return (value * scale, rest.dropWhile Char.isDigit)

/-- The fraction of a second, zero where there is no point. -/
def optionalFraction : List Char → Except InstantFault (Nat × List Char)
  | '.' :: rest => fraction rest
  | rest => .ok (0, rest)

/-- Two digits; the first of them is at most `high`, else they are out of range. -/
def twoDigits (high : Nat) : List Char → Except InstantFault (Nat × List Char)
  | first :: second :: rest =>
      if first.isDigit && second.isDigit then
        let value := digitsValue [first, second]
        if value / 10 ≤ high then .ok (value, rest) else .error .outOfRange
      else .error .invalid
  | _ => .error .tooShort

/-- An offset in seconds: `Z`, or a sign, hours, what `between` takes, and minutes. -/
def offset (between : List Char → Except InstantFault (List Char)) (text : List Char) :
    Except InstantFault (Int × List Char) :=
  match text with
  | [] => .error .tooShort
  | sign :: rest =>
      if sign = 'Z' || sign = 'z' then .ok (0, rest)
      else if sign = '+' || sign = '-' || sign = '−' then do
        let (hours, rest) ← twoDigits 9 rest
        let rest ← between rest
        let (minutes, rest) ← twoDigits 5 rest
        let seconds : Int := hours * 3600 + minutes * 60
        return (if sign = '+' then seconds else -seconds, rest)
      else .error .invalid

/-- The instant of a date, a time of day and an offset, all of them in range, as it must be
itself. -/
def assemble (date : Date) (hour minute second nanosecond : Nat) (offset : Int) :
    Except InstantFault Instant :=
  if !(date.isValid && Instant.yearSupported date.year) then .error .outOfRange
  else if 24 ≤ hour || 60 ≤ minute || 61 ≤ second then .error .outOfRange
  else if 86400 ≤ offset.natAbs then .error .outOfRange
  else
    let leap := second == 60
    let seconds : Int := hour * 3600 + minute * 60 + (if leap then 59 else second : Nat)
    let instant : Instant := ⟨date.dayNumber * 86400 + seconds - offset,
      nanosecond + (if leap then 1000000000 else 0)⟩
    if Instant.yearSupported instant.year then .ok instant else .error .outOfRange

/-- The digit at a place of a text. -/
def digitAt (text : List Char) (place : Nat) : Except InstantFault Nat :=
  match text[place]? with
  | some c => if c.isDigit then .ok (c.toNat - '0'.toNat) else .error .invalid
  | none => .error .invalid

/-- The two-digit number at a place of a text. -/
def pairAt (text : List Char) (place : Nat) : Except InstantFault Nat := do
  return (← digitAt text place) * 10 + (← digitAt text (place + 1))

/-- One of some characters stands at a place of a text. -/
def markAt (text : List Char) (place : Nat) (marks : List Char) : Except InstantFault Unit :=
  if (text[place]?).any marks.contains then .ok () else .error .invalid

/-- Reads the strict form. -/
def strict (text : List Char) : Except InstantFault Instant := do
  ensure (19 ≤ byteLength text) .tooShort
  let year := (← pairAt text 0) * 100 + (← pairAt text 2)
  markAt text 4 ['-']
  let month ← pairAt text 5
  markAt text 7 ['-']
  let day ← pairAt text 8
  let date : Date := ⟨year, month, day⟩
  ensure date.isValid .outOfRange
  markAt text 10 ['T', 't', ' ']
  let hour ← pairAt text 11
  markAt text 13 [':']
  let minute ← pairAt text 14
  markAt text 16 [':']
  let second ← pairAt text 17
  let (nanosecond, rest) ← optionalFraction (text.drop 19)
  ensure (hour < 24 && minute < 60 && second < 61) .outOfRange
  let (seconds, rest) ← offset (mark ':') rest
  ensure rest.isEmpty .trailing
  assemble date hour minute second nanosecond seconds

/-- The text without leading blanks. -/
def skipBlanks (text : List Char) : List Char :=
  text.dropWhile isBlank

/-- A year, in at most four digits unless it has a sign. -/
def lenientYear (text : List Char) : Except InstantFault (Int × List Char) :=
  match skipBlanks text with
  | '-' :: rest => do
      let (value, rest) ← number rest.length rest
      return (-(value : Int), rest)
  | '+' :: rest => do
      let (value, rest) ← number rest.length rest
      return ((value : Int), rest)
  | rest => do
      let (value, rest) ← number 4 rest
      return ((value : Int), rest)

/-- A number of one or two digits after blanks. -/
def lenientPair (text : List Char) : Except InstantFault (Nat × List Char) :=
  number 2 (skipBlanks text)

/-- One given character after blanks. -/
def lenientMark (expected : Char) (text : List Char) : Except InstantFault (List Char) :=
  mark expected (skipBlanks text)

/-- What stands between date and time of day. -/
def separator : List Char → Except InstantFault (List Char)
  | [] => .error .tooShort
  | c :: rest => if ['T', 't', ' '].contains c then .ok rest else .error .invalid

/-- An offset after blanks; `UTC` in any case is none. -/
def lenientOffset (text : List Char) : Except InstantFault (Int × List Char) :=
  match skipBlanks text with
  | first :: second :: third :: rest =>
      if [first, second, third].map Char.toUpper = ['U', 'T', 'C'] then .ok (0, rest)
      else offset dropSeparators (first :: second :: third :: rest)
  | rest => offset dropSeparators rest
where
  /-- The text without leading colons and blanks. -/
  dropSeparators (text : List Char) : Except InstantFault (List Char) :=
    .ok (text.dropWhile fun c => c == ':' || isBlank c)

/-- Reads the lenient form. -/
def lenient (text : List Char) : Except InstantFault Instant := do
  let (year, rest) ← lenientYear text
  let rest ← lenientMark '-' rest
  let (month, rest) ← lenientPair rest
  let rest ← lenientMark '-' rest
  let (day, rest) ← lenientPair rest
  let rest ← separator rest
  let (hour, rest) ← lenientPair rest
  let rest ← lenientMark ':' rest
  let (minute, rest) ← lenientPair rest
  let rest ← lenientMark ':' rest
  let (second, rest) ← lenientPair rest
  let (nanosecond, rest) ← optionalFraction rest
  let (seconds, rest) ← lenientOffset rest
  ensure (skipBlanks rest).isEmpty .trailing
  assemble ⟨year, month, day⟩ hour minute second nanosecond seconds

end InstantReader

/-- The instant that a text in strict form denotes. -/
def Instant.read (text : String) : Except InstantFault Instant :=
  InstantReader.strict text.toList

/-- The instant that a text in lenient form denotes. -/
def Instant.readLenient (text : String) : Except InstantFault Instant :=
  InstantReader.lenient text.toList

end PromScribe

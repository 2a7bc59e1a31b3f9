import PromScribe.Time.Span
import PromScribe.Text.Blank
import PromScribe.Text.Bytes

/-!
# Reading spans of time

A written span is a row of numbers with units, such as `1h30m` or `1.5 days`. Numbers may have a
fraction that the unit divides exactly; a lone zero needs no unit. Every intermediate number has at
most 64 bits. Places in error texts count bytes.
-/

namespace PromScribe

/-- Why a text is no positive span of time. -/
inductive SpanReason where
  | empty
  | notPositive
  | numberExpected (offset : Nat)
  | invalidCharacter (offset : Nat)
  | unitNeeded (number : Nat)
  | unknownUnit (unit : String)
  | outOfRange
deriving DecidableEq, Repr

/-- The wording of the reason. -/
def SpanReason.message : SpanReason → String
  | .empty => "empty duration"
  | .notPositive => "duration must be positive"
  | .numberExpected offset => "expected number at " ++ toString offset
  | .invalidCharacter offset => "invalid character at " ++ toString offset
  | .unitNeeded number =>
      "time unit needed, for example " ++ toString number ++ "sec or " ++ toString number ++ "ms"
  | .unknownUnit unit =>
      "unknown time unit \"" ++ unit ++ "\", supported units: ns, us/µs, ms, sec, min, hours, " ++
        "days, weeks, months, years (and few variations)"
  | .outOfRange =>
      "number is too large or cannot be represented without a lack of precision " ++
        "(values below 1ns are not supported)"

/-- A text that is no positive span of time. -/
structure SpanFault where
  input : String
  reason : SpanReason
deriving DecidableEq, Repr

/-- The wording of the fault. -/
def SpanFault.message (fault : SpanFault) : String :=
  "invalid duration '" ++ fault.input ++ "': " ++ fault.reason.message

namespace SpanReader

open PromScribe.Text

/-- A unit of time: how many whole seconds or nanoseconds it has. Fractions of a unit are counted
in whole seconds or in nanoseconds as well. -/
inductive SpanUnit where
  | nanoseconds (size : Nat)
  | minutes
  | seconds (size : Nat)
deriving DecidableEq, Repr

/-- The spellings of the units. -/
def unitSpellings : List (List String × SpanUnit) :=
  [(["nanos", "nsec", "ns"], .nanoseconds 1),
    (["usec", "us", "µs"], .nanoseconds 1000),
    (["millis", "msec", "ms"], .nanoseconds 1000000),
    (["seconds", "second", "secs", "sec", "s"], .seconds 1),
    (["minutes", "minute", "min", "mins", "m"], .minutes),
    (["hours", "hour", "hr", "hrs", "h"], .seconds 3600),
    (["days", "day", "d"], .seconds 86400),
    (["weeks", "week", "wk", "wks", "w"], .seconds 604800),
    (["months", "month", "M"], .seconds 2630016),
    (["years", "year", "yr", "yrs", "y"], .seconds 31557600)]

/-- The unit with the given spelling. -/
def unitOf? (spelling : String) : Option SpanUnit :=
  (unitSpellings.find? fun unit => unit.1.contains spelling).map (·.2)

/-- Numbers have at most 64 bits. -/
def bounded (number : Nat) : Except SpanReason Nat :=
  if number < Nat.pow 2 64 then .ok number else .error .outOfRange

/-- A decimal fraction `numerator / denominator`. -/
structure Fraction where
  numerator : Nat
  denominator : Nat
deriving DecidableEq, Repr

/-- The total with some nanoseconds more. -/
def plusNanoseconds (total : Nat) (amount : Nat) : Except SpanReason Nat := do
  let _ ← bounded (total % 1000000000 + amount)
  let _ ← bounded ((total + amount) / 1000000000)
  return total + amount

/-- The total with some seconds more. -/
def plusSeconds (total : Nat) (amount : Nat) : Except SpanReason Nat := do
  let _ ← bounded (total / 1000000000 + amount)
  return total + amount * 1000000000

/-- The fraction of a unit of the given size, if it is whole. -/
def Fraction.of (fraction : Fraction) (size : Nat) : Except SpanReason Nat := do
  let product ← bounded (fraction.numerator * size)
  if product % fraction.denominator = 0 then return product / fraction.denominator
  else throw .outOfRange

/-- Adds a fraction of a unit to the total nanoseconds. -/
def addFraction (total : Nat) (fraction : Fraction) : SpanUnit → Except SpanReason Nat
  | .nanoseconds 1 => .error .outOfRange
  | .nanoseconds size => do plusNanoseconds total (← fraction.of size)
  | .seconds 1 => do plusNanoseconds total (← fraction.of 1000000000)
  | .minutes => do plusNanoseconds total (← fraction.of 60000000000)
  | .seconds size => do plusSeconds total (← fraction.of size)

/-- Adds a number of units to the total nanoseconds. -/
def addWhole (total : Nat) (number : Nat) : SpanUnit → Except SpanReason Nat
  | .nanoseconds size => do plusNanoseconds total (← bounded (number * size))
  | .minutes => do plusSeconds total (← bounded (number * 60))
  | .seconds size => do plusSeconds total (← bounded (number * size))

/-- Adds a number with its fraction and the spelling of its unit to the total nanoseconds. -/
def addGroup (total number : Nat) (fraction : Option Fraction) (spelling : String) :
    Except SpanReason Nat :=
  if spelling.isEmpty then .error (.unitNeeded number)
  else
    match unitOf? spelling with
    | none => .error (.unknownUnit spelling)
    | some unit => do
        let total ← addWhole total number unit
        match fraction with
        | none => return total
        | some fraction => addFraction total fraction unit

/-- The part of a group that is being read. -/
inductive Reading where
  /-- A number must begin; `since` is where it was looked for. -/
  | start (since : Nat)
  | whole (number : Nat)
  /-- `since` is the last place reached. -/
  | fraction (number : Nat) (fraction : Fraction) (since : Nat)
  /-- The letters of the unit, last first. -/
  | unit (number : Nat) (fraction : Option Fraction) (letters : List Char)
deriving Repr

/-- A letter of a unit. -/
def isUnitLetter (c : Char) : Bool :=
  c.isAlpha || c == 'µ'

/-- The digit's value. -/
def digitValue (c : Char) : Nat :=
  c.toNat - '0'.toNat

/-- The fraction with one digit more. -/
def Fraction.push (fraction : Fraction) (digit : Nat) : Except SpanReason Fraction := do
  return ⟨← bounded (fraction.numerator * 10 + digit), ← bounded (fraction.denominator * 10)⟩

/-- Reads one character at the byte `offset`; gives the new total and what is being read then. -/
def advance (total : Nat) (offset : Nat) (c : Char) : Reading → Except SpanReason (Nat × Reading)
  | .start since =>
      if c.isDigit then return (total, .whole (digitValue c))
      else if isBlank c then return (total, .start since)
      else throw (.numberExpected since)
  | .whole number =>
      if c.isDigit then do return (total, .whole (← bounded (number * 10 + digitValue c)))
      else if isBlank c then return (total, .whole number)
      else if isUnitLetter c then return (total, .unit number none [c])
      else if c = '.' then return (total, .fraction number ⟨0, 1⟩ offset)
      else throw (.invalidCharacter offset)
  | .fraction number fraction since =>
      if c.isDigit then do
        return (total, .fraction number (← fraction.push (digitValue c)) (offset + c.utf8Size))
      else if isBlank c then return (total, .fraction number fraction (offset + c.utf8Size))
      else if isUnitLetter c && fraction.denominator ≠ 1 then
        return (total, .unit number (some fraction) [c])
      else throw (.invalidCharacter since)
  | .unit number fraction letters =>
      if isUnitLetter c then return (total, .unit number fraction (c :: letters))
      else if c.isDigit then do
        let total ← addGroup total number fraction (String.ofList letters.reverse)
        return (total, .whole (digitValue c))
      else if isBlank c then do
        let total ← addGroup total number fraction (String.ofList letters.reverse)
        return (total, .start (offset + c.utf8Size))
      else throw (.invalidCharacter offset)

/-- The total when the text ends. -/
def finish (total : Nat) : Reading → Except SpanReason Nat
  | .start _ => return total
  | .whole number => addGroup total number none ""
  | .fraction number fraction since =>
      if fraction.denominator = 1 then throw (.invalidCharacter since)
      else addGroup total number (some fraction) ""
  | .unit number fraction letters =>
      addGroup total number fraction (String.ofList letters.reverse)

/-- The nanoseconds of a text that is read on from the byte `offset`. -/
def readFrom (total : Nat) (reading : Reading) (offset : Nat) :
    List Char → Except SpanReason Nat
  | [] => finish total reading
  | c :: rest =>
      match advance total offset c reading with
      | .error reason => .error reason
      | .ok (total, reading) => readFrom total reading (offset + c.utf8Size) rest

end SpanReader

/-- The positive span that characters denote, blanks around them ignored. -/
def TimeSpan.readChars (text : List Char) : Except SpanReason TimeSpan :=
  match Text.trim text with
  | [] => .error .empty
  | ['0'] => .error .notPositive
  | c :: rest =>
      match SpanReader.readFrom 0 (.start 0) 0 (c :: rest) with
      | .error reason => .error reason
      | .ok 0 => .error .notPositive
      | .ok nanoseconds => .ok ⟨nanoseconds⟩

/-- The positive span that a text denotes. -/
def TimeSpan.read (input : String) : Except SpanFault TimeSpan :=
  (TimeSpan.readChars input.toList).mapError fun reason => ⟨input, reason⟩

end PromScribe

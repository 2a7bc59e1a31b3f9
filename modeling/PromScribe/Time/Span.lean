/-!
# Spans of time

A span of time counts nanoseconds. Its query form names days, hours, minutes, seconds and
milliseconds, each unit that has a count at most once.
-/

namespace PromScribe

/-- A length of time. -/
structure TimeSpan where
  nanoseconds : Nat
deriving DecidableEq, Repr

namespace TimeSpan

/-- No time. -/
def zero : TimeSpan := ⟨0⟩

/-- A whole number of seconds. -/
def ofSeconds (count : Nat) : TimeSpan := ⟨count * 1000000000⟩

/-- A whole number of milliseconds. -/
def ofMillis (count : Nat) : TimeSpan := ⟨count * 1000000⟩

/-- The time that spans take one after the other. -/
def total : List TimeSpan → TimeSpan
  | [] => zero
  | span :: rest => ⟨span.nanoseconds + (total rest).nanoseconds⟩

/-- The whole seconds of the span. -/
def seconds (span : TimeSpan) : Nat := span.nanoseconds / 1000000000

/-- The nanoseconds beyond the whole seconds. -/
def subseconds (span : TimeSpan) : Nat := span.nanoseconds % 1000000000

/-- The whole milliseconds of the span. -/
def millis (span : TimeSpan) : Nat := span.nanoseconds / 1000000

/-- The span has no length. -/
def isZero (span : TimeSpan) : Bool := span.nanoseconds == 0

/-- The largest count of seconds that a span may have. -/
def maxSeconds : Nat := Nat.pow 2 64 - 1

/-- The span is within the supported range. -/
def Representable (span : TimeSpan) : Prop := span.seconds ≤ maxSeconds

/-- The units of the query form with their milliseconds, longest first. -/
def queryUnits : List (String × Nat) :=
  [("d", 86400000), ("h", 3600000), ("m", 60000), ("s", 1000), ("ms", 1)]

/-- Writes `millis` in the given units, leaving out those that have no count. -/
def writeUnits : List (String × Nat) → Nat → List Char
  | [], _ => []
  | (suffix, size) :: rest, millis =>
      let count := millis / size
      (if count = 0 then [] else Nat.toDigits 10 count ++ suffix.toList) ++
        writeUnits rest (millis - count * size)

/-- The query form of the span as characters. -/
def queryChars (span : TimeSpan) : List Char :=
  if span.millis = 0 then ['0', 's'] else writeUnits queryUnits span.millis

/-- The query form of the span, such as `1h30m`; what is below a millisecond is dropped. -/
def queryText (span : TimeSpan) : String :=
  String.ofList span.queryChars

/-- The digits of `fraction` out of `scale`, a power of ten, without trailing zeros. -/
def fractionDigits (fraction scale : Nat) : List Char :=
  let digits := ((Nat.toDigits 10 (fraction + scale)).drop 1).reverse
  (digits.dropWhile (· == '0')).reverse

/-- A count of `scale` nanoseconds with its decimal fraction. -/
def decimalText (nanoseconds scale : Nat) : String :=
  let fraction := fractionDigits (nanoseconds % scale) scale
  toString (nanoseconds / scale) ++ (if fraction.isEmpty then "" else "." ++ String.ofList fraction)

/-- The span in its largest fitting unit with a decimal fraction, such as `2.5s` or `50ms`. -/
def decimalUnitText (span : TimeSpan) : String :=
  let nanoseconds := span.nanoseconds
  if 1000000000 ≤ nanoseconds then decimalText nanoseconds 1000000000 ++ "s"
  else if 1000000 ≤ nanoseconds then decimalText nanoseconds 1000000 ++ "ms"
  else if 1000 ≤ nanoseconds then decimalText nanoseconds 1000 ++ "µs"
  else decimalText nanoseconds 1 ++ "ns"

end TimeSpan

end PromScribe

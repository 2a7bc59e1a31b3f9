import PromScribe.Time.Span

/-!
# Instants

Days of the proleptic Gregorian calendar are counted from the first of January 1970.

An instant is a point in time in seconds since then, without offset. A leap second counts as a
second second sixty of its minute: its nanoseconds go on beyond one billion.
-/

namespace PromScribe.Calendar

/-- A year with a leap day. -/
def isLeapYear (year : Int) : Bool :=
  year % 4 == 0 && (year % 100 != 0 || year % 400 == 0)

/-- The days of a month; zero where there is no such month. -/
def daysInMonth (year : Int) (month : Nat) : Nat :=
  if [1, 3, 5, 7, 8, 10, 12].contains month then 31
  else if [4, 6, 9, 11].contains month then 30
  else if month = 2 then (if isLeapYear year then 29 else 28)
  else 0

/-- A date. -/
structure Date where
  year : Int
  month : Nat
  day : Nat
deriving DecidableEq, Repr

/-- The month and the day exist. -/
def Date.isValid (date : Date) : Bool :=
  1 ≤ date.day && date.day ≤ daysInMonth date.year date.month

/-- The day number of a date. Years are counted from March, so the leap day comes last. -/
def Date.dayNumber (date : Date) : Int :=
  let year := if date.month ≤ 2 then date.year - 1 else date.year
  let era := year.fdiv 400
  let yearOfEra := year - era * 400
  let monthFromMarch : Int := (date.month + 9) % 12
  let dayOfYear := (153 * monthFromMarch + 2) / 5 + (date.day : Int) - 1
  let dayOfEra := yearOfEra * 365 + yearOfEra / 4 - yearOfEra / 100 + dayOfYear
  era * 146097 + dayOfEra - 719468

/-- The date of a day number. -/
def Date.ofDayNumber (number : Int) : Date :=
  let shifted := number + 719468
  let era := shifted.fdiv 146097
  let dayOfEra := shifted - era * 146097
  let yearOfEra := (dayOfEra - dayOfEra / 1460 + dayOfEra / 36524 - dayOfEra / 146096) / 365
  let dayOfYear := dayOfEra - (365 * yearOfEra + yearOfEra / 4 - yearOfEra / 100)
  let monthFromMarch := (5 * dayOfYear + 2) / 153
  let day := dayOfYear - (153 * monthFromMarch + 2) / 5 + 1
  let month := if monthFromMarch < 10 then monthFromMarch + 3 else monthFromMarch - 9
  let year := yearOfEra + era * 400 + (if month ≤ 2 then 1 else 0)
  ⟨year, month.toNat, day.toNat⟩

end PromScribe.Calendar

namespace PromScribe

open Calendar

/-- A point in time. -/
structure Instant where
  second : Int
  nanosecond : Nat
deriving DecidableEq, Repr

namespace Instant

/-- The instant is before the other one. -/
def before (left right : Instant) : Bool :=
  left.second < right.second ||
    (left.second == right.second && left.nanosecond < right.nanosecond)

/-- The later of two instants. -/
def latest (left right : Instant) : Instant :=
  if left.before right then right else left

/-- The years that instants may have. -/
def yearSupported (year : Int) : Bool :=
  -262143 ≤ year && year ≤ 262142

/-- The instant's day number. -/
def dayNumber (instant : Instant) : Int :=
  instant.second.fdiv 86400

/-- The seconds since the beginning of the instant's day. -/
def secondOfDay (instant : Instant) : Int :=
  instant.second - instant.dayNumber * 86400

/-- The instant's year. -/
def year (instant : Instant) : Int :=
  (Date.ofDayNumber instant.dayNumber).year

/-- The instant of a count of milliseconds, if its year is supported. -/
def ofMillis? (millis : Int) : Option Instant :=
  let second := millis.fdiv 1000
  let instant : Instant := ⟨second, (millis - second * 1000).toNat * 1000000⟩
  if yearSupported instant.year then some instant else none

/-- The number in at least `width` digits. -/
def padded (width number : Nat) : List Char :=
  let digits := Nat.toDigits 10 number
  List.replicate (width - digits.length) '0' ++ digits

/-- The year in four digits, with a sign and at least four digits outside of them. -/
def yearChars (year : Int) : List Char :=
  if 0 ≤ year && year ≤ 9999 then padded 4 year.toNat
  else (if year < 0 then '-' else '+') :: padded 4 year.natAbs

/-- Date and time of day, a leap second as second sixty. -/
def wholeSecondChars (instant : Instant) : List Char :=
  let date := Date.ofDayNumber instant.dayNumber
  let time := instant.secondOfDay.toNat
  let leap := if 1000000000 ≤ instant.nanosecond then 1 else 0
  yearChars date.year ++ '-' :: (padded 2 date.month ++ '-' :: (padded 2 date.day ++
    'T' :: (padded 2 (time / 3600) ++ ':' :: (padded 2 (time / 60 % 60) ++
      ':' :: padded 2 (time % 60 + leap)))))

/-- The nanoseconds within the second. -/
def subsecond (instant : Instant) : Nat :=
  instant.nanosecond % 1000000000

/-- The fraction in as many thousands as it needs. -/
def fractionChars (subsecond : Nat) : List Char :=
  if subsecond = 0 then []
  else if subsecond % 1000000 = 0 then '.' :: padded 3 (subsecond / 1000000)
  else if subsecond % 1000 = 0 then '.' :: padded 6 (subsecond / 1000)
  else '.' :: padded 9 subsecond

/-- The instant with its full fraction. -/
def text (instant : Instant) : String :=
  String.ofList (instant.wholeSecondChars ++ fractionChars instant.subsecond ++ ['Z'])

/-- The characters of the instant to the millisecond. -/
def millisecondChars (instant : Instant) : List Char :=
  instant.wholeSecondChars ++ '.' :: (padded 3 (instant.subsecond / 1000000) ++ ['Z'])

/-- The instant to the millisecond. -/
def millisecondText (instant : Instant) : String :=
  String.ofList instant.millisecondChars

/-- The nanoseconds from `start` to `stop`; a leap second between them counts. -/
def nanosecondsBetween (start stop : Instant) : Int :=
  let days := stop.dayNumber - start.dayNumber
  let seconds := stop.secondOfDay - start.secondOfDay
  let leap :=
    if start.secondOfDay < stop.secondOfDay && 1000000000 ≤ start.nanosecond then 1
    else if stop.secondOfDay < start.secondOfDay && 1000000000 ≤ stop.nanosecond then -1
    else 0
  (days * 86400 + seconds + leap) * 1000000000 +
    ((stop.nanosecond : Int) - (start.nanosecond : Int))

/-- The time from `start` to `stop`, none if `stop` comes first. -/
def spanBetween (start stop : Instant) : TimeSpan :=
  ⟨(nanosecondsBetween start stop).toNat⟩

end Instant

end PromScribe

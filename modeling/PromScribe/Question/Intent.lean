import PromScribe.Text.Lower
import PromScribe.Text.Literal

/-!
# Intent

What a question asks for: an operation, a relative time frame, and a label to group by. Operations
and time frames are tried in a fixed order; the first one that is named wins.
-/

namespace PromScribe.Question

open PromScribe.Text

/-- The operations a question can name, in the order in which they are tried. -/
inductive Operation where
  | rate
  | avg
  | sum
  | count
deriving DecidableEq, Repr

/-- The name of the operation in a query. -/
def Operation.name : Operation → String
  | .rate => "rate"
  | .avg => "avg"
  | .sum => "sum"
  | .count => "count"

/-- The words that name an operation. -/
def Operation.keywords : Operation → List String
  | .rate => ["rate", "per second", "velocity"]
  | .avg => ["average", "mean", "avg"]
  | .sum => ["sum", "total"]
  | .count => ["count", "number of"]

/-- Every operation, in the order of trial. -/
def Operation.all : List Operation :=
  [.rate, .avg, .sum, .count]

/-- The relative time frames a question can name, in the order in which they are tried. -/
inductive TimeFrame where
  | lastHour
  | lastDay
  | lastWeek
deriving DecidableEq, Repr

/-- The identifier of the time frame. -/
def TimeFrame.name : TimeFrame → String
  | .lastHour => "last_hour"
  | .lastDay => "last_day"
  | .lastWeek => "last_week"

/-- The window that the time frame means. -/
def TimeFrame.window : TimeFrame → String
  | .lastHour => "1h"
  | .lastDay => "24h"
  | .lastWeek => "7d"

/-- The words that name a time frame. -/
def TimeFrame.keywords : TimeFrame → List String
  | .lastHour => ["last hour", "past hour", "1h"]
  | .lastDay => ["last day", "past day", "24h"]
  | .lastWeek => ["last week", "past week", "7d"]

/-- Every time frame, in the order of trial. -/
def TimeFrame.all : List TimeFrame :=
  [.lastHour, .lastDay, .lastWeek]

/-- The kind of series that an intent reads. -/
inductive IntentKind where
  /-- Values at one point in time. -/
  | instant
  /-- Counters, read through their rate. -/
  | counter
deriving DecidableEq, Repr

/-- The identifier of the kind. -/
def IntentKind.name : IntentKind → String
  | .instant => "instant"
  | .counter => "counter"

/-- What a question asks for. -/
structure Intent where
  kind : IntentKind
  operation : Option Operation
  timeFrame : Option TimeFrame
  groupLabel : Option String
deriving DecidableEq, Repr

/-- The intent that names nothing. -/
def Intent.instant : Intent :=
  ⟨.instant, none, none, none⟩

/-- The intent reads a counter. -/
def Intent.isCounter (intent : Intent) : Bool :=
  intent.kind == .counter

/-- The operation's name, empty when none is named. -/
def Intent.operationName (intent : Intent) : String :=
  (intent.operation.map Operation.name).getD ""

/-- Words after `by` that name no label: articles and units of time. -/
def groupStopwords : List String :=
  ["the", "a", "an", "ms", "s", "sec", "second", "m", "min", "minute", "h", "hr", "hour", "d",
    "day", "w", "week", "month", "year"]

/-- A small ASCII letter or an underscore. -/
def startsLabel (c : Char) : Bool :=
  c.isLower || c == '_'

/-- A small ASCII letter, an ASCII digit or an underscore. -/
def continuesLabel (c : Char) : Bool :=
  startsLabel c || c.isDigit

/-- Accepts the word `by`, one space and an identifier in small letters, its value. -/
def byClause : Recogniser (List Char) := fun before text =>
  match text with
  | 'b' :: 'y' :: ' ' :: first :: rest =>
      let more := rest.takeWhile continuesLabel
      if !wordBeside before && startsLabel first && !wordBeside (rest.drop more.length).head? then
        some ⟨3 + more.length, first :: more⟩
      else none
  | _ => none

/-- The label of the first `by` clause that does not name a unit of time. -/
def groupLabel? (text : List Char) : Option String :=
  ((valuesOf byClause text).map String.ofList).find? fun label => !groupStopwords.contains label

/-- The intent of a text in any case. -/
def Intent.ofText (question : String) : Intent :=
  let text := lower question.toList
  let operation := Operation.all.find? fun operation => namesAny operation.keywords text
  { kind := if operation = some .rate then .counter else .instant
    operation
    timeFrame := TimeFrame.all.find? fun frame => namesAny frame.keywords text
    groupLabel := groupLabel? text }

end PromScribe.Question

import PromScribe.Collaborator.Work
import PromScribe.Fault.Application
import PromScribe.Series.Chart
import PromScribe.Time.InstantReader
import PromScribe.Time.SpanReader

/-!
# Executing queries

A request with start and end is a range query, one with neither an instant query. The request is
checked in full before the backend is asked. Where a range query names no step, the range is taken
in two hundred and fifty steps of at least one second.
-/

namespace PromScribe

/-- A query to be executed. -/
structure Execution where
  query : String
  start : Option String
  stop : Option String
  step : Option String
  timestamp : Option String
deriving DecidableEq, Repr

namespace Execution

/-- Takes a string that may be missing. -/
def textDecoder : Decoder (Option String) :=
  Decoder.optional Decoder.string

/-- Takes a request. -/
def decode : Decoder Execution := fun document => do
  let record ← Record.ofDocument
    [.of "query" .defaulted Decoder.string, .of "start" .nullable textDecoder,
      .of "end" .nullable textDecoder, .of "step" .nullable textDecoder,
      .of "timestamp" .nullable textDecoder] document
  return {
    query := ← record.getD "query" Decoder.string ""
    start := ← record.getD "start" textDecoder none
    stop := ← record.getD "end" textDecoder none
    step := ← record.getD "step" textDecoder none
    timestamp := ← record.getD "timestamp" textDecoder none }

/-- The written form of the request; what it does not name is left out. -/
def toJson (request : Execution) : Json :=
  let optional (name : String) (text? : Option String) : List (String × Json) :=
    text?.toList.map fun text => (name, .string text)
  .object ([("query", .string request.query)] ++ optional "start" request.start ++
    optional "end" request.stop ++ optional "step" request.step ++
    optional "timestamp" request.timestamp)

/-- The instant that a field names. -/
def instantOf (field text : String) : Except ApplicationFault Instant :=
  (Instant.read text).mapError fun fault => .input ("invalid " ++ field ++ ": " ++ fault.message)

/-- At most this many steps are taken where none is named. -/
def defaultPoints : Nat := 250

/-- The shortest step where none is named. -/
def minStep : TimeSpan := .ofSeconds 1

/-- The step where none is named. -/
def defaultStep (start stop : Instant) : TimeSpan :=
  ⟨Nat.max ((Instant.spanBetween start stop).nanoseconds / defaultPoints) minStep.nanoseconds⟩

/-- The step of a range. -/
def stepOf (start stop : Instant) : Option String → Except ApplicationFault TimeSpan
  | none => .ok (defaultStep start stop)
  | some text => (TimeSpan.read text).mapError fun fault => .input fault.message

/-- The range of the request; nothing for an instant query. -/
def range? (request : Execution) : Except ApplicationFault (Option RangeQuery) :=
  match request.start, request.stop with
  | some startText, some stopText => do
      let start ← instantOf "start" startText
      let stop ← instantOf "end" stopText
      if !start.before stop then throw (.input "end must be after start")
      let step ← stepOf start stop request.step
      return some ⟨start, stop, step⟩
  | none, none => .ok none
  | _, _ => .error (.input "start and end must be given together")

/-- The time of an instant query. -/
def time? (request : Execution) : Except ApplicationFault (Option Instant) :=
  match request.timestamp with
  | none => .ok none
  | some text => (instantOf "timestamp" text).map some

/-- What the backend is asked: a range query or an instant query. -/
inductive Plan where
  | range (range : RangeQuery)
  | instant (time : Option Instant)
deriving DecidableEq, Repr

/-- The plan of a meaningful request. -/
def plan (request : Execution) : Except ApplicationFault Plan := do
  if Text.isBlankText request.query then throw (.input "query cannot be empty")
  match ← request.range? with
  | some range => return .range range
  | none => return .instant (← request.time?)

/-- Executes a planned query. -/
def perform (query : String) : Plan → Work (Except CollaboratorFault QueryData)
  | .range range => Work.outcomeOf (.queryRange query range)
  | .instant time => Work.outcomeOf (.query query time)

end Execution

/-- The result of an executed query with a chart for it. -/
structure Executed where
  data : QueryData
  chart : ChartKind
deriving DecidableEq

namespace Executed

/-- The written form of the result, the chart beside the members of the data. -/
def toJson (executed : Executed) : Json :=
  .object (executed.data.members ++ [("chartType", .string executed.chart.name)])

end Executed

/-- Executes a query. -/
def Execution.execute (request : Execution) : Attempt ApplicationFault Executed := do
  let plan ← Attempt.ofExcept id request.plan
  let data ← Attempt.ofWork CollaboratorFault.toApplication (perform request.query plan)
  return ⟨data, Chart.suggest request.query data⟩

end PromScribe

import PromScribe.Json.Decode
import PromScribe.Time.Instant

/-!
# Query results

The result of a query is a list of series or a single sample. It has a written form from which it
can be taken again; which of the two a written result is follows from its shape alone.
-/

namespace PromScribe

/-- A value at a time, in seconds. -/
structure Sample where
  time : Double
  value : String
deriving DecidableEq

/-- Labelled samples. -/
structure Series where
  metric : Labels
  value : Option Sample
  values : List Sample
deriving DecidableEq

/-- What kind of result a query has. -/
inductive ResultKind where
  | vector
  | matrix
  | scalar
  | string
deriving DecidableEq, Repr

/-- The identifier of the kind. -/
def ResultKind.name : ResultKind → String
  | .vector => "vector"
  | .matrix => "matrix"
  | .scalar => "scalar"
  | .string => "string"

/-- Series, or one sample. -/
inductive QueryResult where
  | series (series : List Series)
  | sample (sample : Sample)
deriving DecidableEq

/-- The result of a query with its kind. -/
structure QueryData where
  kind : ResultKind
  result : QueryResult
deriving DecidableEq

/-- The series of the result; a single sample has none. -/
def QueryData.series (data : QueryData) : List Series :=
  match data.result with
  | .series list => list
  | .sample _ => []

/-- An empty vector. -/
def QueryData.empty : QueryData :=
  ⟨.vector, .series []⟩

/-- The label that names the metric of a series. -/
def nameLabel : String := "__name__"

/-- The written form of the sample. -/
def Sample.toJson (sample : Sample) : Json :=
  .array [.number (.double sample.time), .string sample.value]

/-- The written form of the series; what it does not have is left out. -/
def Series.toJson (series : Series) : Json :=
  .object ([("metric", Json.keyed .string series.metric)] ++
    (series.value.toList.map fun sample => ("value", sample.toJson)) ++
    (if series.values.isEmpty then []
      else [("values", .array (series.values.map Sample.toJson))]))

/-- The written form of the result. -/
def QueryResult.toJson : QueryResult → Json
  | .series list => .array (list.map Series.toJson)
  | .sample single => single.toJson

/-- The members of the written form. -/
def QueryData.members (data : QueryData) : List (String × Json) :=
  [("resultType", .string data.kind.name), ("result", data.result.toJson)]

/-- The written form of the result with its kind. -/
def QueryData.toJson (data : QueryData) : Json :=
  .object data.members

/-- Takes a sample. -/
def Sample.decode : Decoder Sample
  | .array [time, value] true => do
      return ⟨← Decoder.double time, ← Decoder.string value⟩
  | document => .error document.mismatch

/-- Takes a series. -/
def Series.decode : Decoder Series := fun document => do
  let record ← Record.ofDocument
    [.of "metric" .defaulted (Decoder.keyed Decoder.string),
      .of "value" .defaulted (Decoder.optional Sample.decode),
      .of "values" .defaulted (Decoder.list Sample.decode)] document
  return {
    metric := ← record.getD "metric" (Decoder.keyed Decoder.string) Keyed.empty
    value := ← record.getD "value" (Decoder.optional Sample.decode) none
    values := ← record.getD "values" (Decoder.list Sample.decode) [] }

/-- Takes series or else a sample; the whole document, with at most `room` nested containers, must
keep the rules of writing before its shape counts. -/
def QueryResult.decode (room : Nat) : Decoder QueryResult := fun document => do
  let _ ← Decoder.value room document
  match Decoder.list Series.decode document with
  | .ok list => return .series list
  | .error _ =>
      match Sample.decode document with
      | .ok single => return .sample single
      | .error _ => throw .shapeFault

/-- Takes a kind. -/
def ResultKind.decode : Decoder ResultKind :=
  Decoder.oneOf ResultKind.name [.vector, .matrix, .scalar, .string]

/-- Takes a result with its kind, with at most `room` nested containers. -/
def QueryData.decodeWithin (room : Nat) : Decoder QueryData := fun document => do
  let record ← Record.ofDocument
    [.of "resultType" .required ResultKind.decode,
      .of "result" .required (QueryResult.decode (room - 1))] document
  return {
    kind := ← record.get "resultType" ResultKind.decode
    result := ← record.get "result" (QueryResult.decode (room - 1)) }

/-- Takes a result with its kind. -/
def QueryData.decode : Decoder QueryData :=
  QueryData.decodeWithin Document.depthLimit

/-- The times at which a range query is evaluated. -/
structure RangeQuery where
  start : Instant
  stop : Instant
  step : TimeSpan
deriving DecidableEq, Repr

end PromScribe

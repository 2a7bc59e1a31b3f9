import PromScribe.Series.Data
import PromScribe.Text.Blank
import PromScribe.Text.Lower
import PromScribe.Text.Literal

/-!
# Charts

The chart for a result follows from the words of the query and the shape of the result; the values
do not matter. The first rule that applies decides.
-/

namespace PromScribe

open Text

/-- A kind of chart. -/
inductive ChartKind where
  | timeSeries
  | bar
  | pie
  | gauge
  | table
  | tree
deriving DecidableEq, Repr

/-- The identifier of the kind. -/
def ChartKind.name : ChartKind → String
  | .timeSeries => "time-series"
  | .bar => "bar"
  | .pie => "pie"
  | .gauge => "gauge"
  | .table => "table"
  | .tree => "tree"

namespace Chart

/-- The largest count of series that a pie shows well. -/
def maxPieSlices : Nat := 8

/-- Accepts one of some words and, after blanks, an opening parenthesis. -/
def callOf (names : List String) : Recogniser Unit := fun before text =>
  if wordBeside before then none
  else
    (names.map String.toList).findSome? fun name =>
      if name.isPrefixOf text then
        let gap := (text.drop name.length).takeWhile isBlank
        if (text.drop (name.length + gap.length)).head? = some '(' then
          some ⟨name.length + gap.length, ()⟩
        else none
      else none

/-- Accepts a ranking call. -/
def rankingCall : Recogniser Unit := callOf ["topk", "bottomk"]

/-- Accepts `count` or `sum`, blanks and the word `by`. -/
def partitionClause : Recogniser Unit := fun before text =>
  if wordBeside before then none
  else
    ["count".toList, "sum".toList].findSome? fun name =>
      if name.isPrefixOf text then
        let gap := (text.drop name.length).takeWhile isBlank
        match text.drop (name.length + gap.length) with
        | 'b' :: 'y' :: rest =>
            if gap.isEmpty || wordBeside rest.head? then none
            else some ⟨name.length + gap.length + 1, ()⟩
        | _ => none
      else none

/-- Accepts the word `by` and a list in parentheses, its value. -/
def groupingClause : Recogniser (List Char) := fun before text =>
  match text with
  | 'b' :: 'y' :: rest =>
      let gap := rest.takeWhile isBlank
      match rest.drop gap.length with
      | '(' :: inner =>
          let list := inner.takeWhile (· != ')')
          if wordBeside before || list.length = inner.length then none
          else some ⟨3 + gap.length + list.length, list⟩
      | _ => none
  | _ => none

/-- How many labels the first grouping clause lists. -/
def groupedLabels (query : List Char) : Nat :=
  match valuesOf groupingClause query with
  | [] => 0
  | list :: _ => ((partsBetween ',' list).filter fun part => !(trim part).isEmpty).length

/-- Exactly one series, without any label besides its name. -/
def isSingleUnlabelled (series : List Series) : Bool :=
  match series with
  | [one] => one.metric.keys.all (· == nameLabel)
  | _ => false

/-- The result is one sample. -/
def isSample : QueryResult → Bool
  | .sample _ => true
  | .series _ => false

/-- The chart for a query and its result. -/
def suggest (query : String) (data : QueryData) : ChartKind :=
  let text := lower query.toList
  if anywhere rankingCall text then .bar
  else if occurs "histogram_quantile".toList text || data.kind = .matrix then .timeSeries
  else if isSample data.result || isSingleUnlabelled data.series then .gauge
  else if anywhere partitionClause text && data.series.length ≤ maxPieSlices then .pie
  else if 2 ≤ groupedLabels text then .tree
  else .table

end Chart

end PromScribe

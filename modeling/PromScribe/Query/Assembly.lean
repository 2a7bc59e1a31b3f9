import PromScribe.Query.Context
import PromScribe.Text.Literal

/-!
# Assembling queries

A context gives the query `aggregation(metric{labels}[window])`, each part only where the context
has it. An aggregation operator takes the grouping itself; any other function is put inside of a
grouped sum. Label values stand in double quotes, in which quotes, backslashes and line breaks are
escaped.
-/

/-!
## Functions of queries

Aggregation operators take a grouping clause; range functions read a window of each series.
-/

namespace PromScribe.Query

open PromScribe.Text

/-- Operators that combine series and take a grouping clause. -/
def aggregationOperators : List String :=
  ["sum", "avg", "min", "max", "count", "group", "stddev", "stdvar"]

/-- Functions that read a window of each series, besides those over time. -/
def rangeFunctions : List String :=
  ["rate", "irate", "increase", "delta", "idelta", "deriv", "changes", "resets"]

/-- Operators that have a counterpart over time. -/
def overTimeOperators : List String :=
  ["avg", "sum", "count", "min", "max", "stddev", "stdvar"]

/-- The ending of functions over time. -/
def overTimeEnding : String := "_over_time"

/-- The name is an aggregation operator. -/
def isAggregation (name : String) : Bool :=
  aggregationOperators.contains name

/-- The name is a range function. -/
def isRangeFunction (name : String) : Bool :=
  rangeFunctions.contains name || hasEnding name overTimeEnding

/-- A character of a label value. -/
def escapedLabelChar (c : Char) : List Char :=
  if c = '\\' then ['\\', '\\']
  else if c = '"' then ['\\', '"']
  else if c = '\n' then ['\\', 'n']
  else [c]

/-- A label value between double quotes. -/
def quotedValue (value : List Char) : List Char :=
  '"' :: (value.flatMap escapedLabelChar ++ ['"'])

/-- A label with its value. -/
def matcherChars (label : String × String) : List Char :=
  label.1.toList ++ '=' :: quotedValue label.2.toList

/-- The labels in braces; nothing if there are none. -/
def matchersChars (labels : Labels) : List Char :=
  if labels.isEmpty then []
  else '\x7b' :: (List.intercalate [','] (labels.entries.map matcherChars) ++ ['\x7d'])

/-- The window in brackets; nothing if it is zero. -/
def windowChars (span : TimeSpan) : List Char :=
  if span.isZero then [] else '[' :: (span.queryChars ++ [']'])

/-- Metric, labels and window. -/
def selectorChars (metric : List Char) (context : Context) : List Char :=
  metric ++ matchersChars context.labels ++ windowChars context.timeRange.span

/-- A text in parentheses. -/
def parenthesised (text : List Char) : List Char :=
  '(' :: (text ++ [')'])

/-- A grouping clause with blanks around it. -/
def groupingChars (labels : List String) : List Char :=
  " by (".toList ++ List.intercalate [',', ' '] (labels.map String.toList) ++ [')', ' ']

/-- The query of a metric that is not blank. -/
def queryChars (metric : List Char) (context : Context) : List Char :=
  let selector := selectorChars metric context
  let aggregation := trim context.aggregation.toList
  if aggregation.isEmpty then selector
  else if context.groupBy.isEmpty then aggregation ++ parenthesised selector
  else if isAggregation (String.ofList aggregation) then
    aggregation ++ groupingChars context.groupBy ++ parenthesised selector
  else
    "sum".toList ++ groupingChars context.groupBy ++
      parenthesised (aggregation ++ parenthesised selector)

/-- A query with what is to be said about it; an empty query means that none can be built. -/
structure Built where
  query : String
  warnings : List String
deriving DecidableEq, Repr

/-- Said where the context has no metric. -/
def noMetricWarning : String := "no metric specified"

/-- The query of a context. -/
def build (context : Context) : Built :=
  match trim context.mainMetric.toList with
  | [] => ⟨"", [noMetricWarning]⟩
  | c :: rest => ⟨String.ofList (queryChars (c :: rest) context), []⟩

end PromScribe.Query

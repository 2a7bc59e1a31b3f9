import PromScribe.Text.Blank
import PromScribe.Text.Literal

/-!
# Entities

Three independent sweeps over a text find words shaped like metric names, `key=value` pairs, and
compact durations. The metric sweep finds every identifier; which of them are metrics is for the
catalog to say.
-/

namespace PromScribe.Question

open PromScribe.Text

/-- What an entity may stand for. -/
inductive EntityKind where
  | metric
  | label
  | time
deriving DecidableEq, Repr

/-- The identifier of the kind. -/
def EntityKind.name : EntityKind → String
  | .metric => "metric"
  | .label => "label"
  | .time => "time"

/-- A tagged run of the text: bytes `start` up to `stop`. The value of a label is `key=value`. -/
structure Entity where
  kind : EntityKind
  value : String
  start : Nat
  stop : Nat
deriving DecidableEq, Repr

/-- Key and value of a label entity. -/
def Entity.labelPair? (entity : Entity) : Option (String × String) :=
  if entity.kind = .label then
    (splitAtFirst? '=' entity.value.toList).map fun pair =>
      (String.ofList pair.1, String.ofList pair.2)
  else none

/-- An ASCII letter or an underscore. -/
def startsKey (c : Char) : Bool :=
  c.isAlpha || c == '_'

/-- An ASCII letter, an ASCII digit or an underscore. -/
def continuesKey (c : Char) : Bool :=
  isAsciiWord c

/-- An ASCII letter, an underscore or a colon. -/
def startsMetric (c : Char) : Bool :=
  startsKey c || c == ':'

/-- An ASCII letter, an ASCII digit, an underscore or a colon. -/
def continuesMetric (c : Char) : Bool :=
  continuesKey c || c == ':'

/-- The length of the longest run of metric characters that ends at a word edge. -/
def metricLength? : List Char → Option Nat
  | [] => none
  | c :: rest =>
      if continuesMetric c then
        match metricLength? rest with
        | some length => some (length + 1)
        | none => if atEdge (some c) rest then some 1 else none
      else none

/-- Accepts an identifier of metric form between word edges. -/
def metricName : Recogniser Unit := fun before text =>
  if atEdge before text && text.head?.any startsMetric then
    (metricLength? text).map fun length => ⟨length - 1, ()⟩
  else none

/-- A single or double quote. -/
def isQuote (c : Char) : Bool :=
  c == '"' || c == '\''

/-- A character of an unquoted label value. -/
def isValueChar (c : Char) : Bool :=
  !(isQuote c || c == '}' || c == ',' || isBlank c)

/-- How many quotes, at most one, stand at the head of the text. -/
def quoteLength (text : List Char) : Nat :=
  if text.head?.any isQuote then 1 else 0

/-- Accepts a key, an equals sign and a value that may be quoted; its value is the pair. -/
def labelPair : Recogniser (List Char × List Char) := fun before text =>
  let key := text.takeWhile continuesKey
  let afterKey := text.drop key.length
  let gap := afterKey.takeWhile isBlank
  match afterKey.drop gap.length with
  | '=' :: afterSign =>
      let secondGap := afterSign.takeWhile isBlank
      let quoted := afterSign.drop secondGap.length
      let opening := quoteLength quoted
      let value := (quoted.drop opening).takeWhile isValueChar
      let closing := quoteLength (quoted.drop (opening + value.length))
      if !wordBeside before && text.head?.any startsKey && !value.isEmpty then
        some ⟨key.length + gap.length + secondGap.length + opening + value.length + closing,
          (key, value)⟩
      else none
  | _ => none

/-- The length of the unit of a compact duration at the head of the text. -/
def compactUnitLength? (text : List Char) : Option Nat :=
  match text with
  | 'm' :: 's' :: rest => if wordBeside rest.head? then none else some 2
  | c :: rest =>
      if ['s', 'm', 'h', 'd', 'w'].contains c && !wordBeside rest.head? then some 1 else none
  | [] => none

/-- Accepts a number directly followed by a short unit of time, between word edges. -/
def compactDuration : Recogniser Unit := fun before text =>
  let digits := text.takeWhile isDecimal
  if digits.isEmpty || wordBeside before then none
  else
    (compactUnitLength? (text.drop digits.length)).map fun unit =>
      ⟨digits.length + unit - 1, ()⟩

/-- The metric entities of a text, in order. -/
def metricEntities (text : List Char) : List Entity :=
  (spansOf metricName text).map fun span =>
    ⟨.metric, String.ofList span.text, span.start, span.stop⟩

/-- The label entities of a text, in order. -/
def labelEntities (text : List Char) : List Entity :=
  (spansOf labelPair text).map fun span =>
    ⟨.label, String.ofList (span.value.1 ++ '=' :: span.value.2), span.start, span.stop⟩

/-- The time entities of a text, in order. -/
def timeEntities (text : List Char) : List Entity :=
  (spansOf compactDuration text).map fun span =>
    ⟨.time, String.ofList span.text, span.start, span.stop⟩

/-- Every entity of a text: metrics, then labels, then times. -/
def entitiesOf (question : String) : List Entity :=
  let text := question.toList
  metricEntities text ++ labelEntities text ++ timeEntities text

end PromScribe.Question

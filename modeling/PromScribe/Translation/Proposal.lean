import PromScribe.Fault.Application
import PromScribe.Json.Decode
import PromScribe.Json.Printer
import PromScribe.Json.Reader
import PromScribe.Text.Blank

/-!
# Proposals

What a completion reply proposes for a query. The reply may hold other text around the object; what
the object leaves out is not proposed.
-/

/-!
## Balanced spans

The span from an opening brace to the brace that closes it. Braces within double quotes do not
count, and within quotes a backslash takes the next character with it.
-/

namespace PromScribe.Text

/-- Where a scan stands as to quotes. -/
inductive Quoting where
  | outside
  | inside
  /-- Inside of quotes, behind a backslash. -/
  | escaped
deriving DecidableEq, Repr

/-- The text up to the brace that closes the last of `depth + 1` open ones. -/
def untilClosed (depth : Nat) : Quoting → List Char → Option (List Char)
  | _, [] => none
  | .escaped, c :: rest => (untilClosed depth .inside rest).map (c :: ·)
  | .inside, c :: rest =>
      let next := if c = '\\' then .escaped else if c = '"' then .outside else .inside
      (untilClosed depth next rest).map (c :: ·)
  | .outside, c :: rest =>
      if c = '"' then (untilClosed depth .inside rest).map (c :: ·)
      else if c = '\x7b' then (untilClosed (depth + 1) .outside rest).map (c :: ·)
      else if c = '\x7d' then
        match depth with
        | 0 => some [c]
        | depth + 1 => (untilClosed depth .outside rest).map (c :: ·)
      else (untilClosed depth .outside rest).map (c :: ·)

/-- The balanced span that starts at the head of the text. -/
def balancedAtHead? : List Char → Option (List Char)
  | [] => none
  | c :: rest => if c = '\x7b' then (untilClosed 0 .outside rest).map (c :: ·) else none

/-- The balanced span at the first opening brace of the text. -/
def balancedSpan? (text : List Char) : Option (List Char) :=
  balancedAtHead? (text.dropWhile (· != '\x7b'))

/-- The balanced span of a string. -/
def balancedObject? (text : String) : Option String :=
  (balancedSpan? text.toList).map String.ofList

end PromScribe.Text

namespace PromScribe

/-- What a completion reply proposes. -/
structure Proposal where
  metric : Option String
  labels : Option (Keyed Json)
  timeRange : Option String
  aggregation : Option String
  groupBy : Option (List String)

namespace Proposal

/-- Containers that a label value may be nested in, within those of the proposal. -/
def labelRoom : Nat := Document.depthLimit - 2

/-- Takes the values of labels. -/
def labelsDecoder : Decoder (Option (Keyed Json)) :=
  Decoder.optional (Decoder.keyed (Decoder.value labelRoom))

/-- Takes a string that may be missing. -/
def textDecoder : Decoder (Option String) :=
  Decoder.optional Decoder.string

/-- Takes a list that may be missing. -/
def listDecoder : Decoder (Option (List String)) :=
  Decoder.optional (Decoder.list Decoder.string)

/-- Takes a proposal. -/
def decode : Decoder Proposal := fun document => do
  let record ← Record.ofDocument
    [.of "metric" .defaulted textDecoder, .of "labels" .defaulted labelsDecoder,
      .of "timeRange" .defaulted textDecoder, .of "aggregation" .defaulted textDecoder,
      .of "groupBy" .defaulted listDecoder] document
  return {
    metric := ← record.getD "metric" textDecoder none
    labels := ← record.getD "labels" labelsDecoder none
    timeRange := ← record.getD "timeRange" textDecoder none
    aggregation := ← record.getD "aggregation" textDecoder none
    groupBy := ← record.getD "groupBy" listDecoder none }

/-- The proposal in a reply. -/
def ofReply (reply : String) : Except TranslationFault Proposal :=
  match Text.balancedObject? reply with
  | none => .error (.format .noObject reply)
  | some object => (Json.decode decode object).mapError fun _ => .format .undecodable reply

/-- The proposed window, if one is named. -/
def window? (proposal : Proposal) : Except TranslationFault (Option TimeSpan) :=
  match proposal.timeRange.map Text.trimString with
  | none => .ok none
  | some "" => .ok none
  | some text =>
      match TimeSpan.read text with
      | .ok span => .ok (some span)
      | .error fault => .error (.format (.unusableTimeRange fault) text)

/-- The text of a label value: a string as it is, anything else in compact form. -/
def labelText : Json → String
  | .string text => text
  | value => value.text

end Proposal

end PromScribe

import PromScribe.Collaborator.Work
import PromScribe.Fault.Application
import PromScribe.Query.Assembly
import PromScribe.Query.Verdict
import PromScribe.Text.Blank
import PromScribe.Translation.Extraction
import PromScribe.Translation.Prompt

/-!
# Converting questions

A question becomes a query in four steps: its context is extracted, the query is assembled, the
backend judges it, and it is explained. The first step that fails decides.
-/

/-!
## Explanations

One sentence about a query, as the completion provider words it. A failed completion becomes part
of the text, so that nothing else is lost with it.
-/

namespace PromScribe.Explanation

open Text

/-- Marks around a reply that do not belong to it. -/
def isWrapping (c : Char) : Bool :=
  c == '\x60' || c == '"' || isBlank c

/-- The reply without quotes, code marks and blanks around it. -/
def cleaned (reply : String) : String :=
  String.ofList (trimBy isWrapping (trim reply.toList))

/-- What is told instead of an explanation. -/
def unexplained (promql : String) (fault : CollaboratorFault) : String :=
  "Query: " ++ promql ++ "\nError generating explanation: " ++ fault.message

/-- The explanation after a completion; none for a caller that gave up. -/
def ofOutcome (promql : String) :
    Except CollaboratorFault String → Except TranslationFault String
  | .ok reply => .ok (cleaned reply)
  | .error .cancelled => .error .cancelled
  | .error fault => .ok (unexplained promql fault)

/-- The explanation of a query. -/
def explain (context : Context) (promql : String) : Work (Except TranslationFault String) :=
  Work.call (.complete (Prompt.explanation context promql)) fun outcome =>
    .done (ofOutcome promql outcome)

end PromScribe.Explanation

namespace PromScribe

/-- A query for a question, with its explanation, warnings, and queries that may help too. -/
structure Conversion where
  promql : String
  explanation : Option String
  warnings : List String
  suggestions : List String
deriving DecidableEq, Repr

namespace Conversion

/-- Adds a pattern to suggestions that do not have it yet. -/
def suggest (promql : String) (suggestions : List String) (pattern : String) : List String :=
  if pattern = promql || suggestions.contains pattern then suggestions
  else suggestions ++ [pattern]

/-- The distinct patterns of rules, other than the query itself. -/
def suggestionsOf (promql : String) (rules : List Rule) : List String :=
  (rules.map Rule.pattern).foldl (suggest promql) []

/-- The conversion of a judged and explained query. -/
def ofParts (context : Context) (built : Query.Built) (verdict : Verdict) (explanation : String) :
    Conversion where
  promql := built.query
  explanation := if explanation = "" then none else some explanation
  warnings := built.warnings ++ verdict.warnings
  suggestions := suggestionsOf built.query context.rules

/-- The written form of the conversion; what it does not have is left out. -/
def toJson (conversion : Conversion) : Json :=
  .object ([("promql", .string conversion.promql)] ++
    (conversion.explanation.toList.map fun text => ("explanation", .string text)) ++
    (if conversion.warnings.isEmpty then [] else [("warnings", .strings conversion.warnings)]) ++
    (if conversion.suggestions.isEmpty then []
      else [("suggestions", .strings conversion.suggestions)]))

/-- Takes a conversion. -/
def decode : Decoder Conversion := fun document => do
  let record ← Record.ofDocument
    [.of "promql" .required Decoder.string,
      .of "explanation" .nullable (Decoder.optional Decoder.string),
      .of "warnings" .defaulted (Decoder.list Decoder.string),
      .of "suggestions" .defaulted (Decoder.list Decoder.string)] document
  return {
    promql := ← record.get "promql" Decoder.string
    explanation := ← record.getD "explanation" (Decoder.optional Decoder.string) none
    warnings := ← record.getD "warnings" (Decoder.list Decoder.string) []
    suggestions := ← record.getD "suggestions" (Decoder.list Decoder.string) [] }

end Conversion

namespace Translator

/-- The query of a context, or why there is none. -/
def assembled (context : Context) : Except TranslationFault Query.Built :=
  let built := Query.build context
  if built.query = "" then .error (.build (Text.joined "; " built.warnings)) else .ok built

/-- Demands a valid query. -/
def demandValid (verdict : Verdict) : Except TranslationFault Verdict :=
  if verdict.valid then .ok verdict
  else .error (.validation (verdict.error.getD "invalid query"))

/-- The query for a question. -/
def convert (translator : Translator) (question : String) : Attempt TranslationFault Conversion := do
  let context ← translator.extract question
  let built ← Attempt.ofExcept id (assembled context)
  let judged ← Attempt.ofWork .ofCollaborator (Verdict.judge built.query)
  let verdict ← Attempt.ofExcept id (demandValid judged)
  let explanation ← Attempt.ofWork id (Explanation.explain context built.query)
  return .ofParts context built verdict explanation

end Translator

end PromScribe

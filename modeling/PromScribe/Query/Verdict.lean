import PromScribe.Collaborator.Work
import PromScribe.Json.Decode
import PromScribe.Text.Blank
import PromScribe.Text.Bytes

/-!
# Verdicts

A query is valid when the backend answers it. Any failure of the backend makes the query invalid;
only a caller that gave up gets no verdict. Warnings advise and do not decide.
-/

namespace PromScribe

/-- Whether a query is valid, with warnings and, if it is not, the reason. -/
structure Verdict where
  valid : Bool
  warnings : List String
  error : Option String
deriving DecidableEq, Repr

namespace Verdict

open Text

/-- Queries should have at most this many bytes. -/
def recommendedLength : Nat := 1000

/-- What is said about a query that is too long. -/
def lengthWarning : String := "query exceeds recommended length"

/-- What is said about a query that opens and closes braces unequally often. -/
def braceWarning : String := "unbalanced curly braces"

/-- The warnings about a query. -/
def warningsFor (promql : String) : List String :=
  (if recommendedLength < byteCount promql then [lengthWarning] else []) ++
    (if promql.toList.count '\x7b' ≠ promql.toList.count '\x7d' then [braceWarning] else [])

/-- The verdict on the outcome of a query; none for a caller that gave up. -/
def ofOutcome (promql : String) :
    Except CollaboratorFault QueryData → Except CollaboratorFault Verdict
  | .ok _ => .ok ⟨true, warningsFor promql, none⟩
  | .error .cancelled => .error .cancelled
  | .error fault =>
      .ok ⟨false, warningsFor promql, some ("invalid query: " ++ fault.message)⟩

/-- The verdict of the backend; a blank query is invalid without asking it. -/
def judge (promql : String) : Work (Except CollaboratorFault Verdict) :=
  if isBlankText promql then .done (.ok ⟨false, warningsFor promql, some "empty query"⟩)
  else Work.call (.query promql none) fun outcome => .done (ofOutcome promql outcome)

/-- The written form of the verdict; a missing error is left out. -/
def toJson (verdict : Verdict) : Json :=
  .object ([("valid", .bool verdict.valid), ("warnings", .strings verdict.warnings)] ++
    verdict.error.toList.map fun reason => ("error", .string reason))

/-- Takes a verdict. -/
def decode : Decoder Verdict := fun document => do
  let record ← Record.ofDocument
    [.of "valid" .required Decoder.bool,
      .of "warnings" .defaulted (Decoder.list Decoder.string),
      .of "error" .nullable (Decoder.optional Decoder.string)] document
  return {
    valid := ← record.get "valid" Decoder.bool
    warnings := ← record.getD "warnings" (Decoder.list Decoder.string) []
    error := ← record.getD "error" (Decoder.optional Decoder.string) none }

end Verdict

end PromScribe

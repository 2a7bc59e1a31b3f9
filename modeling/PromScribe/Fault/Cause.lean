import PromScribe.Time.SpanReader

/-!
# Causes of failures

A question is refused, or a collaborator fails.
-/

/-!
## Refused questions
-/

namespace PromScribe

/-- Why a question is refused. -/
inductive Refusal where
  | blank
  | tooLong (limit : Nat)
  | unusableSpan (fault : SpanFault)
  | stated (reason : String)
deriving DecidableEq, Repr

/-- The wording of the refusal. -/
def Refusal.message : Refusal → String
  | .blank => "Query cannot be empty"
  | .tooLong limit => "Query is too long (max " ++ toString limit ++ " characters)"
  | .unusableSpan fault => fault.message
  | .stated reason => reason

/-- How reading a question fails. -/
inductive QuestionFault where
  | refused (refusal : Refusal)
  | inner (reason : String)
deriving DecidableEq, Repr

/-- The wording of the failure. -/
def QuestionFault.message : QuestionFault → String
  | .refused refusal => "Validation error: " ++ refusal.message
  | .inner reason => "Internal error: " ++ reason

/-!
## Failures of collaborators

The query backend, the completion provider and the graph fail in the same ways.
-/

/-- How a call of a collaborator fails. -/
inductive CollaboratorFault where
  | connection (detail : String)
  | request (detail : String)
  | timeout (detail : String)
  | serialization (detail : String)
  | response (detail : String)
  | configuration (detail : String)
  /-- The caller gave up. -/
  | cancelled
  | unknown (detail : String)
deriving DecidableEq, Repr

namespace CollaboratorFault

/-- The wording of the failure. -/
def message : CollaboratorFault → String
  | .connection detail => "Connection error: " ++ detail
  | .request detail => "Request failed: " ++ detail
  | .timeout detail => "Timeout error: " ++ detail
  | .serialization detail => "Serialization error: " ++ detail
  | .response detail => "Invalid response: " ++ detail
  | .configuration detail => "Configuration error: " ++ detail
  | .cancelled => "Operation cancelled"
  | .unknown detail => "Unknown error: " ++ detail

/-- Trying again may help. -/
def isRetryable : CollaboratorFault → Bool
  | .connection _ => true
  | .request _ => true
  | .timeout _ => true
  | .unknown _ => true
  | .serialization _ => false
  | .response _ => false
  | .configuration _ => false
  | .cancelled => false

end CollaboratorFault

end PromScribe

import PromScribe.Fault.Cause

/-!
# Failures of the application

Failures of single subsystems become failures of the application, each of which has one answer
status.
-/

namespace PromScribe

/-- Why a completion reply is of no use. The wording of a decoder is not passed on. -/
inductive ReplyFault where
  | noObject
  | undecodable
  | unusableTimeRange (fault : SpanFault)
  | stated (reason : String)
deriving DecidableEq, Repr

/-- The wording of the fault. -/
def ReplyFault.message : ReplyFault → String
  | .noObject => "no JSON object in response"
  | .undecodable => "<json>"
  | .unusableTimeRange fault => "invalid time range format: " ++ fault.message
  | .stated reason => reason

/-- How the application fails. -/
inductive ApplicationFault where
  | input (reason : String)
  | extraction (reason : String)
  | format (fault : ReplyFault) (raw : String)
  | build (reason : String)
  | validation (reason : String)
  /-- A call of a collaborator failed. -/
  | collaborator (reason : String)
  /-- The caller gave up, or its time was over. -/
  | cancelled
  | configuration (reason : String)
  | inner (reason : String)
deriving DecidableEq, Repr

namespace ApplicationFault

/-- The wording of the failure. -/
def message : ApplicationFault → String
  | .input reason => "invalid input: " ++ reason
  | .extraction reason => "context extraction failed: " ++ reason
  | .format fault _ => "invalid response format: " ++ fault.message
  | .build reason => "failed to build query: " ++ reason
  | .validation reason => "invalid PromQL query: " ++ reason
  | .collaborator reason => "upstream failure: " ++ reason
  | .cancelled => "request cancelled: operation cancelled"
  | .configuration reason => "configuration error: " ++ reason
  | .inner reason => "internal error: " ++ reason

/-- The client can mend its request. -/
def isClientFault : ApplicationFault → Bool
  | .input _ => true
  | .build _ => true
  | .validation _ => true
  | _ => false

/-- The completion reply behind the failure, kept for diagnosis. -/
def raw? : ApplicationFault → Option String
  | .format _ raw => some raw
  | _ => none

/-- The status of the answer. -/
def status : ApplicationFault → Nat
  | .input _ => 400
  | .build _ => 400
  | .validation _ => 400
  | .cancelled => 504
  | _ => 500

end ApplicationFault

/-- A failed reading of a question as a failure of the application. -/
def QuestionFault.toApplication : QuestionFault → ApplicationFault
  | .refused refusal => .input refusal.message
  | .inner reason => .inner reason

/-- A failed call as a failure of the application. -/
def CollaboratorFault.toApplication : CollaboratorFault → ApplicationFault
  | .cancelled => .cancelled
  | .configuration detail => .configuration detail
  | fault => .collaborator fault.message

/-- How the translation of a question fails. -/
inductive TranslationFault where
  | question (fault : QuestionFault)
  /-- The completion failed. -/
  | extraction (reason : String)
  /-- The completion reply is of no use. -/
  | format (fault : ReplyFault) (raw : String)
  | build (reason : String)
  | validation (reason : String)
  /-- A call of a collaborator failed. -/
  | collaborator (reason : String)
  | cancelled
deriving DecidableEq, Repr

namespace TranslationFault

/-- The wording of the failure. -/
def message : TranslationFault → String
  | .question fault => fault.message
  | .extraction reason => "Extraction error: " ++ reason
  | .format fault _ => "Invalid response format: " ++ fault.message
  | .build reason => "Build error: " ++ reason
  | .validation reason => "Validation error: " ++ reason
  | .collaborator reason => "Upstream error: " ++ reason
  | .cancelled => "Operation cancelled"

/-- A failed completion. -/
def ofCompletion : CollaboratorFault → TranslationFault
  | .cancelled => .cancelled
  | fault => .extraction fault.message

/-- A failed refresh or validation. -/
def ofCollaborator : CollaboratorFault → TranslationFault
  | .cancelled => .cancelled
  | fault => .collaborator fault.message

/-- A failed translation as a failure of the application. -/
def toApplication : TranslationFault → ApplicationFault
  | .question fault => fault.toApplication
  | .extraction reason => .extraction reason
  | .format fault raw => .format fault raw
  | .build reason => .build reason
  | .validation reason => .validation reason
  | .collaborator reason => .collaborator reason
  | .cancelled => .cancelled

end TranslationFault

end PromScribe

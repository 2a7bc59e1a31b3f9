import PromScribe.Question.Wording
import PromScribe.Question.Intent
import PromScribe.Question.Entity
import PromScribe.Fault.Cause

/-!
# Reading questions

A reader accepts questions that are not blank and not too long, and says their canonical wording,
their intent and their entities. It refuses a text for one reason, or reads it as if there were no
limit.
-/

namespace PromScribe.Question

open PromScribe.Text

/-- A reader with the largest number of bytes that it accepts. -/
structure Reader where
  limit : Nat := 1000
deriving Repr

namespace Reader

/-- Why the text is refused, if it is. -/
def refusal? (reader : Reader) (text : String) : Option Refusal :=
  if isBlankText text then some .blank
  else if reader.limit < byteCount text then some (.tooLong reader.limit)
  else none

/-- A reading of a text that is not refused. -/
def accepted {α : Type} (reader : Reader) (text : String) (reading : String → α) :
    Except QuestionFault α :=
  match reader.refusal? text with
  | some refusal => .error (.refused refusal)
  | none => .ok (reading text)

/-- The canonical wording. -/
def wording (reader : Reader) (question : String) : Except QuestionFault String :=
  reader.accepted question canonical

/-- The intent. -/
def intent (reader : Reader) (text : String) : Except QuestionFault Intent :=
  reader.accepted text Intent.ofText

/-- The entities. -/
def entities (reader : Reader) (text : String) : Except QuestionFault (List Entity) :=
  reader.accepted text entitiesOf

variable {reader : Reader} {text : String} {α : Type} {reading : String → α} {value : α}
variable {fault : QuestionFault}

theorem accepted_eq_ok_iff :
    reader.accepted text reading = .ok value ↔
      reader.refusal? text = none ∧ reading text = value := by
  unfold accepted
  cases reader.refusal? text with
  | none => simp
  | some refusal => simp

theorem accepted_eq_error_iff :
    reader.accepted text reading = .error fault ↔
      ∃ refusal, reader.refusal? text = some refusal ∧ .refused refusal = fault := by
  unfold accepted
  cases reader.refusal? text with
  | none => simp
  | some refusal => simp

end Reader

end PromScribe.Question

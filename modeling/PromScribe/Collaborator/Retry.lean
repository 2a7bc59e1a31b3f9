import PromScribe.Fault.Cause
import PromScribe.Time.Span

/-!
# Retrying

An operation is attempted up to a given number of times, with a fixed pause between two attempts.
An attempt that outlasts the limit fails there. The first success, or the first failure that trying
again cannot mend, ends the retrying.
-/

namespace PromScribe

/-- How often to attempt, how long to pause in between, and how long one attempt may take. -/
structure RetryPolicy where
  attempts : Nat
  pause : TimeSpan
  limit : Option TimeSpan
deriving DecidableEq, Repr

/-- How one attempt goes when nothing cuts it off; one without a duration never ends. -/
structure Trial (α : Type) where
  duration : Option TimeSpan
  outcome : Except CollaboratorFault α

/-- A stretch of the time that retrying takes. -/
inductive Stretch where
  | attempt (duration : TimeSpan)
  | pause (duration : TimeSpan)
deriving DecidableEq, Repr

namespace Stretch

/-- The time of the stretch. -/
def duration : Stretch → TimeSpan
  | .attempt duration => duration
  | .pause duration => duration

/-- The operation is attempted during the stretch. -/
def isAttempt : Stretch → Bool
  | .attempt _ => true
  | .pause _ => false

end Stretch

/-- What came of retrying: the result, and how the time until then was spent. -/
structure Retried (α : Type) where
  result : Except CollaboratorFault α
  course : List Stretch

namespace Retried

variable {α : Type}

/-- The number of attempts. -/
def attempts (retried : Retried α) : Nat :=
  retried.course.countP Stretch.isAttempt

/-- The time that it all took. -/
def elapsed (retried : Retried α) : TimeSpan :=
  TimeSpan.total (retried.course.map Stretch.duration)

end Retried

namespace RetryPolicy

variable {α : Type}

/-- What is told of an attempt that outlasts the limit. -/
def timeoutFault (limit : TimeSpan) : CollaboratorFault :=
  .timeout ("no response within " ++ limit.decimalUnitText)

/-- What is told where there was no attempt. -/
def noAttempt : CollaboratorFault :=
  .unknown "no attempts were made"

/-- An attempt under the limit: how long it takes and its outcome; nothing if it never ends. -/
def cutOff (policy : RetryPolicy) (trial : Trial α) :
    Option (TimeSpan × Except CollaboratorFault α) :=
  match trial.duration, policy.limit with
  | some duration, none => some (duration, trial.outcome)
  | some duration, some limit =>
      if limit.nanoseconds < duration.nanoseconds then some (limit, .error (timeoutFault limit))
      else some (duration, trial.outcome)
  | none, some limit => some (limit, .error (timeoutFault limit))
  | none, none => none

/-- Goes on after `number` attempts with at most `left` more, and fails with `failure` if none is
left; `trials` gives each attempt by its number. Nothing if some attempt never ends. -/
def executeFrom (policy : RetryPolicy) (trials : Nat → Trial α) (number : Nat)
    (failure : CollaboratorFault) (course : List Stretch) : Nat → Option (Retried α)
  | 0 => some ⟨.error failure, course⟩
  | left + 1 =>
      let waited := if number = 0 then course else course ++ [.pause policy.pause]
      match policy.cutOff (trials number) with
      | none => none
      | some (duration, .ok value) => some ⟨.ok value, waited ++ [.attempt duration]⟩
      | some (duration, .error fault) =>
          if fault.isRetryable then
            policy.executeFrom trials (number + 1) fault (waited ++ [.attempt duration]) left
          else some ⟨.error fault, waited ++ [.attempt duration]⟩

/-- What comes of an operation whose attempts are given by their numbers; nothing if some attempt
never ends. -/
def execute (policy : RetryPolicy) (trials : Nat → Trial α) : Option (Retried α) :=
  policy.executeFrom trials 0 noAttempt [] policy.attempts

end RetryPolicy

end PromScribe

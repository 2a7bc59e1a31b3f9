import PromScribe.Proofs.Collaborator.Transcript

/-!
# Answers

Who is asked during a run answers the same each time; only completions are answered differently
before and after a query was judged. Work comes to one value under answers. Two pieces of work are
alike if they come to related values, each under its own answers.
-/

namespace PromScribe

/-- How those who are asked answer during a run. -/
structure Answers where
  refreshed : Except CollaboratorFault Snapshot
  /-- The completion that is asked for before any query. -/
  proposed : Except CollaboratorFault String
  queried : Except CollaboratorFault QueryData
  related : Except CollaboratorFault (List RelatedMetric)
  /-- The completion that is asked for behind a query. -/
  explained : Except CollaboratorFault String

namespace Answers

/-- The outcome of a call, before or behind a query. -/
def outcome (answers : Answers) (queried : Bool) : (call : Call) → call.Outcome
  | .query _ _ => answers.queried
  | .queryRange _ _ => answers.queried
  | .complete _ => if queried then answers.explained else answers.proposed
  | .related _ => answers.related

/-- Whether the waits behind the call are behind a query. -/
def behind (queried : Bool) : Call → Bool
  | .query _ _ => true
  | .queryRange _ _ => true
  | .complete _ => queried
  | .related _ => queried

end Answers

/-- The waits went as the answers say. -/
def Transcript.Follows (answers : Answers) : Bool → Transcript → Prop
  | _, [] => True
  | queried, .refreshed refreshing :: rest =>
      refreshing.outcome = answers.refreshed ∧ Follows answers queried rest
  | queried, .answered call outcome :: rest =>
      outcome = answers.outcome queried call ∧ Follows answers (Answers.behind queried call) rest

namespace Work

variable {α β γ δ : Type} {answers left right : Answers} {queried further last : Bool}

/-- What the work comes to, and whether there was a query by then. -/
def value (answers : Answers) : Bool → Work α → Bool × α
  | queried, .done value => (queried, value)
  | queried, .refresh resume => value answers queried (resume answers.refreshed)
  | queried, .call needed resume =>
      value answers (Answers.behind queried needed) (resume (answers.outcome queried needed))

/-- A run that goes as the answers say comes to the value. -/
theorem Plays.eq_value {work : Work α} {transcript : Transcript} {result : α}
    (plays : work.Plays transcript result) (follows : transcript.Follows answers queried) :
    result = (work.value answers queried).2 := by
  induction plays generalizing queried with
  | done => rfl
  | refresh refreshing goesOn ih =>
      obtain ⟨same, rest⟩ := follows
      have later := ih rest
      rwa [same] at later
  | call outcome goesOn ih =>
      obtain ⟨rfl, rest⟩ := follows
      exact ih rest

/-- There is a run that goes as the answers say. -/
theorem exists_follows (answers : Answers) (queried : Bool) (work : Work α) :
    ∃ transcript, work.Plays transcript (work.value answers queried).2 ∧
      transcript.Follows answers queried := by
  induction work generalizing queried with
  | done value => exact ⟨[], .done, trivial⟩
  | refresh resume ih =>
      have refreshes : ∃ refreshing : Refreshing, refreshing.outcome = answers.refreshed := by
        cases answers.refreshed with
        | ok snapshot => exact ⟨.kept snapshot, rfl⟩
        | error fault => exact ⟨.discovered ⟨0, ⟨0, 0⟩⟩ (.error fault), rfl⟩
      obtain ⟨refreshing, same⟩ := refreshes
      obtain ⟨rest, plays, follows⟩ := ih answers.refreshed queried
      refine ⟨.refreshed refreshing :: rest, .refresh refreshing ?_, same, follows⟩
      rwa [same]
  | call needed resume ih =>
      obtain ⟨rest, plays, follows⟩ :=
        ih (answers.outcome queried needed) (Answers.behind queried needed)
      exact ⟨.answered needed _ :: rest, .call _ plays, rfl, follows⟩

theorem value_bind (work : Work α) (next : α → Work β) :
    (work.bind next).value answers queried =
      (next (work.value answers queried).2).value answers (work.value answers queried).1 := by
  induction work generalizing queried with
  | done value => rfl
  | refresh resume ih => exact ih answers.refreshed
  | call needed resume ih => exact ih (answers.outcome queried needed)

/-- Each under its own answers, the two come to related values, both behind a query or neither. -/
def Alike (left right : Answers) (queried : Bool) (fits : Bool → α → β → Prop) (work : Work α)
    (other : Work β) : Prop :=
  ∃ further value otherValue, work.value left queried = (further, value) ∧
    other.value right queried = (further, otherValue) ∧ fits further value otherValue

namespace Alike

variable {fits : Bool → α → β → Prop} {work : Work α} {other : Work β}

theorem done {value : α} {otherValue : β} (fit : fits queried value otherValue) :
    Alike left right queried fits (.done value) (.done otherValue) :=
  ⟨queried, value, otherValue, rfl, rfl, fit⟩

theorem refresh {resume : Except CollaboratorFault Snapshot → Work α}
    {otherResume : Except CollaboratorFault Snapshot → Work β}
    (same : left.refreshed = right.refreshed)
    (goesOn : Alike left right queried fits (resume left.refreshed)
      (otherResume left.refreshed)) :
    Alike left right queried fits (.refresh resume) (.refresh otherResume) := by
  obtain ⟨further, value, otherValue, first, second, fit⟩ := goesOn
  rw [same] at second
  exact ⟨further, value, otherValue, first, second, fit⟩

/-- Both are asked for a completion in the same place, whatever the prompts. -/
theorem complete {prompt otherPrompt : String} {resume : Except CollaboratorFault String → Work α}
    {otherResume : Except CollaboratorFault String → Work β}
    (goesOn : Alike left right queried fits
      (resume (left.outcome queried (.complete prompt)))
      (otherResume (right.outcome queried (.complete otherPrompt)))) :
    Alike left right queried fits (.call (.complete prompt) resume)
      (.call (.complete otherPrompt) otherResume) :=
  goesOn

/-- Both run a query. -/
theorem query {promql otherPromql : String} {time otherTime : Option Instant}
    {resume : Except CollaboratorFault QueryData → Work α}
    {otherResume : Except CollaboratorFault QueryData → Work β}
    (goesOn : Alike left right true fits (resume left.queried) (otherResume right.queried)) :
    Alike left right queried fits (.call (.query promql time) resume)
      (.call (.query otherPromql otherTime) otherResume) :=
  goesOn

/-- Both go on with what they came to. -/
theorem bind {fitsNext : Bool → γ → δ → Prop} {next : α → Work γ} {otherNext : β → Work δ}
    (first : Alike left right queried fits work other)
    (goesOn : ∀ further value otherValue, fits further value otherValue →
      Alike left right further fitsNext (next value) (otherNext otherValue)) :
    Alike left right queried fitsNext (work.bind next) (other.bind otherNext) := by
  obtain ⟨further, value, otherValue, leftValue, rightValue, fit⟩ := first
  have later := goesOn further value otherValue fit
  unfold Alike
  rw [value_bind, value_bind, leftValue, rightValue]
  exact later

/-- Runs that go as the answers say come to related values. -/
theorem fits_of_plays {transcript otherTranscript : Transcript} {result : α} {otherResult : β}
    (alike : Alike left right queried fits work other) (plays : work.Plays transcript result)
    (follows : transcript.Follows left queried)
    (playsAlso : other.Plays otherTranscript otherResult)
    (followsAlso : otherTranscript.Follows right queried) :
    ∃ further, fits further result otherResult := by
  obtain ⟨further, value, otherValue, leftValue, rightValue, fit⟩ := alike
  refine ⟨further, ?_⟩
  rwa [plays.eq_value follows, playsAlso.eq_value followsAlso, leftValue, rightValue]

end Alike

end Work

/-- Both fail with the same fault, or both succeed with related values. -/
inductive Together {ε α β : Type} (fits : α → β → Prop) : Except ε α → Except ε β → Prop where
  | error {fault : ε} : Together fits (.error fault) (.error fault)
  | ok {value : α} {otherValue : β} (fit : fits value otherValue) :
      Together fits (.ok value) (.ok otherValue)

/-- What is the same for both is related to itself. -/
theorem Together.refl {ε α : Type} {fits : α → α → Prop} (value : Except ε α)
    (fit : ∀ result, value = .ok result → fits result result) : Together fits value value := by
  cases value with
  | error fault => exact .error
  | ok result => exact .ok (fit result rfl)

namespace Attempt

variable {ε ε' α β γ δ : Type} {left right : Answers} {queried : Bool}
variable {fits : Bool → α → β → Prop}

/-- Each under its own answers, the two fail alike or succeed with related values. -/
def Alike (left right : Answers) (queried : Bool) (fits : Bool → α → β → Prop)
    (attempt : Attempt ε α) (other : Attempt ε β) : Prop :=
  Work.Alike left right queried (fun further => Together (fits further)) attempt.run other.run

namespace Alike

theorem pure {value : α} {otherValue : β} (fit : fits queried value otherValue) :
    Alike left right queried fits (pure value : Attempt ε α) (pure otherValue : Attempt ε β) :=
  Work.Alike.done (.ok fit)

theorem bind {attempt : Attempt ε α} {other : Attempt ε β} {fitsNext : Bool → γ → δ → Prop}
    {next : α → Attempt ε γ} {otherNext : β → Attempt ε δ}
    (first : Alike left right queried fits attempt other)
    (goesOn : ∀ further value otherValue, fits further value otherValue →
      Alike left right further fitsNext (next value) (otherNext otherValue)) :
    Alike left right queried fitsNext (attempt >>= next) (other >>= otherNext) := by
  unfold Alike
  rw [ExceptT.run_bind, ExceptT.run_bind]
  refine Work.Alike.bind first fun further outcome otherOutcome together => ?_
  cases together with
  | error => exact .done .error
  | ok fit => exact goesOn further _ _ fit

theorem ofExcept {failure : ε' → ε} {value : Except ε' α} {other : Except ε' β}
    (together : Together (fits queried) value other) :
    Alike left right queried fits (ofExcept failure value) (ofExcept failure other) := by
  refine Work.Alike.done ?_
  cases together with
  | error => exact .error
  | ok fit => exact .ok fit

theorem ofWork {failure : ε' → ε} {work : Work (Except ε' α)} {other : Work (Except ε' β)}
    (alike : Work.Alike left right queried (fun further => Together (fits further)) work other) :
    Alike left right queried fits (ofWork failure work) (ofWork failure other) := by
  refine Work.Alike.bind alike fun further outcome otherOutcome together => ?_
  cases together with
  | error => exact .done .error
  | ok fit => exact .done (.ok fit)

theorem lift {work : Work α} {other : Work β}
    (alike : Work.Alike left right queried fits work other) :
    Alike left right queried fits (ExceptT.lift work : Attempt ε α)
      (ExceptT.lift other : Attempt ε β) :=
  Work.Alike.bind alike fun _ _ _ fit => .done (.ok fit)

end Alike

end Attempt

end PromScribe

import PromScribe.Catalog.Metric
import PromScribe.Collaborator.Work

/-!
# Transcripts

A transcript lists what happened while work waited: how each refresh of the catalog went for its
caller, and how each call was answered. Work plays a transcript to a value, whoever answered.
-/

namespace PromScribe

/-- How a refresh of the catalog went for its caller. -/
inductive Refreshing where
  /-- A visible snapshot was good. -/
  | kept (snapshot : Snapshot)
  /-- The caller was cancelled before it had the turn. -/
  | turnedAway
  /-- The caller discovered, and took in the reply at a moment. -/
  | discovered (moment : Moment) (reply : Call.discovery.Outcome)

namespace Refreshing

/-- What the caller goes on with. -/
def outcome : Refreshing → Except CollaboratorFault Snapshot
  | .kept snapshot => .ok snapshot
  | .turnedAway => .error .cancelled
  | .discovered _ (.error fault) => .error fault
  | .discovered moment (.ok data) =>
      .ok (.ofSeries moment.wall moment.clock (QueryData.series data))

/-- The calls of the caller. -/
def calls : Refreshing → List Call
  | .kept _ | .turnedAway => []
  | .discovered _ _ => [.discovery]

/-- A refresh needs one call at most. -/
theorem length_calls_le (refreshing : Refreshing) : refreshing.calls.length ≤ 1 := by
  cases refreshing <;> simp [calls]

end Refreshing

/-- One wait of work. -/
inductive Exchange where
  | refreshed (refreshing : Refreshing)
  | answered (call : Call) (outcome : call.Outcome)

/-- The calls made during the wait. -/
def Exchange.calls : Exchange → List Call
  | .refreshed refreshing => refreshing.calls
  | .answered call _ => [call]

/-- The waits of work, in order. -/
abbrev Transcript := List Exchange

/-- The calls of the transcript, in order. -/
def Transcript.calls (transcript : Transcript) : List Call :=
  transcript.flatMap Exchange.calls

@[simp] theorem Transcript.calls_nil : Transcript.calls [] = [] := rfl

@[simp] theorem Transcript.calls_cons (exchange : Exchange) (rest : Transcript) :
    Transcript.calls (exchange :: rest) = exchange.calls ++ Transcript.calls rest := by
  simp [Transcript.calls]

@[simp] theorem Transcript.calls_append (first rest : Transcript) :
    Transcript.calls (first ++ rest) = Transcript.calls first ++ Transcript.calls rest := by
  simp [Transcript.calls]

namespace Work

variable {α β : Type} {transcript : Transcript}

/-- The work comes to the value if its waits end as the transcript says. -/
inductive Plays : Work α → Transcript → α → Prop where
  | done {value : α} : Plays (.done value) [] value
  | refresh {resume : Except CollaboratorFault Snapshot → Work α} {rest : Transcript} {value : α}
      (refreshing : Refreshing) (goesOn : Plays (resume refreshing.outcome) rest value) :
      Plays (.refresh resume) (.refreshed refreshing :: rest) value
  | call {needed : Call} {resume : needed.Outcome → Work α} {rest : Transcript} {value : α}
      (outcome : needed.Outcome) (goesOn : Plays (resume outcome) rest value) :
      Plays (.call needed resume) (.answered needed outcome :: rest) value

theorem plays_done_iff {value result : α} :
    (Work.done value).Plays transcript result ↔ transcript = [] ∧ value = result := by
  constructor
  · intro plays
    cases plays
    exact ⟨rfl, rfl⟩
  · rintro ⟨rfl, rfl⟩
    exact .done

theorem plays_refresh_iff {resume : Except CollaboratorFault Snapshot → Work α} {result : α} :
    (Work.refresh resume).Plays transcript result ↔
      ∃ refreshing rest, transcript = .refreshed refreshing :: rest ∧
        (resume refreshing.outcome).Plays rest result := by
  constructor
  · intro plays
    cases plays with
    | refresh refreshing goesOn => exact ⟨refreshing, _, rfl, goesOn⟩
  · rintro ⟨refreshing, rest, rfl, goesOn⟩
    exact .refresh refreshing goesOn

theorem plays_call_iff {needed : Call} {resume : needed.Outcome → Work α} {result : α} :
    (Work.call needed resume).Plays transcript result ↔
      ∃ outcome rest, transcript = .answered needed outcome :: rest ∧
        (resume outcome).Plays rest result := by
  constructor
  · intro plays
    cases plays with
    | call outcome goesOn => exact ⟨outcome, _, rfl, goesOn⟩
  · rintro ⟨outcome, rest, rfl, goesOn⟩
    exact .call outcome goesOn

/-- The transcript of work that goes on is that of its first part and that of the rest. -/
theorem plays_bind_iff {work : Work α} {next : α → Work β} {result : β} :
    (work.bind next).Plays transcript result ↔
      ∃ first rest value, transcript = first ++ rest ∧ work.Plays first value ∧
        (next value).Plays rest result := by
  induction work generalizing transcript with
  | done value =>
      rw [bind_done]
      constructor
      · intro plays
        exact ⟨[], transcript, value, rfl, .done, plays⟩
      · rintro ⟨first, rest, _, rfl, plays, goesOn⟩
        obtain ⟨rfl, rfl⟩ := plays_done_iff.mp plays
        exact goesOn
  | refresh resume ih =>
      simp only [bind, plays_refresh_iff, ih]
      constructor
      · rintro ⟨refreshing, _, rfl, first, rest, value, rfl, plays, goesOn⟩
        exact ⟨_, rest, value, rfl, ⟨refreshing, first, rfl, plays⟩, goesOn⟩
      · rintro ⟨_, rest, value, rfl, ⟨refreshing, first, rfl, plays⟩, goesOn⟩
        exact ⟨refreshing, _, rfl, first, rest, value, rfl, plays, goesOn⟩
  | call needed resume ih =>
      simp only [bind, plays_call_iff, ih]
      constructor
      · rintro ⟨outcome, _, rfl, first, rest, value, rfl, plays, goesOn⟩
        exact ⟨_, rest, value, rfl, ⟨outcome, first, rfl, plays⟩, goesOn⟩
      · rintro ⟨_, rest, value, rfl, ⟨outcome, first, rfl, plays⟩, goesOn⟩
        exact ⟨outcome, _, rfl, first, rest, value, rfl, plays, goesOn⟩

theorem plays_outcomeOf_iff (needed : Call) (outcome : needed.Outcome) :
    (outcomeOf needed).Plays transcript outcome ↔ transcript = [.answered needed outcome] := by
  simp only [outcomeOf, plays_call_iff, plays_done_iff]
  constructor
  · rintro ⟨_, _, rfl, rfl, rfl⟩
    rfl
  · rintro rfl
    exact ⟨outcome, [], rfl, rfl, rfl⟩

theorem plays_freshSnapshot_iff {outcome : Except CollaboratorFault Snapshot} :
    freshSnapshot.Plays transcript outcome ↔
      ∃ refreshing, transcript = [.refreshed refreshing] ∧ refreshing.outcome = outcome := by
  simp only [freshSnapshot, plays_refresh_iff, plays_done_iff]
  constructor
  · rintro ⟨refreshing, _, rfl, rfl, rfl⟩
    exact ⟨refreshing, rfl, rfl⟩
  · rintro ⟨refreshing, rfl, rfl⟩
    exact ⟨refreshing, [], rfl, rfl, rfl⟩

/-- Answers decide: work that is done has nothing left to wait for, and no other value. -/
theorem Plays.eq_of_append {work : Work α} {value other : α} {rest : Transcript}
    (plays : work.Plays transcript value) (longer : work.Plays (transcript ++ rest) other) :
    rest = [] ∧ other = value := by
  induction plays with
  | done =>
      obtain ⟨ended, same⟩ := plays_done_iff.mp longer
      exact ⟨ended, same.symm⟩
  | refresh refreshing goesOn ih =>
      cases longer with
      | refresh _ longer => exact ih longer
  | call outcome goesOn ih =>
      cases longer with
      | call _ longer => exact ih longer

end Work

namespace Attempt

variable {ε ε' α β : Type} {transcript : Transcript}

theorem plays_pure_iff {value : α} {outcome : Except ε α} :
    (pure value : Attempt ε α).run.Plays transcript outcome ↔
      transcript = [] ∧ .ok value = outcome :=
  Work.plays_done_iff

/-- An attempt that goes on succeeds if both parts do. -/
theorem plays_bind_ok_iff {attempt : Attempt ε α} {next : α → Attempt ε β} {result : β} :
    (attempt >>= next).run.Plays transcript (.ok result) ↔
      ∃ first rest value, transcript = first ++ rest ∧ attempt.run.Plays first (.ok value) ∧
        (next value).run.Plays rest (.ok result) := by
  rw [ExceptT.run_bind]
  refine Work.plays_bind_iff.trans ⟨?_, ?_⟩
  · rintro ⟨first, rest, outcome, split, plays, goesOn⟩
    cases outcome with
    | ok value => exact ⟨first, rest, value, split, plays, goesOn⟩
    | error fault => cases goesOn
  · rintro ⟨first, rest, value, split, plays, goesOn⟩
    exact ⟨first, rest, .ok value, split, plays, goesOn⟩

/-- An attempt that goes on fails with its first part, or with its second if the first succeeds. -/
theorem plays_bind_error_iff {attempt : Attempt ε α} {next : α → Attempt ε β} {fault : ε} :
    (attempt >>= next).run.Plays transcript (.error fault) ↔
      attempt.run.Plays transcript (.error fault) ∨
        ∃ first rest value, transcript = first ++ rest ∧ attempt.run.Plays first (.ok value) ∧
          (next value).run.Plays rest (.error fault) := by
  rw [ExceptT.run_bind]
  refine Work.plays_bind_iff.trans ⟨?_, ?_⟩
  · rintro ⟨first, rest, outcome, rfl, plays, goesOn⟩
    cases outcome with
    | ok value => exact .inr ⟨first, rest, value, rfl, plays, goesOn⟩
    | error cause =>
        obtain ⟨rfl, failed⟩ := Work.plays_done_iff.mp goesOn
        cases failed
        exact .inl (by simpa using plays)
  · rintro (plays | ⟨first, rest, value, split, plays, goesOn⟩)
    · exact ⟨transcript, [], .error fault, by simp, plays, .done⟩
    · exact ⟨first, rest, .ok value, split, plays, goesOn⟩

theorem plays_ofExcept_ok_iff {failure : ε' → ε} {value : Except ε' α} {result : α} :
    (ofExcept failure value).run.Plays transcript (.ok result) ↔
      transcript = [] ∧ value = .ok result := by
  refine Work.plays_done_iff.trans (and_congr_right fun _ => ?_)
  cases value with
  | ok value =>
      constructor
      · intro mapped
        cases mapped
        rfl
      · intro same
        cases same
        rfl
  | error fault =>
      constructor
      · intro mapped
        cases mapped
      · intro same
        cases same

theorem plays_ofExcept_error_iff {failure : ε' → ε} {value : Except ε' α} {fault : ε} :
    (ofExcept failure value).run.Plays transcript (.error fault) ↔
      transcript = [] ∧ ∃ cause, value = .error cause ∧ failure cause = fault := by
  refine Work.plays_done_iff.trans (and_congr_right fun _ => ?_)
  cases value with
  | ok value =>
      constructor
      · intro mapped
        cases mapped
      · rintro ⟨cause, ⟨⟩, -⟩
  | error cause =>
      constructor
      · intro mapped
        cases mapped
        exact ⟨cause, rfl, rfl⟩
      · rintro ⟨_, ⟨⟩, rfl⟩
        rfl

/-- An attempt that begins with a value fails with the value, or else with what comes then. -/
theorem plays_ofExcept_bind_error_iff {failure : ε' → ε} {value : Except ε' α}
    {next : α → Attempt ε β} {fault : ε} :
    (ofExcept failure value >>= next).run.Plays transcript (.error fault) ↔
      (transcript = [] ∧ ∃ cause, value = .error cause ∧ failure cause = fault) ∨
        ∃ result, value = .ok result ∧ (next result).run.Plays transcript (.error fault) := by
  simp only [plays_bind_error_iff, plays_ofExcept_error_iff, plays_ofExcept_ok_iff]
  refine or_congr_right ⟨?_, ?_⟩
  · rintro ⟨_, rest, result, rfl, ⟨rfl, known⟩, goesOn⟩
    exact ⟨result, known, goesOn⟩
  · rintro ⟨result, known, goesOn⟩
    exact ⟨[], transcript, result, rfl, ⟨rfl, known⟩, goesOn⟩

theorem plays_ofWork_ok_iff {failure : ε' → ε} {work : Work (Except ε' α)} {result : α} :
    (ofWork failure work).run.Plays transcript (.ok result) ↔ work.Plays transcript (.ok result) := by
  refine Work.plays_bind_iff.trans ⟨?_, ?_⟩
  · rintro ⟨first, rest, outcome, rfl, plays, goesOn⟩
    obtain ⟨rfl, mapped⟩ := Work.plays_done_iff.mp goesOn
    cases outcome with
    | ok value =>
        cases mapped
        simpa using plays
    | error fault => cases mapped
  · intro plays
    exact ⟨transcript, [], .ok result, by simp, plays, .done⟩

theorem plays_ofWork_error_iff {failure : ε' → ε} {work : Work (Except ε' α)} {fault : ε} :
    (ofWork failure work).run.Plays transcript (.error fault) ↔
      ∃ cause, work.Plays transcript (.error cause) ∧ failure cause = fault := by
  refine Work.plays_bind_iff.trans ⟨?_, ?_⟩
  · rintro ⟨first, rest, outcome, rfl, plays, goesOn⟩
    obtain ⟨rfl, mapped⟩ := Work.plays_done_iff.mp goesOn
    cases outcome with
    | ok value => cases mapped
    | error cause =>
        cases mapped
        exact ⟨cause, by simpa using plays, rfl⟩
  · rintro ⟨cause, plays, rfl⟩
    exact ⟨transcript, [], .error cause, by simp, plays, .done⟩

theorem plays_lift_iff {work : Work α} {result : α} :
    (ExceptT.lift work : Attempt ε α).run.Plays transcript (.ok result) ↔
      work.Plays transcript result := by
  refine Work.plays_bind_iff.trans ⟨?_, ?_⟩
  · rintro ⟨first, rest, value, rfl, plays, goesOn⟩
    obtain ⟨rfl, lifted⟩ := Work.plays_done_iff.mp goesOn
    cases lifted
    simpa using plays
  · intro plays
    exact ⟨transcript, [], result, by simp, plays, .done⟩

theorem not_plays_lift_error {work : Work α} {fault : ε} :
    ¬ (ExceptT.lift work : Attempt ε α).run.Plays transcript (.error fault) := by
  intro plays
  obtain ⟨first, rest, value, rfl, -, goesOn⟩ := Work.plays_bind_iff.mp plays
  obtain ⟨-, lifted⟩ := Work.plays_done_iff.mp goesOn
  cases lifted

end Attempt

end PromScribe

import Mathlib.Tactic.Choose
import PromScribe.Collaborator.Retry

/-!
# What retrying comes to

Attempts are made in their order, up to the first one that settles the matter or to the last one
that is allowed, and the outcome of the last one made is the result. Between two attempts lies one
pause, and there is no other.
-/

namespace PromScribe.RetryPolicy

variable {α : Type} {policy : RetryPolicy} {trial : Trial α} {trials : Nat → Trial α}
variable {tried : Nat → TimeSpan × Except CollaboratorFault α} {number count limit : Nat}

/-- How an attempt ends: in its own time and way, or at the limit if it goes on beyond that. -/
inductive Ends (policy : RetryPolicy) (trial : Trial α) :
    TimeSpan × Except CollaboratorFault α → Prop where
  | inTime {duration : TimeSpan} (lasts : trial.duration = some duration)
      (within : ∀ limit, policy.limit = some limit → duration.nanoseconds ≤ limit.nanoseconds) :
      Ends policy trial (duration, trial.outcome)
  | late {limit : TimeSpan} (limited : policy.limit = some limit)
      (beyond : ∀ duration, trial.duration = some duration →
        limit.nanoseconds < duration.nanoseconds) :
      Ends policy trial
        (limit, .error (.timeout ("no response within " ++ limit.decimalUnitText)))

theorem Ends.cutOff_eq {ended : TimeSpan × Except CollaboratorFault α}
    (ends : policy.Ends trial ended) : policy.cutOff trial = some ended := by
  unfold cutOff
  cases ends with
  | inTime lasts within =>
      rw [lasts]
      cases limited : policy.limit with
      | none => rfl
      | some limit => exact if_neg (Nat.not_lt.mpr (within limit limited))
  | late limited beyond =>
      rw [limited]
      cases lasts : trial.duration with
      | none => rfl
      | some duration => exact if_pos (beyond duration lasts)

/-- An attempt ends by itself or at the limit. -/
theorem exists_ends (lasting : trial.duration.isSome = true ∨ policy.limit.isSome = true) :
    ∃ ended, policy.Ends trial ended := by
  cases lasts : trial.duration with
  | none =>
      have limited : policy.limit.isSome = true := lasting.resolve_left (by simp [lasts])
      obtain ⟨limit, same⟩ := Option.isSome_iff_exists.mp limited
      exact ⟨_, .late same (by simp [lasts])⟩
  | some duration =>
      cases limited : policy.limit with
      | none => exact ⟨_, .inTime lasts (by simp [limited])⟩
      | some limit =>
          rcases Nat.lt_or_ge limit.nanoseconds duration.nanoseconds with beyond | within
          · refine ⟨_, .late limited fun other same => ?_⟩
            rw [lasts, Option.some.injEq] at same
            exact same ▸ beyond
          · refine ⟨_, .inTime lasts fun other same => ?_⟩
            rw [limited, Option.some.injEq] at same
            exact same ▸ within

/-- The outcome leaves nothing to try again for. -/
def settles : Except CollaboratorFault α → Bool
  | .ok _ => true
  | .error fault => !fault.isRetryable

/-- The attempt is the first one that settles the matter. -/
def IsFirst (tried : Nat → TimeSpan × Except CollaboratorFault α) (number : Nat) : Prop :=
  settles (tried number).2 = true ∧ ∀ earlier < number, settles (tried earlier).2 = false

/-- The attempts, each with its duration, and a pause between two of them. -/
def courseOf (policy : RetryPolicy) (tried : Nat → TimeSpan × Except CollaboratorFault α)
    (count : Nat) : List Stretch :=
  ((List.range count).map fun number => .attempt (tried number).1).intersperse
    (.pause policy.pause)

/-- The outcome of the last of the attempts, and what is told if there are none. -/
def outcomeOf (tried : Nat → TimeSpan × Except CollaboratorFault α) :
    Nat → Except CollaboratorFault α
  | 0 => .error noAttempt
  | before + 1 => (tried before).2

theorem intersperse_concat (front : List Stretch) (last between : Stretch) :
    (front ++ [last]).intersperse between =
      (if front = [] then [] else front.intersperse between ++ [between]) ++ [last] := by
  induction front with
  | nil => rfl
  | cons first front ih =>
      cases front with
      | nil => rfl
      | cons second front =>
          rw [List.cons_append, List.cons_append, List.intersperse_cons_cons,
            ← List.cons_append, ih]
          simp

theorem courseOf_succ (policy : RetryPolicy)
    (tried : Nat → TimeSpan × Except CollaboratorFault α) (count : Nat) :
    policy.courseOf tried (count + 1) =
      (if count = 0 then policy.courseOf tried count
        else policy.courseOf tried count ++ [.pause policy.pause]) ++
          [.attempt (tried count).1] := by
  unfold courseOf
  rw [List.range_succ, List.map_append, List.map_singleton, intersperse_concat]
  cases count with
  | zero => rfl
  | succ before => simp

theorem countP_courseOf : (policy.courseOf tried count).countP Stretch.isAttempt = count := by
  induction count with
  | zero => rfl
  | succ count ih =>
      rw [courseOf_succ]
      split
      · rw [List.countP_append, ih]
        rfl
      · rw [List.countP_append, List.countP_append, ih]
        rfl

theorem total_concat (spans : List TimeSpan) (last : TimeSpan) :
    TimeSpan.total (spans ++ [last]) =
      ⟨(TimeSpan.total spans).nanoseconds + last.nanoseconds⟩ := by
  induction spans with
  | nil => exact congrArg TimeSpan.mk (Nat.add_comm _ _)
  | cons span spans ih =>
      rw [List.cons_append, TimeSpan.total, ih, TimeSpan.total]
      exact congrArg TimeSpan.mk (Nat.add_assoc _ _ _).symm

theorem total_courseOf : TimeSpan.total ((policy.courseOf tried count).map Stretch.duration) =
    ⟨(TimeSpan.total ((List.range count).map fun number => (tried number).1)).nanoseconds +
      (count - 1) * policy.pause.nanoseconds⟩ := by
  induction count with
  | zero => simp [courseOf, TimeSpan.total, TimeSpan.zero]
  | succ before ih =>
      rw [courseOf_succ, List.map_append, List.map_singleton, total_concat, List.range_succ,
        List.map_append, List.map_singleton, total_concat, Nat.add_sub_cancel]
      cases before with
      | zero => simp [courseOf, TimeSpan.total, TimeSpan.zero, Stretch.duration]
      | succ earlier =>
          rw [if_neg (Nat.succ_ne_zero earlier), List.map_append, List.map_singleton, total_concat,
            ih, Nat.add_sub_cancel, Nat.succ_mul]
          dsimp only [Stretch.duration]
          exact congrArg TimeSpan.mk (by omega)

/-- After how many attempts retrying stops that may make as many as the limit says: before the last
one nothing was settled, and the last one settles the matter or is the last one allowed. -/
structure StopsAfter (tried : Nat → TimeSpan × Except CollaboratorFault α) (limit count : Nat) :
    Prop where
  le : count ≤ limit
  unsettled : ∀ number, number + 1 < count → settles (tried number).2 = false
  stops : count = limit ∨ ∃ last, count = last + 1 ∧ settles (tried last).2 = true

/-- The loop: with all attempts so far made in vain, the rest of them are made up to where retrying
stops. -/
theorem exists_executeFrom (left : Nat) {failure : CollaboratorFault} {course : List Stretch}
    (ends : ∀ later, number ≤ later → later < number + left →
      policy.Ends (trials later) (tried later))
    (unsettled : ∀ earlier < number, settles (tried earlier).2 = false)
    (failed : outcomeOf tried number = .error failure)
    (gone : course = policy.courseOf tried number) :
    ∃ count, StopsAfter tried (number + left) count ∧
      policy.executeFrom trials number failure course left =
        some ⟨outcomeOf tried count, policy.courseOf tried count⟩ := by
  induction left generalizing number failure course with
  | zero =>
      refine ⟨number, ⟨Nat.le_refl number, ?_, .inl rfl⟩, ?_⟩
      · exact fun earlier less => unsettled earlier (by omega)
      · rw [executeFrom, failed, gone]
  | succ left ih =>
      have ended := (ends number (Nat.le_refl number) (by omega)).cutOff_eq
      have longer := courseOf_succ policy tried number
      have outcome_eq : outcomeOf tried (number + 1) = (tried number).2 := rfl
      have stopsHere (settled : settles (tried number).2 = true) :
          StopsAfter tried (number + (left + 1)) (number + 1) :=
        ⟨by omega, fun earlier less => unsettled earlier (by omega), .inr ⟨number, rfl, settled⟩⟩
      have goesOn (again : settles (tried number).2 = false) :
          ∀ earlier < number + 1, settles (tried earlier).2 = false := by
        intro earlier less
        rcases Nat.lt_succ_iff_lt_or_eq.mp less with before | rfl
        · exact unsettled earlier before
        · exact again
      unfold executeFrom
      dsimp only
      rw [ended, gone]
      generalize tried number = own at longer outcome_eq stopsHere goesOn
      obtain ⟨duration, outcome⟩ := own
      dsimp only at longer outcome_eq stopsHere goesOn
      cases outcome with
      | ok value =>
          refine ⟨number + 1, stopsHere rfl, ?_⟩
          rw [outcome_eq, longer]
      | error fault =>
          dsimp only
          rw [← longer]
          by_cases again : fault.isRetryable = true
          · rw [if_pos again]
            have more : number + 1 + left = number + (left + 1) := by omega
            have vain : settles (.error fault : Except CollaboratorFault α) = false := by
              rw [settles, again, Bool.not_true]
            obtain ⟨count, stops, ran⟩ := ih
              (fun later above below => ends later (by omega) (more ▸ below)) (goesOn vain)
              outcome_eq rfl
            exact ⟨count, more ▸ stops, ran⟩
          · rw [if_neg again, ← outcome_eq]
            have settled : settles (.error fault : Except CollaboratorFault α) = true := by
              rw [settles, eq_false_of_ne_true again, Bool.not_false]
            exact ⟨number + 1, stopsHere settled, rfl⟩

/-- What comes of retrying if the attempts end as told. -/
structure Runs (policy : RetryPolicy) (tried : Nat → TimeSpan × Except CollaboratorFault α)
    (retried : Retried α) : Prop where
  attempts_of_first : ∀ number, IsFirst tried number →
    retried.attempts = min policy.attempts (number + 1)
  attempts_of_none : (∀ number < policy.attempts, settles (tried number).2 = false) →
    retried.attempts = policy.attempts
  result_of_first : ∀ number < policy.attempts, IsFirst tried number →
    retried.result = (tried number).2
  result_of_none : (∀ number < policy.attempts, settles (tried number).2 = false) →
    ∀ last, policy.attempts = last + 1 →
      ∃ fault, (tried last).2 = .error fault ∧ retried.result = .error fault
  /-- An attempt may fail in the words that tell of no attempt. -/
  untried_iff : retried.result = .error (.unknown "no attempts were made") ↔
    policy.attempts = 0 ∨ ∃ last, retried.attempts = last + 1 ∧
      (tried last).2 = .error (.unknown "no attempts were made")
  course_eq : retried.course = ((List.range retried.attempts).map fun number =>
    Stretch.attempt (tried number).1).intersperse (.pause policy.pause)
  elapsed_eq : retried.elapsed =
    ⟨(TimeSpan.total
      ((List.range retried.attempts).map fun number => (tried number).1)).nanoseconds +
        (retried.attempts - 1) * policy.pause.nanoseconds⟩

namespace StopsAfter

variable (stops : StopsAfter tried limit count)
include stops

/-- Retrying stops at the first attempt that settles the matter, if it is allowed. -/
theorem eq_of_first (first : IsFirst tried number) : count = min limit (number + 1) := by
  obtain ⟨settled, before⟩ := first
  have within : count ≤ number + 1 := by
    refine Nat.le_of_not_lt fun beyond => ?_
    rw [stops.unsettled number beyond] at settled
    cases settled
  rcases stops.stops with rfl | ⟨last, rfl, end_settled⟩
  · exact (Nat.min_eq_left within).symm
  · have same : number ≤ last := by
      refine Nat.le_of_not_lt fun earlier => ?_
      rw [before last earlier] at end_settled
      cases end_settled
    have le := stops.le
    omega

theorem eq_of_none (none : ∀ number < limit, settles (tried number).2 = false) : count = limit := by
  rcases stops.stops with same | ⟨last, rfl, settled⟩
  · exact same
  · rw [none last stops.le] at settled
    cases settled

theorem eq_zero_iff : count = 0 ↔ limit = 0 := by
  constructor
  · rintro rfl
    rcases stops.stops with same | ⟨last, absurd, -⟩
    · exact same.symm
    · cases absurd
  · rintro rfl
    exact Nat.eq_zero_of_le_zero stops.le

/-- What is told if there are no attempts is told then, or in the words of the last attempt. -/
theorem outcomeOf_eq_noAttempt_iff : outcomeOf tried count = .error noAttempt ↔
    limit = 0 ∨ ∃ last, count = last + 1 ∧ (tried last).2 = .error noAttempt := by
  rw [← stops.eq_zero_iff]
  cases count with
  | zero => exact iff_of_true rfl (.inl rfl)
  | succ before =>
      constructor
      · exact fun failed => .inr ⟨before, rfl, failed⟩
      · rintro (none_made | ⟨last, same, failed⟩)
        · cases none_made
        · obtain rfl := Nat.succ.inj same
          exact failed

end StopsAfter

theorem StopsAfter.runs (stops : StopsAfter tried policy.attempts count) :
    policy.Runs tried ⟨outcomeOf tried count, policy.courseOf tried count⟩ := by
  have attempts : Retried.attempts ⟨outcomeOf tried count, policy.courseOf tried count⟩ = count :=
    countP_courseOf
  constructor
  case attempts_of_first =>
    intro number first
    rw [attempts]
    exact stops.eq_of_first first
  case attempts_of_none =>
    intro none
    rw [attempts]
    exact stops.eq_of_none none
  case result_of_first =>
    intro number less first
    have last : count = number + 1 := by
      rw [stops.eq_of_first first]
      exact Nat.min_eq_right less
    rw [last]
    rfl
  case result_of_none =>
    intro none last allowed
    rw [stops.eq_of_none none, allowed]
    have vain := none last (by omega)
    cases failed : (tried last).2 with
    | ok value =>
        rw [failed] at vain
        cases vain
    | error fault => exact ⟨fault, rfl, failed⟩
  case untried_iff =>
    rw [attempts]
    exact stops.outcomeOf_eq_noAttempt_iff
  case course_eq =>
    rw [attempts]
    rfl
  case elapsed_eq =>
    rw [attempts]
    exact total_courseOf

/-- Attempts each of which ends by itself or at the limit are made up to the first one that settles
the matter or to the last one allowed, with a pause between two of them. -/
theorem execute_runs (policy : RetryPolicy) (trials : Nat → Trial α)
    (lasting : ∀ number < policy.attempts,
      (trials number).duration.isSome = true ∨ policy.limit.isSome = true) :
    ∃ tried, (∀ number < policy.attempts, policy.Ends (trials number) (tried number)) ∧
      ∃ retried, policy.execute trials = some retried ∧ policy.Runs tried retried := by
  have each (number : Nat) :
      ∃ ended, number < policy.attempts → policy.Ends (trials number) ended := by
    by_cases allowed : number < policy.attempts
    · obtain ⟨ended, ends⟩ := exists_ends (lasting number allowed)
      exact ⟨ended, fun _ => ends⟩
    · exact ⟨(.zero, .error noAttempt), fun less => absurd less allowed⟩
  choose tried ends using each
  have all : ∀ later, 0 ≤ later → later < 0 + policy.attempts →
      policy.Ends (trials later) (tried later) := fun later _ less => ends later (by omega)
  obtain ⟨count, stops, ran⟩ := exists_executeFrom policy.attempts all nofun rfl rfl
  rw [Nat.zero_add] at stops
  exact ⟨tried, ends, _, ran, stops.runs⟩

/-- Four attempts of five seconds, two seconds apart. -/
def patientPolicy : RetryPolicy :=
  ⟨4, .ofSeconds 2, some (.ofSeconds 5)⟩

/-- The first attempt hangs, the second one is refused, and the third one succeeds at the limit. -/
def lateSuccess : Nat → Trial Nat
  | 0 => ⟨none, .ok 0⟩
  | 1 => ⟨some (.ofSeconds 1), .error (.connection "refused")⟩
  | _ => ⟨some (.ofSeconds 5), .ok 42⟩

theorem execute_runs_lateSuccess :
    ∃ retried, patientPolicy.execute lateSuccess = some retried ∧ retried.attempts = 3 ∧
      retried.result = .ok 42 ∧ retried.elapsed = .ofSeconds 15 ∧
      retried.course = [.attempt (.ofSeconds 5), .pause (.ofSeconds 2), .attempt (.ofSeconds 1),
        .pause (.ofSeconds 2), .attempt (.ofSeconds 5)] := by
  obtain ⟨tried, ends, retried, ran, runs⟩ :=
    execute_runs patientPolicy lateSuccess fun _ _ => .inr rfl
  have hung : tried 0 = (.ofSeconds 5, .error (timeoutFault (.ofSeconds 5))) :=
    Option.some.inj ((ends 0 (by decide)).cutOff_eq.symm.trans rfl)
  have refused : tried 1 = (.ofSeconds 1, .error (.connection "refused")) :=
    Option.some.inj ((ends 1 (by decide)).cutOff_eq.symm.trans rfl)
  have answered : tried 2 = (.ofSeconds 5, .ok 42) :=
    Option.some.inj ((ends 2 (by decide)).cutOff_eq.symm.trans rfl)
  have first : IsFirst tried 2 := by
    refine ⟨by rw [answered]; rfl, fun earlier less => ?_⟩
    rcases Nat.lt_succ_iff_lt_or_eq.mp less with before | rfl
    · rw [Nat.lt_one_iff.mp before, hung]
      rfl
    · rw [refused]
      rfl
  have three : retried.attempts = 3 := runs.attempts_of_first 2 first
  have result := runs.result_of_first 2 (by decide) first
  have elapsed := runs.elapsed_eq
  have course := runs.course_eq
  rw [three] at elapsed course
  simp only [List.range_succ_eq_map, List.range_zero, List.map_cons, List.map_nil, hung, refused,
    answered] at elapsed course
  exact ⟨retried, ran, three, result.trans (congrArg Prod.snd answered), elapsed, course⟩

end PromScribe.RetryPolicy

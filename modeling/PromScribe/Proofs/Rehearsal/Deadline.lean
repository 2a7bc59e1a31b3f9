import PromScribe.Proofs.Collaborator.Cut
import PromScribe.Rehearsal.Stage

/-!
# Deadlines on the stage

With collaborators that heed the token no wait goes beyond the deadline: it has its own outcome in
time, or it is cut short when the token fires. From then on every call is cut short at once.
-/

namespace PromScribe.Rehearsal

variable {α : Type} {stage after : Stage} {queue : Queue} {due : Nat}

/-- Every call that the scripts tell of heeds the token. -/
structure Scripts.Heed (scripts : Scripts) : Prop where
  discovery : ∀ cue ∈ scripts.discovery, cue.heedless = false
  query : ∀ cue ∈ scripts.query, cue.heedless = false
  range : ∀ cue ∈ scripts.range, cue.heedless = false
  completion : ∀ cue ∈ scripts.completion, cue.heedless = false
  related : ∀ cue ∈ scripts.related, cue.heedless = false

/-- The next cue heeds the token, and so do those that are left. -/
theorem Script.next_heeds {script : Script α} (default : α)
    (heed : ∀ cue ∈ script, cue.heedless = false) :
    (script.next default).1.heedless = false ∧
      ∀ cue ∈ (script.next default).2, cue.heedless = false := by
  match script with
  | [] => exact ⟨rfl, heed⟩
  | [last] => exact ⟨heed last List.mem_cons_self, heed⟩
  | first :: second :: rest =>
      exact ⟨heed first List.mem_cons_self, fun cue mem => heed cue (List.mem_cons_of_mem _ mem)⟩

namespace Stage

/-- Behind nobody a refresh is just a refresh. -/
theorem refreshBehind_empty (stage : Stage) : stage.refreshBehind .empty = stage.refresh := by
  unfold refreshBehind refresh
  cases stage.catalog.fresh? stage.clock with
  | some snapshot => rfl
  | none =>
      cases fired : stage.token.fired with
      | true => simp [playHeeding, takeTurn, fired]
      | false =>
          have uncut : stage.cutAt? (some 0) = none := by
            unfold cutAt?
            cases stage.token.due <;> simp
          have instant : stage.playHeeding Queue.empty.cue = some (stage, .ok ()) := by
            simp [playHeeding, fired, Queue.empty, Queue.cue, uncut, laterAt]
          rw [instant]
          rfl

theorem runBehind_empty (stage : Stage) (work : Work α) :
    stage.runBehind .empty work = stage.run work := by
  induction work generalizing stage with
  | done value => rfl
  | refresh resume ih => simp only [runBehind, run, refreshBehind_empty, ih]
  | call needed resume ih => simp only [runBehind, run, ih]

/-- There is a deadline, and the collaborators heed the token. -/
structure Bounded (stage : Stage) (due : Nat) : Prop where
  due_eq : stage.token.due = some due
  heed : stage.scripts.Heed

/-- A wait under a deadline led to the later stage with the outcome. -/
structure Waited (stage after : Stage) (due : Nat) (outcome : Except CollaboratorFault α) :
    Prop where
  bounded : after.Bounded due
  clock_le : after.clock ≤ Nat.max stage.clock due
  fired : stage.token.fired = true → after.token.fired = true
  cancelled : after.token.fired = true → outcome = .error .cancelled

/-- A wait is cut at the deadline. -/
theorem eq_of_cutAt? {wait : Option Nat} {moment : Nat} (bounded : stage.Bounded due)
    (cut : stage.cutAt? wait = some moment) : moment = Nat.max stage.clock due := by
  unfold cutAt? at cut
  rw [bounded.due_eq] at cut
  cases wait with
  | none => exact (Option.some.inj cut).symm
  | some length =>
      by_cases within : (0 < length && due < stage.clock + length) = true
      · simp only [within, if_true, Option.some.injEq] at cut
        exact cut.symm
      · simp only [within, Bool.false_eq_true, if_false, reduceCtorEq] at cut

/-- A wait that is not cut has an end, and ends by the deadline. -/
theorem exists_of_cutAt?_eq_none {wait : Option Nat} (bounded : stage.Bounded due)
    (uncut : stage.cutAt? wait = none) :
    ∃ length, wait = some length ∧ stage.clock + length ≤ Nat.max stage.clock due := by
  unfold cutAt? at uncut
  rw [bounded.due_eq] at uncut
  cases wait with
  | none => cases uncut
  | some length =>
      refine ⟨length, rfl, ?_⟩
      have inTime : length = 0 ∨ stage.clock + length ≤ due := by
        simp only [ite_eq_right_iff, reduceCtorEq, imp_false, Bool.and_eq_true,
          decide_eq_true_eq] at uncut
        omega
      rcases inTime with instant | inTime
      · rw [instant]
        exact Nat.le_max_left _ _
      · exact Nat.le_trans inTime (Nat.le_max_right _ _)

/-- A call that heeds the token ends by the deadline. -/
theorem exists_playHeeding (bounded : stage.Bounded due) (cue : Cue α) :
    ∃ after outcome, stage.playHeeding cue = some (after, outcome) ∧
      stage.Waited after due outcome := by
  unfold playHeeding
  cases fired : stage.token.fired with
  | true =>
      refine ⟨stage, .error .cancelled, by simp, bounded, Nat.le_max_left _ _, ?_, fun _ => rfl⟩
      exact fun _ => fired
  | false =>
      simp only [Bool.false_eq_true, if_false]
      split
      · next moment cut =>
          refine ⟨_, _, rfl, ⟨bounded.due_eq, bounded.heed⟩, ?_, fun _ => rfl, fun _ => rfl⟩
          exact Nat.le_of_eq (eq_of_cutAt? bounded cut)
      · next uncut =>
          obtain ⟨length, ends, inTime⟩ := exists_of_cutAt?_eq_none bounded uncut
          cases hangs : cue.hangs with
          | true => simp [hangs] at ends
          | false =>
              obtain rfl : cue.delay = length := by simpa [hangs] using ends
              refine ⟨_, _, rfl, ⟨bounded.due_eq, bounded.heed⟩, inTime, ?_, ?_⟩
              · intro begun
                cases fired.symm.trans begun
              · intro ended
                cases fired.symm.trans ended

theorem exists_play (bounded : stage.Bounded due) {cue : Cue α} (heeds : cue.heedless = false) :
    ∃ after outcome, stage.play cue = some (after, outcome) ∧
      stage.Waited after due outcome := by
  simp only [play, heeds, Bool.false_eq_true, if_false]
  cases cue.cancels with
  | true =>
      have begun : stage.fire.Bounded due := ⟨bounded.due_eq, bounded.heed⟩
      obtain ⟨after, outcome, played, waited⟩ := exists_playHeeding begun cue
      refine ⟨after, outcome, played, waited.bounded, waited.clock_le, ?_, waited.cancelled⟩
      exact fun _ => waited.fired rfl
  | false => exact exists_playHeeding bounded cue

/-- Each call ends by the deadline. -/
theorem exists_perform (bounded : stage.Bounded due) (needed : Call) :
    ∃ after outcome, stage.perform needed = some (after, outcome) ∧
      stage.Waited after due outcome := by
  have heed := bounded.heed
  have scripted {α : Type} {cue : Cue α} {scripts : Scripts} (heeds : cue.heedless = false)
      (left : scripts.Heed) :
      ∃ after outcome, ((stage.record needed).withScripts scripts).play cue =
          some (after, outcome) ∧ stage.Waited after due outcome := by
    have set : ((stage.record needed).withScripts scripts).Bounded due := ⟨bounded.due_eq, left⟩
    obtain ⟨after, outcome, played, waited⟩ := exists_play set heeds
    exact ⟨after, outcome, played, waited.bounded, waited.clock_le, waited.fired, waited.cancelled⟩
  cases needed with
  | query promql time =>
      simp only [perform, answer]
      split
      · obtain ⟨heeds, left⟩ := Script.next_heeds QueryData.empty heed.discovery
        exact scripted heeds ⟨left, heed.query, heed.range, heed.completion, heed.related⟩
      · obtain ⟨heeds, left⟩ := Script.next_heeds QueryData.empty heed.query
        exact scripted heeds ⟨heed.discovery, left, heed.range, heed.completion, heed.related⟩
  | queryRange promql range =>
      obtain ⟨heeds, left⟩ := Script.next_heeds QueryData.empty heed.range
      exact scripted heeds ⟨heed.discovery, heed.query, left, heed.completion, heed.related⟩
  | complete prompt =>
      obtain ⟨heeds, left⟩ := Script.next_heeds "" heed.completion
      exact scripted heeds ⟨heed.discovery, heed.query, heed.range, left, heed.related⟩
  | related name =>
      obtain ⟨heeds, left⟩ := Script.next_heeds [] heed.related
      exact scripted heeds ⟨heed.discovery, heed.query, heed.range, heed.completion, left⟩

/-- Taking in the outcome of a discovery keeps to what the discovery led to. -/
theorem Waited.conclude {reply : Except CollaboratorFault QueryData}
    (waited : stage.Waited after due reply) :
    stage.Waited (after.conclude reply).1 due (after.conclude reply).2 := by
  cases reply with
  | error fault =>
      refine ⟨waited.bounded, waited.clock_le, waited.fired, fun fired => ?_⟩
      cases waited.cancelled fired
      rfl
  | ok data =>
      have bounded : (after.conclude (.ok data)).1.Bounded due :=
        ⟨waited.bounded.due_eq, waited.bounded.heed⟩
      refine ⟨bounded, waited.clock_le, waited.fired, fun fired => ?_⟩
      cases waited.cancelled fired

theorem exists_takeTurn (bounded : stage.Bounded due) (live : stage.token.fired = false) :
    ∃ after outcome, stage.takeTurn = some (after, outcome) ∧
      stage.Waited after due outcome := by
  unfold takeTurn
  simp only [live, Bool.false_eq_true, if_false]
  cases stage.catalog.fresh? stage.clock with
  | some snapshot =>
      refine ⟨stage, .ok snapshot, rfl, bounded, Nat.le_max_left _ _, id, fun fired => ?_⟩
      cases live.symm.trans fired
  | none =>
      obtain ⟨after, reply, performed, waited⟩ := exists_perform bounded Call.discovery
      exact ⟨_, _, by simp only [performed, Option.map_some], waited.conclude⟩

/-- A refresh ends by the deadline, be it that the turn does not come in time. -/
theorem exists_refreshBehind (queue : Queue) (bounded : stage.Bounded due)
    (live : stage.token.fired = false) :
    ∃ after outcome, stage.refreshBehind queue = some (after, outcome) ∧
      stage.Waited after due outcome := by
  unfold refreshBehind
  cases stage.catalog.fresh? stage.clock with
  | some snapshot =>
      refine ⟨stage, .ok snapshot, rfl, bounded, Nat.le_max_left _ _, id, fun fired => ?_⟩
      cases live.symm.trans fired
  | none =>
      obtain ⟨turn, outcome, played, waited⟩ := exists_playHeeding bounded queue.cue
      cases outcome with
      | error fault =>
          refine ⟨turn, .error fault, by simp only [played], waited.bounded, waited.clock_le,
            waited.fired, fun fired => ?_⟩
          cases waited.cancelled fired
          rfl
      | ok _ =>
          have alive : (turn.succeeding queue).token.fired = false := by
            refine eq_false_of_ne_true fun fired => ?_
            cases waited.cancelled fired
          have kept : (turn.succeeding queue).Bounded due :=
            ⟨waited.bounded.due_eq, waited.bounded.heed⟩
          obtain ⟨after, outcome, taken, rest⟩ := exists_takeTurn kept alive
          have inTime : after.clock ≤ Nat.max stage.clock due :=
            Nat.le_trans rest.clock_le (Nat.max_le.mpr ⟨waited.clock_le, Nat.le_max_right _ _⟩)
          refine ⟨after, outcome, by simp only [played, taken], rest.bounded, inTime, ?_,
            rest.cancelled⟩
          exact fun fired => rest.fired (waited.fired fired)

/-- After the deadline work ends at once, as it does with every call cut short. -/
theorem exists_run_of_abandoned {ending : α → Prop} {work : Work α}
    (abandoned : work.Abandoned ending) (bounded : stage.Bounded due)
    (fired : stage.token.fired = true) :
    ∃ after value, stage.runBehind queue work = some (after, value) ∧ ending value ∧
      after.clock ≤ Nat.max stage.clock due := by
  induction abandoned generalizing stage with
  | @done value ends => exact ⟨stage, value, rfl, ends, Nat.le_max_left _ _⟩
  | @call needed resume goesOn ih =>
      obtain ⟨middle, outcome, performed, waited⟩ := exists_perform bounded needed
      obtain rfl := waited.cancelled (waited.fired fired)
      obtain ⟨after, value, ran, ends, inTime⟩ := ih waited.bounded (waited.fired fired)
      refine ⟨after, value, ?_, ends, ?_⟩
      · simp only [runBehind, performed, Option.bind_some, ran]
      · exact Nat.le_trans inTime (Nat.max_le.mpr ⟨waited.clock_le, Nat.le_max_right _ _⟩)

/-- After a wait work goes on, or it ends with every call cut short if the token fired meanwhile. -/
theorem exists_run_of_waited {β : Type} {ending : α → Prop}
    {resume : Except CollaboratorFault β → Work α} {outcome : Except CollaboratorFault β}
    (cut : (resume (.error .cancelled)).Abandoned ending)
    (goesOn : ∀ outcome {stage : Stage}, stage.Bounded due → stage.token.fired = false →
      ∃ last value, stage.runBehind queue (resume outcome) = some (last, value) ∧
        (last.token.fired = true → ending value) ∧ last.clock ≤ Nat.max stage.clock due)
    (waited : stage.Waited after due outcome) :
    ∃ last value, after.runBehind queue (resume outcome) = some (last, value) ∧
      (last.token.fired = true → ending value) ∧ last.clock ≤ Nat.max stage.clock due := by
  have later : Nat.max after.clock due ≤ Nat.max stage.clock due :=
    Nat.max_le.mpr ⟨waited.clock_le, Nat.le_max_right _ _⟩
  cases fired : after.token.fired with
  | true =>
      obtain rfl := waited.cancelled fired
      obtain ⟨last, value, ran, ends, inTime⟩ := exists_run_of_abandoned cut waited.bounded fired
      exact ⟨last, value, ran, fun _ => ends, Nat.le_trans inTime later⟩
  | false =>
      obtain ⟨last, value, ran, ends, inTime⟩ := goesOn outcome waited.bounded fired
      exact ⟨last, value, ran, ends, Nat.le_trans inTime later⟩

/-- Work that heeds being cut short ends by the deadline, and as it should if the token fired. -/
theorem exists_run_of_heeds {ending : α → Prop} {work : Work α} (heeds : work.Heeds ending)
    (bounded : stage.Bounded due) (live : stage.token.fired = false) :
    ∃ after value, stage.runBehind queue work = some (after, value) ∧
      (after.token.fired = true → ending value) ∧ after.clock ≤ Nat.max stage.clock due := by
  induction heeds generalizing stage with
  | @done value =>
      refine ⟨stage, value, rfl, fun fired => ?_, Nat.le_max_left _ _⟩
      cases live.symm.trans fired
  | @refresh resume cut _ ih =>
      obtain ⟨middle, outcome, refreshed, waited⟩ := exists_refreshBehind queue bounded live
      obtain ⟨after, value, ran, ends, inTime⟩ := exists_run_of_waited cut ih waited
      refine ⟨after, value, ?_, ends, inTime⟩
      simp only [runBehind, refreshed, Option.bind_some, ran]
  | @call needed resume cut _ ih =>
      obtain ⟨middle, outcome, performed, waited⟩ := exists_perform bounded needed
      obtain ⟨after, value, ran, ends, inTime⟩ := exists_run_of_waited cut ih waited
      refine ⟨after, value, ?_, ends, inTime⟩
      simp only [runBehind, performed, Option.bind_some, ran]

end Stage

end PromScribe.Rehearsal

import PromScribe.Proofs.Refresh.SingleFlight

/-!
# Whole and current snapshots

Every snapshot that readers or callers get is the initial one or that of one whole reply. A caller
that succeeds gets the visible snapshot while it is good, or the one that it has just shown; a
caller that does not succeed changes nothing that others see, and what they see never gets older.
-/

namespace PromScribe.Refresh

variable {ttl : Nat} {state next last : State} {event : Event} {events : List Event}
variable {caller : Nat} {snapshot : Snapshot} {phase : Phase}

/-- The snapshot was built, at the time of the clock, of the whole reply that its builder had. -/
def OfReply (ttl : Nat) (events : List Event) (snapshot : Snapshot) : Prop :=
  ∃ before after built caller data wall,
    events = before ++ .prepare caller wall :: after ∧
      run (.initial ttl) before = some built ∧
        Event.reply caller (.ok data) ∈ before ∧ built.phase caller = .informed data ∧
          snapshot = .ofSeries wall built.clock data.series

/-- The snapshot is the initial one or that of one whole reply. -/
def Genuine (ttl : Nat) (events : List Event) (snapshot : Snapshot) : Prop :=
  snapshot = .initial ∨ OfReply ttl events snapshot

/-- The caller, about to succeed, has the visible snapshot while it is good, or shows its own. -/
def Yields (ttl : Nat) (state : State) (event : Event) (next : State) (caller : Nat)
    (snapshot : Snapshot) : Prop :=
  (event = .judge caller ∧ state.visible = snapshot ∧
    ∃ moment, snapshot.refreshedAt = some moment ∧ state.clock < moment + ttl) ∨
  (event = .publish caller ∧ state.phase caller = .prepared snapshot ∧ next.visible = snapshot)

theorem OfReply.concat (whole : OfReply ttl events snapshot) (event : Event) :
    OfReply ttl (events ++ [event]) snapshot := by
  obtain ⟨before, after, built, caller, data, wall, split, rest⟩ := whole
  refine ⟨before, after ++ [event], built, caller, data, wall, ?_, rest⟩
  simp [split]

theorem Genuine.concat (genuine : Genuine ttl events snapshot) (event : Event) :
    Genuine ttl (events ++ [event]) snapshot :=
  genuine.imp id fun whole => whole.concat event

/-- Where what a caller has in hand came from. -/
def Phase.Traced (ttl : Nat) (events : List Event) (caller : Nat) : Phase → Prop
  | .looking seen => Genuine ttl events seen
  | .relooking seen => Genuine ttl events seen
  | .informed data => Event.reply caller (.ok data) ∈ events
  | .prepared fresh => OfReply ttl events fresh
  | .finished (.ok snapshot) => Genuine ttl events snapshot
  | _ => True

theorem Phase.Traced.concat (traced : phase.Traced ttl events caller) (event : Event) :
    phase.Traced ttl (events ++ [event]) caller := by
  cases phase with
  | looking seen => exact Genuine.concat traced event
  | relooking seen => exact Genuine.concat traced event
  | informed data => exact List.mem_append_left _ traced
  | prepared fresh => exact OfReply.concat traced event
  | finished outcome =>
      cases outcome with
      | ok snapshot => exact Genuine.concat traced event
      | error fault => trivial
  | arriving | waiting | admitted | discovering | gone => trivial

/-- One more step keeps track of where everything came from. -/
theorem Moves.traced (moves : Moves state event next)
    (before : run (.initial ttl) events = some state) (shown : Genuine ttl events state.visible)
    (traced : ∀ caller, (state.phase caller).Traced ttl events caller) :
    Genuine ttl (events ++ [event]) next.visible ∧
      ∀ caller, (next.phase caller).Traced ttl (events ++ [event]) caller := by
  have whole {caller : Nat} {fresh : Snapshot} (prepared : state.phase caller = .prepared fresh) :
      OfReply ttl (events ++ [event]) fresh := by
    have := (traced caller).concat event
    rwa [prepared] at this
  constructor
  · rcases moves.catalog_eq_or_publish with same | ⟨publisher, fresh, -, prepared, shows, -⟩
    · rw [State.visible, same]
      exact shown.concat event
    · rw [State.visible, shows]
      exact .inr (whole prepared)
  · intro caller
    by_cases about : event.caller? = some caller
    · have known := (traced caller).concat event
      cases moves with
      | viewFirst arriving =>
          cases about
          rw [State.phase_moveTo, if_pos rfl]
          exact shown.concat _
      | viewAgain admitted =>
          cases about
          rw [State.phase_moveTo, if_pos rfl]
          exact shown.concat _
      | accept looking good =>
          cases about
          rw [looking] at known
          rw [State.phase_moveTo, if_pos rfl]
          exact known
      | acceptAgain relooking good =>
          cases about
          rw [relooking] at known
          rw [State.phase_finish, if_pos rfl]
          exact known
      | inform discovering =>
          cases about
          simp [Phase.Traced]
      | @prepare _ wall data informed =>
          cases about
          have asked := traced caller
          rw [informed] at asked
          rw [State.phase_moveTo, if_pos rfl]
          exact ⟨events, [], state, caller, data, wall, rfl, before, asked, informed, rfl⟩
      | publish prepared =>
          cases about
          rw [State.phase_finish, if_pos rfl]
          exact .inr (whole prepared)
      | cancel =>
          cases about
          simpa using known
      | pass => cases about
      | queue | discover | enter | fail | giveUp | leave =>
          cases about
          simp [Phase.Traced]
    · rw [moves.phase_other about]
      exact (traced caller).concat event

/-- In every state that is reached it is known where everything came from. -/
theorem traced_of_run (ran : run (.initial ttl) events = some last) :
    Genuine ttl events last.visible ∧
      ∀ caller, (last.phase caller).Traced ttl events caller := by
  induction ran using run_induction with
  | start => exact ⟨.inl rfl, fun caller => trivial⟩
  | more before moves ih => exact moves.traced before ih.1 ih.2

/-- A snapshot that a caller finds good is the visible one. -/
theorem Invariant.visible_of_good (inv : Invariant state)
    (looks : state.phase caller = .looking snapshot ∨ state.phase caller = .relooking snapshot)
    (good : state.outdates snapshot = false) :
    state.visible = snapshot ∧
      ∃ moment, snapshot.refreshedAt = some moment ∧
        state.clock < moment + state.catalog.ttl := by
  obtain ⟨moment, taken, young⟩ := isStale_eq_false_iff.mp good
  refine ⟨?_, moment, taken, by omega⟩
  rcases looks with looking | relooking
  · rcases inv.fitsAt looking with same | stale
    · exact same.symm
    · rw [State.outdates, stale] at good
      cases good
  · exact (inv.fitsAt relooking : snapshot = state.visible).symm

/-- How a step lets a caller succeed. -/
theorem Moves.yields (moves : Moves state event next) (inv : Invariant state)
    (pending : (state.phase caller).isOver = false)
    (succeeds : next.phase caller = .finished (.ok snapshot)) :
    Yields state.catalog.ttl state event next caller snapshot := by
  have about : event.caller? = some caller := by
    apply moves.caller?_of_phase_ne
    intro same
    rw [← same, succeeds] at pending
    cases pending
  cases moves with
  | accept looking good =>
      cases about
      rw [State.phase_moveTo, if_pos rfl] at succeeds
      cases succeeds
      exact .inl ⟨rfl, inv.visible_of_good (.inl looking) good⟩
  | acceptAgain relooking good =>
      cases about
      rw [State.phase_finish, if_pos rfl] at succeeds
      cases succeeds
      exact .inl ⟨rfl, inv.visible_of_good (.inr relooking) good⟩
  | publish prepared =>
      cases about
      rw [State.phase_finish, if_pos rfl] at succeeds
      cases succeeds
      exact .inr ⟨rfl, prepared, by simp [State.visible]⟩
  | cancel =>
      rw [State.phase_withCancelled] at succeeds
      rw [succeeds] at pending
      cases pending
  | pass => cases about
  | viewFirst | viewAgain | queue | discover | enter | inform | fail | prepare | giveUp | leave =>
      cases about
      simp at succeeds

/-- Every success comes about in one step of its run. -/
theorem yields_of_run (ran : run (.initial ttl) events = some last)
    (succeeded : last.phase caller = .finished (.ok snapshot)) :
    ∃ state event next, StepOf ttl events state event next ∧
      Yields ttl state event next caller snapshot := by
  induction ran using run_induction with
  | start => cases succeeded
  | @more events middle last event before moves ih =>
      by_cases ended : (middle.phase caller).isOver = true
      · rw [moves.phase_of_isOver ended] at succeeded
        obtain ⟨state, chosen, next, stepOf, yields⟩ := ih succeeded
        exact ⟨state, chosen, next, stepOf.concat event, yields⟩
      · have inv : Invariant middle := (Invariant.initial ttl).run before
        have yields := moves.yields inv (by simpa using ended) succeeded
        rw [show middle.catalog.ttl = ttl from ttl_of_run before] at yields
        exact ⟨middle, event, last, ⟨events, [], rfl, before, moves.toStep⟩, yields⟩

/-- Every swap of the visible snapshot is one of a caller that in the end succeeds with it. -/
theorem StepOf.catalog_eq_or_success (stepOf : StepOf ttl events state event next)
    (ran : run (.initial ttl) events = some last) :
    next.catalog = state.catalog ∨
      ∃ publisher, event = .publish publisher ∧
        last.phase publisher = .finished (.ok next.visible) := by
  obtain ⟨after, ran'⟩ := stepOf.ran_after ran
  obtain ⟨-, -, -, -, stepped⟩ := stepOf
  refine (moves_of_step stepped).catalog_eq_or_publish.imp id ?_
  rintro ⟨publisher, fresh, published, -, shows, done⟩
  refine ⟨publisher, published, ?_⟩
  rw [phase_of_run ran' (by rw [done]; rfl), done, State.visible, shows]

/-- Whatever happens, what readers and successful callers get is genuine; a success has the visible
snapshot while it is good or shows its own; a caller that does not succeed swaps nothing; and the
time of the visible snapshot never goes back. -/
theorem snapshots_genuine (ran : run (.initial ttl) events = some last) :
    Genuine ttl events last.visible ∧
    (∃ snapshot, Genuine ttl events snapshot ∧ last.metricNames = snapshot.names) ∧
    (∀ caller snapshot, last.phase caller = .finished (.ok snapshot) →
      Genuine ttl events snapshot ∧
        ∃ state event next, StepOf ttl events state event next ∧
          Yields ttl state event next caller snapshot) ∧
    (∀ caller, (∀ snapshot, last.phase caller ≠ .finished (.ok snapshot)) →
      ∀ state event next, StepOf ttl events state event next →
        next.catalog = state.catalog ∨
          ∃ publisher, publisher ≠ caller ∧ event = .publish publisher ∧
            last.phase publisher = .finished (.ok next.visible)) ∧
    ∀ before after state moment, events = before ++ after →
      run (.initial ttl) before = some state → state.visible.refreshedAt = some moment →
        ∃ newer, last.visible.refreshedAt = some newer ∧ moment ≤ newer := by
  obtain ⟨shown, traced⟩ := traced_of_run ran
  refine ⟨shown, ⟨last.visible, shown, rfl⟩, ?_, ?_, ?_⟩
  · intro caller snapshot succeeded
    have genuine := traced caller
    rw [succeeded] at genuine
    exact ⟨genuine, yields_of_run ran succeeded⟩
  · intro caller unsuccessful state event next stepOf
    refine (stepOf.catalog_eq_or_success ran).imp id ?_
    rintro ⟨publisher, published, succeeded⟩
    refine ⟨publisher, ?_, published, succeeded⟩
    rintro rfl
    exact unsuccessful _ succeeded
  · intro before after state moment split reached stored
    subst split
    obtain ⟨middle, reached', ran'⟩ := run_append_eq_some_iff.mp ran
    cases reached.symm.trans reached'
    exact refreshedAt_le_of_run ((Invariant.initial ttl).run reached) ran' stored

/-- The snapshots of a run in which one caller is cancelled and the one behind it succeeds. -/
theorem snapshots_genuine_overtaking :
    ∃ last, run (.initial 300) overtaking = some last ∧
      last.phase 1 = .finished (.error .cancelled) ∧
        last.phase 2 = .finished (.ok last.visible) ∧ Genuine 300 overtaking last.visible ∧
          ∃ newer, last.visible.refreshedAt = some newer ∧ 0 ≤ newer := by
  have ran : run (.initial 300) overtaking = some _ := rfl
  obtain ⟨shown, -, -, -, newer⟩ := snapshots_genuine ran
  exact ⟨_, ran, rfl, rfl, shown, newer _ [] _ 0 (List.append_nil _).symm ran rfl⟩

end PromScribe.Refresh

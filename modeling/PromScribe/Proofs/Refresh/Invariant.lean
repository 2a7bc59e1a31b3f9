import PromScribe.Proofs.Refresh.Step

/-!
# The invariant of refreshing

Just the caller with the turn is past the waiting, the visible snapshot is not from the future, and
what a caller has in hand fits the catalog: a snapshot that was taken is still visible or no longer
good, a discovery is under way only while the visible snapshot is no longer good, and a snapshot
that was built is no older than the visible one.
-/

namespace PromScribe.Refresh

variable {state next last : State} {event : Event} {events : List Event}
variable {caller other : Nat} {phase : Phase} {snapshot fresh : Snapshot}

theorem isStale_eq_true_iff {ttl now : Nat} :
    snapshot.isStale ttl now = true ↔
      ∀ moment, snapshot.refreshedAt = some moment → ttl ≤ now - moment := by
  simp only [Snapshot.isStale]
  split
  · next moment taken => simp [taken]
  · next never => simp [never]

theorem isStale_eq_false_iff {ttl now : Nat} :
    snapshot.isStale ttl now = false ↔
      ∃ moment, snapshot.refreshedAt = some moment ∧ now - moment < ttl := by
  simp only [Snapshot.isStale]
  split
  · next moment taken => simp [taken]
  · next never => simp [never]

/-- A snapshot that is no longer good never becomes good again. -/
theorem isStale_mono {ttl now later : Nat} (stale : snapshot.isStale ttl now = true)
    (le : now ≤ later) : snapshot.isStale ttl later = true := by
  rw [isStale_eq_true_iff] at stale ⊢
  intro moment taken
  have := stale moment taken
  omega

/-- What a caller has in hand fits the catalog at a time of the clock. -/
def Phase.Fits (catalog : Catalog) (clock : Nat) : Phase → Prop
  | .looking seen => seen = catalog.snapshot ∨ seen.isStale catalog.ttl clock = true
  | .relooking seen => seen = catalog.snapshot
  | .discovering => catalog.snapshot.isStale catalog.ttl clock = true
  | .informed _ => catalog.snapshot.isStale catalog.ttl clock = true
  | .prepared fresh =>
      catalog.snapshot.isStale catalog.ttl clock = true ∧
        ∃ moment, fresh.refreshedAt = some moment ∧ moment ≤ clock ∧
          ∀ earlier, catalog.snapshot.refreshedAt = some earlier → earlier ≤ moment
  | _ => True

/-- What holds in every state that is reached. -/
structure Invariant (state : State) : Prop where
  turn : ∀ caller, (state.phase caller).hasTurn = true ↔ state.holder = some caller
  dated : ∀ moment, state.visible.refreshedAt = some moment → moment ≤ state.clock
  fits : ∀ caller, (state.phase caller).Fits state.catalog state.clock

namespace Phase

theorem Fits.later {catalog : Catalog} {now future : Nat} (fits : phase.Fits catalog now)
    (le : now ≤ future) : phase.Fits catalog future := by
  cases phase with
  | looking seen => exact fits.imp id fun stale => isStale_mono stale le
  | discovering => exact isStale_mono fits le
  | informed data => exact isStale_mono fits le
  | prepared fresh =>
      obtain ⟨stale, moment, taken, past, newest⟩ := fits
      exact ⟨isStale_mono stale le, moment, taken, Nat.le_trans past le, newest⟩
  | _ => exact fits

/-- Whoever does not have the turn may be overtaken by another snapshot once the visible one is no
longer good. -/
theorem Fits.showing {catalog : Catalog} {clock : Nat} (fits : phase.Fits catalog clock)
    (noTurn : phase.hasTurn = false)
    (stale : catalog.snapshot.isStale catalog.ttl clock = true) :
    phase.Fits ⟨catalog.ttl, fresh⟩ clock := by
  cases phase with
  | looking seen =>
      rcases fits with same | old
      · exact .inr (same ▸ stale)
      · exact .inr old
  | arriving | waiting | finished | gone => trivial
  | admitted | relooking | discovering | informed | prepared => cases noTurn

theorem hasTurn_of_isOver (ended : phase.isOver = true) : phase.hasTurn = false := by
  cases phase with
  | finished | gone => rfl
  | _ => cases ended

theorem fits_of_isOver {catalog : Catalog} {clock : Nat} (ended : phase.isOver = true) :
    phase.Fits catalog clock := by
  cases phase with
  | finished | gone => trivial
  | _ => cases ended

end Phase

theorem State.finish_showing (state : State) (caller : Nat) (phase : Phase) (fresh : Snapshot) :
    (state.showing fresh).finish caller phase = (state.finish caller phase).showing fresh := by
  by_cases holds : state.holder = some caller
  · simp [State.finish, State.release, State.showing, State.moveTo, State.withCaller, holds]
  · simp [State.finish, State.release, State.showing, State.moveTo, State.withCaller, holds]

namespace Invariant

theorem initial (ttl : Nat) : Invariant (.initial ttl) where
  turn caller := by simp [State.initial, State.phase, Caller.fresh, Phase.hasTurn]
  dated moment taken := by cases taken
  fits caller := trivial

/-- A caller goes on without getting or losing the turn. -/
theorem moveTo (inv : Invariant state)
    (sameTurn : phase.hasTurn = (state.phase caller).hasTurn)
    (fits : phase.Fits state.catalog state.clock) : Invariant (state.moveTo caller phase) where
  turn other := by
    by_cases same : other = caller
    · subst same
      simpa [sameTurn] using inv.turn other
    · simpa [same] using inv.turn other
  dated := inv.dated
  fits other := by
    by_cases same : other = caller
    · simpa [same] using fits
    · simpa [same] using inv.fits other

/-- A caller ends. -/
theorem finish (inv : Invariant state) (ended : phase.isOver = true) :
    Invariant (state.finish caller phase) where
  turn other := by
    by_cases same : other = caller
    · subst same
      simp only [State.phase_finish, if_pos, Phase.hasTurn_of_isOver ended, State.holder_finish]
      split
      · simp
      · next apart => simp [apart]
    · simp only [State.phase_finish, if_neg same, State.holder_finish, inv.turn other]
      split
      · next holds => simp [holds, Ne.symm same]
      · rfl
  dated moment taken := by
    have visible : (state.finish caller phase).visible = state.visible := by
      simp [State.visible]
    simpa using inv.dated moment (visible ▸ taken)
  fits other := by
    by_cases same : other = caller
    · simpa [same] using Phase.fits_of_isOver ended
    · simpa [same] using inv.fits other

/-- A waiting caller gets the free turn. -/
theorem enter (inv : Invariant state) (free : state.holder = none) :
    Invariant ((state.grant caller).moveTo caller .admitted) where
  turn other := by
    by_cases same : other = caller
    · simp [same, Phase.hasTurn]
    · have without : (state.phase other).hasTurn = false := by
        simpa [free] using inv.turn other
      simp [same, without, Ne.symm same]
  dated := inv.dated
  fits other := by
    by_cases same : other = caller
    · rw [State.phase_moveTo, if_pos same]
      trivial
    · simpa [same] using inv.fits other

/-- A snapshot is shown while nobody has the turn and the visible one is no longer good. -/
theorem showing (inv : Invariant state) (free : state.holder = none)
    (stale : state.outdates state.visible = true)
    (past : ∀ moment, fresh.refreshedAt = some moment → moment ≤ state.clock) :
    Invariant (state.showing fresh) where
  turn := inv.turn
  dated := past
  fits other := by
    have noTurn : (state.phase other).hasTurn = false := by
      simpa [free] using inv.turn other
    exact (inv.fits other).showing noTurn stale

theorem withCancelled (inv : Invariant state) : Invariant (state.withCancelled caller) where
  turn other := by simpa using inv.turn other
  dated := inv.dated
  fits other := by simpa using inv.fits other

theorem later (inv : Invariant state) (millis : Nat) : Invariant (state.later millis) where
  turn := inv.turn
  dated moment taken := Nat.le_trans (inv.dated moment taken) (Nat.le_add_right _ _)
  fits other := (inv.fits other).later (Nat.le_add_right _ _)

/-- What a caller has in hand, said of a known phase. -/
theorem fitsAt (inv : Invariant state) (found : state.phase caller = phase) :
    phase.Fits state.catalog state.clock :=
  found ▸ inv.fits caller

/-- Whoever has the turn is its holder. -/
theorem holder_eq (inv : Invariant state) (found : state.phase caller = phase)
    (turn : phase.hasTurn = true) : state.holder = some caller :=
  (inv.turn caller).mp (found ▸ turn)

/-- At most one caller has the turn. -/
theorem turn_unique (inv : Invariant state) (left : (state.phase caller).hasTurn = true)
    (right : (state.phase other).hasTurn = true) : caller = other := by
  have same : some caller = some other :=
    ((inv.turn caller).mp left).symm.trans ((inv.turn other).mp right)
  exact Option.some.inj same

/-- A caller that shows its snapshot. -/
theorem publish (inv : Invariant state) (prepared : state.phase caller = .prepared fresh) :
    Invariant ((state.showing fresh).finish caller (.finished (.ok fresh))) := by
  obtain ⟨stale, moment, taken, past, -⟩ := inv.fitsAt prepared
  have holds : state.holder = some caller := inv.holder_eq prepared rfl
  rw [State.finish_showing]
  refine showing (inv.finish rfl) (by simp [holds]) ?_ ?_
  · simpa [State.outdates, State.visible] using stale
  · intro other dated
    cases taken.symm.trans dated
    simpa using past

/-- The snapshot of a reply is built while the visible one is no longer good. -/
theorem prepare {data : QueryData} (inv : Invariant state)
    (informed : state.phase caller = .informed data) (wall : Instant) :
    Invariant (state.moveTo caller (.prepared (.ofSeries wall state.clock data.series))) := by
  have stale : state.outdates state.visible = true := inv.fitsAt informed
  refine inv.moveTo (by rw [informed]; rfl) ⟨stale, state.clock, rfl, Nat.le_refl _, ?_⟩
  exact inv.dated

/-- Every step keeps the invariant. -/
theorem step (inv : Invariant state) (moves : Moves state event next) : Invariant next := by
  cases moves with
  | viewFirst arriving => exact inv.moveTo (by rw [arriving]; rfl) (.inl rfl)
  | viewAgain admitted => exact inv.moveTo (by rw [admitted]; rfl) rfl
  | accept looking good => exact inv.moveTo (by rw [looking]; rfl) trivial
  | queue looking outdated => exact inv.moveTo (by rw [looking]; rfl) trivial
  | acceptAgain relooking good => exact inv.finish rfl
  | @discover caller seen relooking outdated =>
      have current : seen = state.visible := inv.fitsAt relooking
      have stale : state.outdates state.visible = true := current ▸ outdated
      exact inv.moveTo (by rw [relooking]; rfl) stale
  | enter waiting free => exact inv.enter free
  | inform discovering =>
      have stale : state.outdates state.visible = true := inv.fitsAt discovering
      exact inv.moveTo (by rw [discovering]; rfl) stale
  | fail discovering => exact inv.finish rfl
  | prepare informed => exact inv.prepare informed _
  | publish prepared => exact inv.publish prepared
  | cancel => exact inv.withCancelled
  | giveUp cancelled suspended => exact inv.finish rfl
  | leave present => exact inv.finish rfl
  | pass => exact inv.later _

/-- Every run keeps the invariant. -/
theorem run (inv : Invariant state) (ran : Refresh.run state events = some last) :
    Invariant last := by
  induction ran using run_induction with
  | start => exact inv
  | more _ moves ih => exact ih.step moves

end Invariant

end PromScribe.Refresh

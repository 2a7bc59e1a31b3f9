import PromScribe.Proofs.Refresh.Invariant

/-!
# One discovery at a time

Two callers never have discoveries under way at once, and once a snapshot is shown no discovery
starts before it has reached the age limit, whatever callers, replies and the clock do.
-/

namespace PromScribe.Refresh

variable {state next last : State} {event : Event} {events : List Event} {caller moment : Nat}

/-- A discovery starts where a caller with the turn judges the snapshot that it took again. -/
theorem Moves.relooking_of_starts (moves : Moves state event next)
    (idle : state.phase caller ≠ .discovering) (starts : next.phase caller = .discovering) :
    ∃ seen, state.phase caller = .relooking seen ∧ state.outdates seen = true := by
  have about : event.caller? = some caller := by
    apply moves.caller?_of_phase_ne
    intro same
    exact idle (same ▸ starts)
  cases moves with
  | discover relooking outdated =>
      cases about
      exact ⟨_, relooking, outdated⟩
  | cancel => exact absurd (by simpa using starts) idle
  | pass => cases about
  | _ =>
      cases about
      simp at starts

/-- The time of the visible snapshot never goes back in a step. -/
theorem Moves.refreshedAt_le (moves : Moves state event next) (inv : Invariant state)
    (shown : state.visible.refreshedAt = some moment) :
    ∃ newer, next.visible.refreshedAt = some newer ∧ moment ≤ newer := by
  rcases moves.catalog_eq_or_publish with same | ⟨publisher, fresh, -, prepared, shows, -⟩
  · exact ⟨moment, by rw [State.visible, same]; exact shown, Nat.le_refl _⟩
  · obtain ⟨-, newer, taken, -, newest⟩ := inv.fitsAt prepared
    exact ⟨newer, by rw [State.visible, shows]; exact taken, newest moment shown⟩

/-- The time of the visible snapshot never goes back. -/
theorem refreshedAt_le_of_run (inv : Invariant state) (ran : run state events = some last)
    (shown : state.visible.refreshedAt = some moment) :
    ∃ newer, last.visible.refreshedAt = some newer ∧ moment ≤ newer := by
  induction ran using run_induction with
  | start => exact ⟨moment, shown, Nat.le_refl _⟩
  | more before moves ih =>
      obtain ⟨middle, earlier, le⟩ := ih
      obtain ⟨newer, now, le'⟩ := moves.refreshedAt_le (inv.run before) earlier
      exact ⟨newer, now, Nat.le_trans le le'⟩

/-- A discovery starts only when the visible snapshot has reached the age limit. -/
theorem Invariant.age_of_starts (inv : Invariant state) (moves : Moves state event next)
    (idle : state.phase caller ≠ .discovering) (starts : next.phase caller = .discovering)
    (shown : state.visible.refreshedAt = some moment) :
    moment + state.catalog.ttl ≤ state.clock := by
  obtain ⟨seen, relooking, outdated⟩ := moves.relooking_of_starts idle starts
  have current : seen = state.visible := inv.fitsAt relooking
  have aged := isStale_eq_true_iff.mp outdated moment (current ▸ shown)
  have past := inv.dated moment shown
  omega

/-- Whatever happens, two discoveries are never under way at once, and no discovery starts before a
snapshot that was shown has reached the age limit. -/
theorem discoveries_apart {ttl : Nat} {shown last : State} {before after : List Event}
    (reached : run (.initial ttl) before = some shown)
    (ran : run shown after = some last) :
    (∀ first second, last.phase first = .discovering → last.phase second = .discovering →
      first = second) ∧
    ∀ moment event next caller, shown.visible.refreshedAt = some moment →
      step last event = some next →
        last.phase caller ≠ .discovering → next.phase caller = .discovering →
          moment + ttl ≤ last.clock := by
  have inv : Invariant shown := (Invariant.initial ttl).run reached
  have inv' : Invariant last := inv.run ran
  constructor
  · intro first second flying flying'
    exact inv'.turn_unique (by rw [flying]; rfl) (by rw [flying']; rfl)
  · intro moment event next caller stored stepped idle starts
    obtain ⟨newer, visible, le⟩ := refreshedAt_le_of_run inv ran stored
    have aged := inv'.age_of_starts (moves_of_step stepped) idle starts visible
    have limit : last.catalog.ttl = ttl := by
      rw [ttl_of_run ran, ttl_of_run reached]
      rfl
    omega

/-- A snapshot of time zero with a limit of 300, and a caller that starts a discovery at 300. -/
theorem discoveries_apart_at_limit :
    ∃ shown last next,
      run (.initial 300) (refreshing 0 .empty ⟨0, 0⟩) = some shown ∧
        run shown [.pass 300, .view 1, .judge 1, .enter 1, .view 1] = some last ∧
          step last (.judge 1) = some next ∧ next.phase 1 = .discovering ∧
            (∀ first second, last.phase first = .discovering →
              last.phase second = .discovering → first = second) ∧
              0 + 300 ≤ last.clock := by
  have reached : run (.initial 300) (refreshing 0 .empty ⟨0, 0⟩) = some _ := rfl
  have apart := @discoveries_apart 300 _ _ _
    [.pass 300, .view 1, .judge 1, .enter 1, .view 1] reached rfl
  exact ⟨_, _, _, reached, rfl, rfl, rfl, apart.1,
    apart.2 0 (.judge 1) _ 1 rfl rfl (by nofun) rfl⟩

end PromScribe.Refresh

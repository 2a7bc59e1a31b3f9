import PromScribe.Proofs.Refresh.Step

/-!
# Callers one after another

What a caller does that nobody gets in the way of: it looks and is done or waits, and with the free
turn it is done, gives up, or discovers. Nobody else goes on meanwhile.
-/

namespace PromScribe.Refresh

variable {state : State} {caller : Nat}

/-- The caller comes to the phase, nobody else goes on, and the turn is free in the end. -/
structure Serves (state next : State) (caller : Nat) (phase : Phase) : Prop where
  free : next.holder = none
  phase_eq : next.phase caller = phase
  others : ∀ other, other ≠ caller → next.phase other = state.phase other

/-- A caller that finds the visible snapshot good is done at once. -/
theorem look_good (arriving : state.phase caller = .arriving) (free : state.holder = none)
    (good : state.outdates state.visible = false) :
    ∃ next, run state [.view caller, .judge caller] = some next ∧
      Serves state next caller (.finished (.ok state.visible)) ∧
        next.clock = state.clock ∧ next.catalog = state.catalog := by
  let looking := state.moveTo caller (.looking state.visible)
  refine ⟨looking.moveTo caller (.finished (.ok state.visible)), ?_, ?_, rfl, rfl⟩
  · refine run_cons (.viewFirst arriving) ?_
    exact run_cons (.accept (by simp) good) rfl
  · exact ⟨free, by simp, fun other apart => by simp [looking, apart]⟩

/-- A caller that finds the visible snapshot too old waits. -/
theorem look_outdated (arriving : state.phase caller = .arriving) (free : state.holder = none)
    (outdated : state.outdates state.visible = true) :
    ∃ next, run state [.view caller, .judge caller] = some next ∧
      Serves state next caller .waiting ∧
        next.clock = state.clock ∧ next.catalog = state.catalog := by
  let looking := state.moveTo caller (.looking state.visible)
  refine ⟨looking.moveTo caller .waiting, ?_, ?_, rfl, rfl⟩
  · refine run_cons (.viewFirst arriving) ?_
    exact run_cons (.queue (by simp) outdated) rfl
  · exact ⟨free, by simp, fun other apart => by simp [looking, apart]⟩

/-- A waiting caller that was cancelled gives up. -/
theorem wait_cancelled (waiting : state.phase caller = .waiting) (free : state.holder = none) :
    ∃ next, run state [.cancel caller, .giveUp caller] = some next ∧
      Serves state next caller (.finished (.error .cancelled)) ∧
        next.clock = state.clock ∧ next.catalog = state.catalog := by
  let cancelled := state.withCancelled caller
  refine ⟨cancelled.finish caller (.finished (.error .cancelled)), ?_, ?_, by simp [cancelled],
    by simp [cancelled]⟩
  · refine run_cons .cancel ?_
    exact run_cons (.giveUp (by simp) (.inl (by simpa using waiting))) rfl
  · exact ⟨by simp [cancelled, free], by simp, fun other apart => by simp [cancelled, apart]⟩

/-- With the free turn a waiting caller takes the visible snapshot again. -/
theorem enter_relooks (waiting : state.phase caller = .waiting) (free : state.holder = none) :
    ∃ next, run state [.enter caller, .view caller] = some next ∧
      next.phase caller = .relooking state.visible ∧ next.holder = some caller ∧
        next.clock = state.clock ∧ next.catalog = state.catalog ∧
          ∀ other, other ≠ caller → next.phase other = state.phase other := by
  let admitted := (state.grant caller).moveTo caller .admitted
  refine ⟨admitted.moveTo caller (.relooking admitted.visible), ?_, by simp; rfl, rfl, rfl, rfl,
    fun other apart => by simp [admitted, apart]⟩
  refine run_cons (.enter waiting free) ?_
  exact run_cons (.viewAgain (by simp)) rfl

/-- With the free turn a waiting caller that finds the visible snapshot good is done. -/
theorem turn_good (waiting : state.phase caller = .waiting) (free : state.holder = none)
    (good : state.outdates state.visible = false) :
    ∃ next, run state [.enter caller, .view caller, .judge caller] = some next ∧
      Serves state next caller (.finished (.ok state.visible)) ∧
        next.clock = state.clock ∧ next.catalog = state.catalog := by
  obtain ⟨middle, entered, relooking, holds, clock, catalog, others⟩ := enter_relooks waiting free
  have good' : middle.outdates state.visible = false := by
    rw [State.outdates, clock, catalog]
    exact good
  refine ⟨middle.finish caller (.finished (.ok state.visible)), ?_, ?_, by simp [clock],
    by simp [catalog]⟩
  · change run state ([.enter caller, .view caller] ++ [.judge caller]) = _
    exact run_concat_eq_some_iff.mpr ⟨middle, entered, .acceptAgain relooking good'⟩
  · exact ⟨by simp [holds], by simp, fun other apart => by simp [apart, others other apart]⟩

/-- With the free turn a waiting caller that finds the visible snapshot too old has a discovery
under way some time later. -/
theorem turn_discovers (waiting : state.phase caller = .waiting) (free : state.holder = none)
    (outdated : state.outdates state.visible = true) (millis : Nat) :
    ∃ next,
      run state [.enter caller, .view caller, .judge caller, .pass millis] = some next ∧
        next.phase caller = .discovering ∧ next.holder = some caller ∧
          next.clock = state.clock + millis ∧ next.catalog = state.catalog ∧
            ∀ other, other ≠ caller → next.phase other = state.phase other := by
  obtain ⟨middle, entered, relooking, holds, clock, catalog, others⟩ := enter_relooks waiting free
  have outdated' : middle.outdates state.visible = true := by
    rw [State.outdates, clock, catalog]
    exact outdated
  refine ⟨(middle.moveTo caller .discovering).later millis, ?_, by simp, by simp [holds],
    by simp [clock], by simp [catalog], fun other apart => by simp [apart, others other apart]⟩
  change run state ([.enter caller, .view caller] ++ [.judge caller, .pass millis]) = _
  refine run_append_eq_some_iff.mpr ⟨middle, entered, ?_⟩
  refine run_cons (.discover relooking outdated') ?_
  exact run_cons .pass rfl

/-- A discovery that fails ends its caller and leaves the catalog alone. -/
theorem turn_fails (discovering : state.phase caller = .discovering)
    (holds : state.holder = some caller) (fault : CollaboratorFault) :
    ∃ next, run state [.reply caller (.error fault)] = some next ∧
      Serves state next caller (.finished (.error fault)) ∧
        next.clock = state.clock ∧ next.catalog = state.catalog := by
  refine ⟨state.finish caller (.finished (.error fault)), ?_, ?_, by simp, by simp⟩
  · exact run_cons (.fail discovering) rfl
  · exact ⟨by simp [holds], by simp, fun other apart => by simp [apart]⟩

/-- A discovery that succeeds ends its caller with the snapshot that the catalog shows then. -/
theorem turn_learns (discovering : state.phase caller = .discovering)
    (holds : state.holder = some caller) (wall : Instant) (data : QueryData) :
    ∃ next,
      run state [.reply caller (.ok data), .prepare caller wall, .publish caller] = some next ∧
        Serves state next caller (.finished (.ok next.visible)) ∧ next.clock = state.clock ∧
          next.catalog = state.catalog.learn ⟨state.clock, wall⟩ data := by
  let informed := state.moveTo caller (.informed data)
  let fresh := Snapshot.ofSeries wall state.clock data.series
  let prepared := informed.moveTo caller (.prepared fresh)
  refine ⟨(prepared.showing fresh).finish caller (.finished (.ok fresh)), ?_, ?_, by simp; rfl,
    by simp; rfl⟩
  · have asked : informed.phase caller = .informed data := by simp [informed]
    have ready : prepared.phase caller = .prepared fresh := by simp [prepared]
    refine run_cons (.inform discovering) ?_
    refine run_cons (.prepare asked) ?_
    exact run_cons (.publish ready) rfl
  · refine ⟨by simp [prepared, informed, holds], by simp [State.visible], ?_⟩
    intro other apart
    simp [prepared, informed, apart]

end PromScribe.Refresh

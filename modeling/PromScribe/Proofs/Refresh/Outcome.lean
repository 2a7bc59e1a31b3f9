import PromScribe.Proofs.Collaborator.Transcript
import PromScribe.Proofs.Refresh.Step

/-!
# What a refresh comes to

Whatever other callers do, a caller that has an outcome kept a snapshot, was turned away, or
discovered just once and has what the reply gives.
-/

namespace PromScribe.Refresh

variable {state next last : State} {event : Event} {events : List Event} {caller count : Nat}

/-- A discovery is under way. -/
def Phase.isDiscovering : Phase → Bool
  | .discovering => true
  | _ => false

/-- The caller starts a discovery between the states. -/
def starts (caller : Nat) (state next : State) : Bool :=
  !(state.phase caller).isDiscovering && (next.phase caller).isDiscovering

/-- How many discoveries the caller starts over the events. -/
def discoveriesOf (caller : Nat) : State → List Event → Nat
  | _, [] => 0
  | state, event :: rest =>
      match step state event with
      | none => 0
      | some next => (starts caller state next).toNat + discoveriesOf caller next rest

/-- The phase may be that of a caller that has started so many discoveries. -/
def Phase.Explains (count : Nat) : Phase → Prop
  | .arriving | .looking _ | .waiting | .admitted | .relooking _ => count = 0
  | .discovering | .informed _ => count = 1
  | .prepared fresh =>
      count = 1 ∧ ∃ moment data, (Refreshing.discovered moment (.ok data)).outcome = .ok fresh
  | .finished outcome =>
      ∃ refreshing : Refreshing, refreshing.outcome = outcome ∧ refreshing.calls.length = count
  | .gone => count ≤ 1

/-- No caller starts a second discovery. -/
theorem Phase.Explains.le_one {phase : Phase} (explains : phase.Explains count) : count ≤ 1 := by
  cases phase with
  | arriving | looking _ | waiting | admitted | relooking _ => exact explains ▸ Nat.zero_le 1
  | discovering | informed _ => exact Nat.le_of_eq explains
  | prepared _ => exact Nat.le_of_eq explains.1
  | finished _ =>
      obtain ⟨refreshing, -, rfl⟩ := explains
      exact refreshing.length_calls_le
  | gone => exact explains

/-- A caller that moves to another phase keeps its number explained if the phase explains it. -/
theorem explains_moveTo {base : State} {before after : Phase}
    (was : state.phase caller = before)
    (explains : after.Explains (count + (!before.isDiscovering && after.isDiscovering).toNat)) :
    ((base.moveTo caller after).phase caller).Explains
      (count + (starts caller state (base.moveTo caller after)).toNat) := by
  rw [starts, was, State.phase_moveTo, if_pos rfl]
  exact explains

/-- A step keeps the number of a caller's discoveries explained. -/
theorem Moves.explains (moves : Moves state event next)
    (explains : (state.phase caller).Explains count) :
    (next.phase caller).Explains (count + (starts caller state next).toNat) := by
  by_cases about : event.caller? = some caller
  · cases moves with
    | viewFirst before | viewAgain before | queue before | enter before | inform before =>
        cases about
        rw [before] at explains
        exact explains_moveTo before explains
    | discover before =>
        cases about
        rw [before] at explains
        exact explains_moveTo before (congrArg (· + 1) explains)
    | @accept _ seen before | @acceptAgain _ seen before =>
        cases about
        rw [before] at explains
        exact explains_moveTo before ⟨.kept seen, rfl, explains.symm⟩
    | @fail _ fault before =>
        cases about
        rw [before] at explains
        exact explains_moveTo before ⟨.discovered ⟨0, ⟨0, 0⟩⟩ (.error fault), rfl, explains.symm⟩
    | @prepare _ wall data before =>
        cases about
        rw [before] at explains
        exact explains_moveTo before ⟨explains, ⟨state.clock, wall⟩, data, rfl⟩
    | publish before =>
        cases about
        rw [before] at explains
        obtain ⟨once, moment, data, learned⟩ := explains
        exact explains_moveTo before ⟨.discovered moment (.ok data), learned, once.symm⟩
    | cancel =>
        cases about
        simpa [starts] using explains
    | giveUp _ suspended =>
        cases about
        rcases suspended with before | before
        · rw [before] at explains
          exact explains_moveTo before ⟨.turnedAway, rfl, explains.symm⟩
        · rw [before] at explains
          exact explains_moveTo before
            ⟨.discovered ⟨0, ⟨0, 0⟩⟩ (.error .cancelled), rfl, explains.symm⟩
    | leave =>
        cases about
        refine explains_moveTo rfl ?_
        simpa [Phase.isDiscovering, Phase.Explains] using explains.le_one
    | pass => cases about
  · rw [starts, moves.phase_other about, Bool.not_and_self]
    exact explains

/-- A run keeps the number of a caller's discoveries explained. -/
theorem explains_of_run (ran : run state events = some last)
    (explains : (state.phase caller).Explains count) :
    (last.phase caller).Explains (count + discoveriesOf caller state events) := by
  induction events generalizing state count with
  | nil =>
      cases ran
      exact explains
  | cons event rest ih =>
      obtain ⟨next, moves, goesOn⟩ := run_cons_eq_some_iff.mp ran
      rw [discoveriesOf, moves.toStep, ← Nat.add_assoc]
      exact ih goesOn (moves.explains explains)

/-- Whatever others do, an outcome is that of a refresh with as many calls as the caller made. -/
theorem refreshing_of_run {ttl : Nat} {outcome : Except CollaboratorFault Snapshot}
    (ran : run (.initial ttl) events = some last)
    (finished : last.phase caller = .finished outcome) :
    ∃ refreshing : Refreshing, refreshing.outcome = outcome ∧
      refreshing.calls.length = discoveriesOf caller (.initial ttl) events := by
  have unlooked : ((State.initial ttl).phase caller).Explains 0 := rfl
  have explains := explains_of_run ran unlooked
  rw [finished, Nat.zero_add] at explains
  exact explains

end PromScribe.Refresh

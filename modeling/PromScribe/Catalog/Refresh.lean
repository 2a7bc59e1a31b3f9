import PromScribe.Catalog.Metric
import PromScribe.Fault.Cause

/-!
# Refreshing the catalog

Any number of callers ask for a fresh snapshot at the same time. A caller takes the visible snapshot
and judges its age; if it is no longer good the caller waits for its turn, takes the snapshot and
judges it once more, and only then starts a discovery. The snapshot of the reply is built aside and
then shown at once. One caller at a time has the turn. Every access to what the callers share is an
event of its own: between any two of them other callers may act, a caller may be cancelled or may
leave, and the clock may move on.
-/

namespace PromScribe.Refresh

/-- How far a caller is. -/
inductive Phase where
  /-- Has not looked at the catalog yet. -/
  | arriving
  /-- Took the visible snapshot and has not judged its age yet. -/
  | looking (seen : Snapshot)
  /-- Waits for its turn. -/
  | waiting
  /-- Has the turn and has not looked again yet. -/
  | admitted
  /-- Has the turn, took the visible snapshot again and has not judged its age yet. -/
  | relooking (seen : Snapshot)
  /-- Has the turn and waits for the reply to its discovery. -/
  | discovering
  /-- Has the turn and the reply. -/
  | informed (data : QueryData)
  /-- Has the turn and a snapshot that nobody else sees yet. -/
  | prepared (fresh : Snapshot)
  | finished (outcome : Except CollaboratorFault Snapshot)
  /-- Left without an outcome. -/
  | gone

/-- The caller has the turn. -/
def Phase.hasTurn : Phase → Bool
  | .admitted | .relooking _ | .discovering | .informed _ | .prepared _ => true
  | _ => false

/-- The caller has an outcome or left. -/
def Phase.isOver : Phase → Bool
  | .finished _ | .gone => true
  | _ => false

/-- A caller: how far it is, and whether it was cancelled. -/
structure Caller where
  phase : Phase
  cancelled : Bool

/-- A caller before its first look. -/
def Caller.fresh : Caller := ⟨.arriving, false⟩

/-- The clock, the catalog, who has the turn, and every caller by number. -/
structure State where
  clock : Nat
  catalog : Catalog
  holder : Option Nat
  callers : Nat → Caller

/-- What may happen. -/
inductive Event where
  /-- A caller takes the visible snapshot. -/
  | view (caller : Nat)
  /-- A caller judges the age of the snapshot that it took. -/
  | judge (caller : Nat)
  /-- A waiting caller gets the turn. -/
  | enter (caller : Nat)
  /-- The discovery of a caller has an outcome. -/
  | reply (caller : Nat) (outcome : Except CollaboratorFault QueryData)
  /-- A caller builds the snapshot of the reply, at a calendar time. -/
  | prepare (caller : Nat) (wall : Instant)
  /-- A caller shows the snapshot that it built. -/
  | publish (caller : Nat)
  | cancel (caller : Nat)
  /-- A cancelled caller notices it where it waits. -/
  | giveUp (caller : Nat)
  | leave (caller : Nat)
  /-- The clock moves on. -/
  | pass (millis : Nat)

/-- The caller that an event is about. -/
def Event.caller? : Event → Option Nat
  | .view caller | .judge caller | .enter caller | .reply caller _ | .prepare caller _
  | .publish caller | .cancel caller | .giveUp caller | .leave caller => some caller
  | .pass _ => none

namespace State

/-- The state in which nobody has done anything. -/
def initial (ttl : Nat) : State :=
  ⟨0, .initial ttl, none, fun _ => .fresh⟩

/-- The snapshot that readers get. -/
def visible (state : State) : Snapshot :=
  state.catalog.snapshot

/-- The metric names that readers get. -/
def metricNames (state : State) : List String :=
  state.visible.names

/-- The snapshot is no longer good. -/
def outdates (state : State) (snapshot : Snapshot) : Bool :=
  snapshot.isStale state.catalog.ttl state.clock

/-- The phase of a caller. -/
def phase (state : State) (caller : Nat) : Phase :=
  (state.callers caller).phase

/-- The caller was cancelled. -/
def isCancelled (state : State) (caller : Nat) : Bool :=
  (state.callers caller).cancelled

/-- The state with another record of a caller. -/
def withCaller (state : State) (caller : Nat) (record : Caller) : State :=
  { state with callers := fun other => if other = caller then record else state.callers other }

/-- The state with a caller in another phase. -/
def moveTo (state : State) (caller : Nat) (phase : Phase) : State :=
  state.withCaller caller { state.callers caller with phase := phase }

/-- The state after a caller was cancelled. -/
def withCancelled (state : State) (caller : Nat) : State :=
  state.withCaller caller { state.callers caller with cancelled := true }

/-- The state in which the caller has the turn. -/
def grant (state : State) (caller : Nat) : State :=
  { state with holder := some caller }

/-- The state in which the caller does not have the turn. -/
def release (state : State) (caller : Nat) : State :=
  if state.holder = some caller then { state with holder := none } else state

/-- A caller gives the turn back and ends in the given phase. -/
def finish (state : State) (caller : Nat) (phase : Phase) : State :=
  (state.release caller).moveTo caller phase

/-- The state that shows another snapshot. -/
def showing (state : State) (snapshot : Snapshot) : State :=
  { state with catalog := { state.catalog with snapshot := snapshot } }

/-- The state at a later time. -/
def later (state : State) (millis : Nat) : State :=
  { state with clock := state.clock + millis }

end State

/-- The state after an event; nothing if the event cannot happen. -/
def step (state : State) : Event → Option State
  | .view caller =>
      match state.phase caller with
      | .arriving => some (state.moveTo caller (.looking state.visible))
      | .admitted => some (state.moveTo caller (.relooking state.visible))
      | _ => none
  | .judge caller =>
      match state.phase caller with
      | .looking seen =>
          if state.outdates seen then some (state.moveTo caller .waiting)
          else some (state.moveTo caller (.finished (.ok seen)))
      | .relooking seen =>
          if state.outdates seen then some (state.moveTo caller .discovering)
          else some (state.finish caller (.finished (.ok seen)))
      | _ => none
  | .enter caller =>
      match state.phase caller, state.holder with
      | .waiting, none => some ((state.grant caller).moveTo caller .admitted)
      | _, _ => none
  | .reply caller outcome =>
      match state.phase caller, outcome with
      | .discovering, .ok data => some (state.moveTo caller (.informed data))
      | .discovering, .error fault => some (state.finish caller (.finished (.error fault)))
      | _, _ => none
  | .prepare caller wall =>
      match state.phase caller with
      | .informed data =>
          some (state.moveTo caller (.prepared (.ofSeries wall state.clock data.series)))
      | _ => none
  | .publish caller =>
      match state.phase caller with
      | .prepared fresh => some ((state.showing fresh).finish caller (.finished (.ok fresh)))
      | _ => none
  | .cancel caller => some (state.withCancelled caller)
  | .giveUp caller =>
      match state.phase caller, state.isCancelled caller with
      | .waiting, true => some (state.finish caller (.finished (.error .cancelled)))
      | .discovering, true => some (state.finish caller (.finished (.error .cancelled)))
      | _, _ => none
  | .leave caller =>
      if (state.phase caller).isOver then none else some (state.finish caller .gone)
  | .pass millis => some (state.later millis)

/-- The state after a list of events; nothing if one of them cannot happen. -/
def run (state : State) : List Event → Option State
  | [] => some state
  | event :: rest => (step state event).bind fun next => run next rest

end PromScribe.Refresh

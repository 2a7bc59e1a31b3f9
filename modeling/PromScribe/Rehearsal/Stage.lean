import PromScribe.Catalog.Metric
import PromScribe.Collaborator.Work
import PromScribe.Fault.Cause
import PromScribe.Series.Data

/-!
# The stage

Work is performed on a stage: a clock that moves only while something waits, the token of the
caller, the catalog, and scripted collaborators. A wait is cut short if the token fires before it is
over; work that does not wait is never overtaken. A token that has fired ends every later call that
heeds it, and every wait for the turn to refresh the catalog.

A scripted collaborator answers its calls one after another from a list of cues; the last cue
answers every further call, and a script without cues answers at once with a default.
-/

namespace PromScribe.Rehearsal

/-- How one call goes. -/
structure Cue (α : Type) where
  /-- The caller's token fires before the call begins. -/
  cancels : Bool
  /-- The call never has an outcome of its own. -/
  hangs : Bool
  /-- Milliseconds until the outcome. -/
  delay : Nat
  /-- The call goes on after the token has fired. -/
  heedless : Bool
  outcome : Except CollaboratorFault α

/-- A cue that answers at once. -/
def Cue.answer {α : Type} (value : α) : Cue α :=
  ⟨false, false, 0, false, .ok value⟩

/-- The cues that are left. -/
abbrev Script (α : Type) := List (Cue α)

/-- The next cue and the script after it. -/
def Script.next {α : Type} (default : α) : Script α → Cue α × Script α
  | [] => (.answer default, [])
  | [last] => (last, [last])
  | cue :: rest => (cue, rest)

/-- The scripts of the collaborators. Discoveries have a script of their own. -/
structure Scripts where
  discovery : Script QueryData
  query : Script QueryData
  range : Script QueryData
  completion : Script String
  related : Script (List RelatedMetric)

/-- The caller's token: whether it has fired, and when it will. -/
structure Token where
  fired : Bool
  due : Option Nat
deriving DecidableEq, Repr

/-- A token that nothing fires. -/
def Token.idle : Token := ⟨false, none⟩

/-- The stage. Calls are listed the latest first. -/
structure Stage where
  clock : Nat
  /-- What the calendar says where the time of a series is not known. -/
  wall : Instant
  token : Token
  catalog : Catalog
  scripts : Scripts
  calls : List Call

namespace Stage

/-- The stage with a token that has fired. -/
def fire (stage : Stage) : Stage :=
  { stage with token := { stage.token with fired := true } }

/-- The stage at a later time of the clock. -/
def laterAt (stage : Stage) (clock : Nat) : Stage :=
  { stage with clock := clock }

/-- When the token fires within a wait of the given length; `none` stands for a wait without
end. -/
def cutAt? (stage : Stage) (wait : Option Nat) : Option Nat :=
  match stage.token.due, wait with
  | none, _ => none
  | some due, none => some (Nat.max stage.clock due)
  | some due, some length =>
      if 0 < length && due < stage.clock + length then some (Nat.max stage.clock due) else none

/-- A wait that nothing cuts short. A token that is due within it fires. -/
def waitOut (stage : Stage) (length : Nat) : Stage :=
  let later := stage.laterAt (stage.clock + length)
  if (stage.cutAt? (some length)).isSome then later.fire else later

/-- A call that goes on whatever the token does; nothing if it never ends. -/
def playHeedless {α : Type} (stage : Stage) (cue : Cue α) :
    Option (Stage × Except CollaboratorFault α) :=
  if cue.hangs then none else some (stage.waitOut cue.delay, cue.outcome)

/-- A call that ends when the token fires; nothing if it never ends. -/
def playHeeding {α : Type} (stage : Stage) (cue : Cue α) :
    Option (Stage × Except CollaboratorFault α) :=
  if stage.token.fired then some (stage, .error .cancelled)
  else
    match stage.cutAt? (if cue.hangs then none else some cue.delay) with
    | some moment => some ((stage.laterAt moment).fire, .error .cancelled)
    | none =>
        if cue.hangs then none else some (stage.laterAt (stage.clock + cue.delay), cue.outcome)

/-- A call with its cue; nothing if it never ends. -/
def play {α : Type} (stage : Stage) (cue : Cue α) :
    Option (Stage × Except CollaboratorFault α) :=
  let begun := if cue.cancels then stage.fire else stage
  if cue.heedless then begun.playHeedless cue else begun.playHeeding cue

/-- The stage with another call on record. -/
def record (stage : Stage) (call : Call) : Stage :=
  { stage with calls := call :: stage.calls }

/-- The stage with other scripts. -/
def withScripts (stage : Stage) (scripts : Scripts) : Stage :=
  { stage with scripts := scripts }

/-- A call with the next cue of its script; nothing if it never ends. -/
def answer (stage : Stage) : (call : Call) → Option (Stage × call.Outcome)
  | .query promql _ =>
      if promql = discoveryQuery then
        let (cue, rest) := Script.next QueryData.empty stage.scripts.discovery
        (stage.withScripts { stage.scripts with discovery := rest }).play cue
      else
        let (cue, rest) := Script.next QueryData.empty stage.scripts.query
        (stage.withScripts { stage.scripts with query := rest }).play cue
  | .queryRange _ _ =>
      let (cue, rest) := Script.next QueryData.empty stage.scripts.range
      (stage.withScripts { stage.scripts with range := rest }).play cue
  | .complete _ =>
      let (cue, rest) := Script.next "" stage.scripts.completion
      (stage.withScripts { stage.scripts with completion := rest }).play cue
  | .related _ =>
      let (cue, rest) := Script.next [] stage.scripts.related
      (stage.withScripts { stage.scripts with related := rest }).play cue

/-- Performs a call; nothing if it never ends. -/
def perform (stage : Stage) (call : Call) : Option (Stage × call.Outcome) :=
  (stage.record call).answer call

/-- Takes in the outcome of a discovery. -/
def conclude (stage : Stage) :
    Except CollaboratorFault QueryData → Stage × Except CollaboratorFault Snapshot
  | .error fault => (stage, .error fault)
  | .ok data =>
      let catalog := stage.catalog.learn ⟨stage.clock, stage.wall⟩ data
      ({ stage with catalog := catalog }, .ok catalog.snapshot)

/-- Refreshes the catalog once the turn has come; nothing if that never ends. -/
def takeTurn (stage : Stage) : Option (Stage × Except CollaboratorFault Snapshot) :=
  if stage.token.fired then some (stage, .error .cancelled)
  else
    match stage.catalog.fresh? stage.clock with
    | some snapshot => some (stage, .ok snapshot)
    | none => (stage.perform Call.discovery).map fun played => played.1.conclude played.2

/-- Refreshes the catalog if need be; nothing if that never ends. -/
def refresh (stage : Stage) : Option (Stage × Except CollaboratorFault Snapshot) :=
  match stage.catalog.fresh? stage.clock with
  | some snapshot => some (stage, .ok snapshot)
  | none => stage.takeTurn

/-- Performs work; nothing if it never ends. -/
def run {α : Type} (stage : Stage) : Work α → Option (Stage × α)
  | .done value => some (stage, value)
  | .refresh resume =>
      stage.refresh.bind fun refreshed => refreshed.1.run (resume refreshed.2)
  | .call needed resume =>
      (stage.perform needed).bind fun played => played.1.run (resume played.2)

/-- Refreshes of callers that came at one time and take turns. Callers that come to their turn
after some wait have looked at the catalog before it. -/
def refreshAll (stage : Stage) (arrival : Nat) :
    Nat → Option (Stage × List (Except CollaboratorFault Snapshot))
  | 0 => some (stage, [])
  | count + 1 => do
      let (next, outcome) ← if stage.clock = arrival then stage.refresh else stage.takeTurn
      let (last, outcomes) ← next.refreshAll arrival count
      return (last, outcome :: outcomes)

end Stage

/-!
## Others before the caller

Other callers may hold the turn to refresh the catalog when it is needed. How long they hold it and
what they leave is given like a cue. A token that fires before the turn has come ends the wait for
it.
-/

/-- The callers before one: how long they hold the turn, none if for ever, and what they leave. -/
structure Queue where
  wait : Option Nat
  leaves : Catalog → Catalog

namespace Queue

/-- The turn is free. -/
def empty : Queue := ⟨some 0, id⟩

/-- How the wait for the turn goes. -/
def cue (queue : Queue) : Cue Unit :=
  ⟨false, queue.wait.isNone, queue.wait.getD 0, false, .ok ()⟩

end Queue

namespace Stage

/-- The stage with the catalog that the queue leaves. -/
def succeeding (stage : Stage) (queue : Queue) : Stage :=
  { stage with catalog := queue.leaves stage.catalog }

/-- Refreshes the catalog if need be, once the queue is gone; nothing if that never ends. -/
def refreshBehind (queue : Queue) (stage : Stage) :
    Option (Stage × Except CollaboratorFault Snapshot) :=
  match stage.catalog.fresh? stage.clock with
  | some snapshot => some (stage, .ok snapshot)
  | none =>
      match stage.playHeeding queue.cue with
      | none => none
      | some (after, .error fault) => some (after, .error fault)
      | some (after, .ok ()) => (after.succeeding queue).takeTurn

/-- Performs work, its refresh behind the queue; nothing if it never ends. -/
def runBehind {α : Type} (queue : Queue) (stage : Stage) : Work α → Option (Stage × α)
  | .done value => some (stage, value)
  | .refresh resume =>
      (stage.refreshBehind queue).bind fun refreshed =>
        refreshed.1.runBehind queue (resume refreshed.2)
  | .call needed resume =>
      (stage.perform needed).bind fun played => played.1.runBehind queue (resume played.2)

end Stage

end PromScribe.Rehearsal

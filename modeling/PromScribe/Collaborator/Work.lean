import PromScribe.Catalog.Metric
import PromScribe.Fault.Cause

/-!
# Work

Work that needs collaborators is done, or it waits for the catalog to be fresh or for the outcome of
a call and goes on from there. What happens in between, and when, is left open.
-/

/-!
## Calls of collaborators

The query backend runs queries, the completion provider continues a prompt, and the graph names
related metrics. Each kind of call has its own kind of answer.
-/

namespace PromScribe

/-- A call of a collaborator. -/
inductive Call where
  /-- An instant query, evaluated at a time or at the backend's own. -/
  | query (promql : String) (time : Option Instant)
  | queryRange (promql : String) (range : RangeQuery)
  | complete (prompt : String)
  | related (name : String)
deriving DecidableEq

namespace Call

/-- What a call is answered with. -/
def Answer : Call → Type
  | .query _ _ => QueryData
  | .queryRange _ _ => QueryData
  | .complete _ => String
  | .related _ => List RelatedMetric

/-- An answer or a failure. -/
abbrev Outcome (call : Call) : Type := Except CollaboratorFault call.Answer

/-- The call that finds every series. -/
def discovery : Call := .query discoveryQuery none

end Call

/-- Work that needs collaborators. -/
inductive Work (α : Type) where
  | done (value : α)
  /-- Needs a fresh snapshot of the catalog. -/
  | refresh (resume : Except CollaboratorFault Snapshot → Work α)
  /-- Needs the outcome of a call. -/
  | call (call : Call) (resume : call.Outcome → Work α)

namespace Work

variable {α β : Type}

/-- The work that goes on with the value of other work. -/
def bind (work : Work α) (next : α → Work β) : Work β :=
  match work with
  | .done value => next value
  | .refresh resume => .refresh fun outcome => bind (resume outcome) next
  | .call needed resume => .call needed fun outcome => bind (resume outcome) next

instance : Monad Work where
  pure := .done
  bind := bind

@[simp] theorem bind_done (value : α) (next : α → Work β) : bind (.done value) next = next value :=
  rfl

/-- The outcome of a call. -/
def outcomeOf (needed : Call) : Work needed.Outcome :=
  .call needed .done

/-- The fresh snapshot, or why there is none. -/
def freshSnapshot : Work (Except CollaboratorFault Snapshot) :=
  .refresh .done

end Work

/-- Work that may fail. -/
abbrev Attempt (ε : Type) := ExceptT ε Work

namespace Attempt

variable {ε ε' α : Type}

/-- Work with its failure as one of the attempt. -/
def ofWork (failure : ε' → ε) (work : Work (Except ε' α)) : Attempt ε α :=
  ExceptT.mk (Work.bind work fun outcome => .done (outcome.mapError failure))

/-- A value that may be missing with the failure that explains why. -/
def ofExcept (failure : ε' → ε) (value : Except ε' α) : Attempt ε α :=
  ExceptT.mk (.done (value.mapError failure))

end Attempt

end PromScribe

import PromScribe.Collaborator.Work

/-!
# Work that is cut short

A caller that gives up cuts the wait at hand short, and each later call before it begins. Work heeds
that if it then comes to such an end as it should, whichever wait was the first to be cut short.
-/

namespace PromScribe

namespace Work

variable {α β : Type} {ending : α → Prop} {later : β → Prop}

/-- The work comes to such an end with every call cut short; it refreshes no more. -/
inductive Abandoned (ending : α → Prop) : Work α → Prop where
  | done {value : α} (ends : ending value) : Abandoned ending (.done value)
  | call {needed : Call} {resume : needed.Outcome → Work α}
      (goesOn : Abandoned ending (resume (.error .cancelled))) :
      Abandoned ending (.call needed resume)

/-- Whichever wait is the first to be cut short, the work comes to such an end. -/
inductive Heeds (ending : α → Prop) : Work α → Prop where
  | done {value : α} : Heeds ending (.done value)
  | refresh {resume : Except CollaboratorFault Snapshot → Work α}
      (cut : Abandoned ending (resume (.error .cancelled)))
      (goesOn : ∀ outcome, Heeds ending (resume outcome)) : Heeds ending (.refresh resume)
  | call {needed : Call} {resume : needed.Outcome → Work α}
      (cut : Abandoned ending (resume (.error .cancelled)))
      (goesOn : ∀ outcome, Heeds ending (resume outcome)) : Heeds ending (.call needed resume)

theorem Abandoned.bind {work : Work α} {next : α → Work β} (cut : Abandoned ending work)
    (goesOn : ∀ value, ending value → Abandoned later (next value)) :
    Abandoned later (Work.bind work next) := by
  induction cut with
  | done ends => exact goesOn _ ends
  | call _ ih => exact .call ih

/-- Work that goes on heeds what both parts heed, if the second part copes with how the first one
ends when it is cut short. -/
theorem Heeds.bind {work : Work α} {next : α → Work β} (heeds : Heeds ending work)
    (cut : ∀ value, ending value → Abandoned later (next value))
    (goesOn : ∀ value, Heeds later (next value)) : Heeds later (Work.bind work next) := by
  induction heeds with
  | done => exact goesOn _
  | refresh abandoned _ ih => exact .refresh (abandoned.bind cut) ih
  | call abandoned _ ih => exact .call (abandoned.bind cut) ih

theorem heeds_freshSnapshot : Heeds (· = .error .cancelled) freshSnapshot :=
  .refresh (.done rfl) fun _ => .done

theorem heeds_outcomeOf (needed : Call) : Heeds (· = .error .cancelled) (outcomeOf needed) :=
  .call (.done rfl) fun _ => .done

end Work

namespace Attempt

open Work

variable {ε ε' α β : Type} {ending : Except ε α → Prop} {later : Except ε β → Prop}

/-- An attempt that goes on passes the failures of its first part on. -/
theorem heeds_bind {attempt : Attempt ε α} {next : α → Attempt ε β}
    (heeds : Heeds ending attempt.run) (fails : ∀ fault, ending (.error fault) → later (.error fault))
    (cut : ∀ value, ending (.ok value) → Abandoned later (next value).run)
    (goesOn : ∀ value, Heeds later (next value).run) : Heeds later (attempt >>= next).run := by
  rw [ExceptT.run_bind]
  refine heeds.bind ?_ ?_
  · intro outcome ends
    cases outcome with
    | ok value => exact cut value ends
    | error fault => exact .done (fails fault ends)
  · intro outcome
    cases outcome with
    | ok value => exact goesOn value
    | error fault => exact .done

/-- An attempt that fails when it is cut short fails so whatever it would go on with. -/
theorem heeds_bind_error {attempt : Attempt ε α} {next : α → Attempt ε β} {fault : ε}
    (heeds : Heeds (· = .error fault) attempt.run)
    (goesOn : ∀ value, Heeds (· = .error fault) (next value).run) :
    Heeds (· = .error fault) (attempt >>= next).run := by
  refine heeds_bind heeds ?_ ?_ goesOn
  · rintro cause ⟨⟩
    rfl
  · rintro value ⟨⟩

theorem heeds_pure {value : α} : Heeds ending (pure value : Attempt ε α).run := .done

theorem heeds_ofExcept {failure : ε' → ε} {value : Except ε' α} :
    Heeds ending (ofExcept failure value).run := .done

theorem heeds_ofWork {failure : ε' → ε} {work : Work (Except ε' α)} {cause : ε'} {fault : ε}
    (heeds : Heeds (· = .error cause) work) (becomes : failure cause = fault) :
    Heeds (· = .error fault) (ofWork failure work).run := by
  refine heeds.bind ?_ fun _ => .done
  rintro _ rfl
  exact .done (congrArg Except.error becomes)

theorem abandoned_ofWork {failure : ε' → ε} {work : Work (Except ε' α)} {cause : ε'} {fault : ε}
    (cut : Abandoned (· = .error cause) work) (becomes : failure cause = fault) :
    Abandoned (· = .error fault) (ofWork failure work).run := by
  refine cut.bind ?_
  rintro _ rfl
  exact .done (congrArg Except.error becomes)

/-- An attempt that is abandoned fails so whatever it would go on with. -/
theorem abandoned_bind_error {attempt : Attempt ε α} {next : α → Attempt ε β} {fault : ε}
    (cut : Abandoned (· = .error fault) attempt.run) :
    Abandoned (· = .error fault) (attempt >>= next).run := by
  rw [ExceptT.run_bind]
  refine cut.bind ?_
  rintro _ rfl
  exact .done rfl

theorem abandoned_ofExcept_bind {failure : ε' → ε} {value : Except ε' α} {result : α}
    {next : α → Attempt ε β} (known : value = .ok result)
    (cut : Abandoned later (next result).run) :
    Abandoned later (ofExcept failure value >>= next).run := by
  subst known
  exact cut

theorem heeds_lift {work : Work α} {ends : α → Prop} (heeds : Heeds ends work)
    (passes : ∀ value, ends value → ending (.ok value)) :
    Heeds ending (ExceptT.lift work : Attempt ε α).run := by
  refine heeds.bind ?_ fun _ => .done
  intro value cut
  exact .done (passes value cut)

end Attempt

end PromScribe

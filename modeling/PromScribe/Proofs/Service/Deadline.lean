import PromScribe.Proofs.Query.Assembly
import PromScribe.Proofs.Rehearsal.Deadline
import PromScribe.Proofs.Translation.Course
import PromScribe.Service.Router

/-!
# Deadlines of requests

A request whose time is over while it waits is answered just so, whatever it was waiting for. The
lookup of related metrics and the explanation make the best of other failures; this one they do not
hide.
-/

namespace PromScribe

open Work

variable {translator : Translator} {question : String} {context : Context}

theorem Verdict.heeds_judge (promql : String) :
    (judge promql).Heeds (· = .error .cancelled) := by
  unfold judge
  split
  · exact .done
  · exact .call (.done rfl) fun _ => .done

theorem Verdict.abandoned_judge {promql : String} (full : Text.isBlankText promql = false) :
    (judge promql).Abandoned (· = .error .cancelled) := by
  simp only [judge, full, Bool.false_eq_true, if_false]
  exact .call (.done rfl)

theorem Explanation.heeds_explain (context : Context) (promql : String) :
    (explain context promql).Heeds (· = .error .cancelled) :=
  .call (.done rfl) fun _ => .done

namespace Extraction

variable {findings : Findings}

theorem heeds_findings :
    (Extraction.findings translator question).run.Heeds (· = .error .cancelled) := by
  refine Attempt.heeds_bind_error Attempt.heeds_ofExcept fun _ => ?_
  refine Attempt.heeds_bind_error (Attempt.heeds_ofWork heeds_freshSnapshot rfl) fun _ => ?_
  refine Attempt.heeds_bind_error Attempt.heeds_ofExcept fun intent => ?_
  refine Attempt.heeds_bind_error Attempt.heeds_ofExcept fun entities => ?_
  exact Attempt.heeds_bind_error Attempt.heeds_ofExcept fun window => Attempt.heeds_pure

theorem heeds_resolved : (resolved question findings).run.Heeds (· = .error .cancelled) := by
  have heeds_proposal : (Extraction.proposal findings).run.Heeds (· = .error .cancelled) := by
    have completes := heeds_outcomeOf (.complete
      (Prompt.builder findings.snapshot findings.templates findings.wording))
    exact Attempt.heeds_bind_error (Attempt.heeds_ofWork completes rfl) fun _ => .done
  unfold resolved
  cases knownMetric? findings.snapshot findings.entities with
  | some metric => exact .done
  | none =>
      refine Attempt.heeds_bind_error heeds_proposal fun proposal => ?_
      cases findings.window with
      | some span => exact .done
      | none => exact Attempt.heeds_bind_error Attempt.heeds_ofExcept fun window => .done

/-- Only a context with a metric has its enrichment cut short, and keeps the metric. -/
theorem heeds_enriched :
    (enriched translator findings context).Heeds (fun extracted => extracted.hasMetric = true) := by
  unfold enriched
  dsimp only
  split
  · next asked =>
      have named : context.hasMetric = true := (Bool.and_eq_true_iff.mp asked).2
      exact .call (.done named) fun _ => .done
  · exact .done

end Extraction

/-- An extraction that is cut short fails for that, or it goes on with a context that has a
metric. -/
theorem Translator.heeds_extract :
    (translator.extract question).run.Heeds fun outcome =>
      outcome = .error .cancelled ∨
        ∃ context, outcome = .ok context ∧ context.hasMetric = true := by
  refine Attempt.heeds_bind Extraction.heeds_findings ?_ nofun fun findings => ?_
  · rintro fault ⟨⟩
    exact .inl rfl
  refine Attempt.heeds_bind Extraction.heeds_resolved ?_ nofun fun context => ?_
  · rintro fault ⟨⟩
    exact .inl rfl
  exact Attempt.heeds_lift Extraction.heeds_enriched fun context named =>
    .inr ⟨context, rfl, named⟩

/-- What a context with a metric is converted to is judged first, so that the caller that gave up
over its enrichment is told so then. -/
theorem Translator.heeds_convert :
    (translator.convert question).run.Heeds (· = .error .cancelled) := by
  refine Attempt.heeds_bind heeds_extract ?_ ?_ fun context => ?_
  · rintro fault (same | ⟨context, same, -⟩)
    · exact congrArg Except.error (Except.error.inj same)
    · cases same
  · rintro context (same | ⟨_, same, named⟩)
    · cases same
    cases same
    have full : (Query.build context).query ≠ "" := fun empty => by
      rw [Query.build_query_eq_empty_iff.mp empty] at named
      cases named
    have judged := Verdict.abandoned_judge (Query.isBlankText_build named)
    have assembled : assembled context = .ok (Query.build context) :=
      assembled_eq_ok_iff.mpr ⟨rfl, full⟩
    refine Attempt.abandoned_ofExcept_bind assembled ?_
    exact Attempt.abandoned_bind_error (Attempt.abandoned_ofWork judged rfl)
  · refine Attempt.heeds_bind_error Attempt.heeds_ofExcept fun built => ?_
    refine Attempt.heeds_bind_error
      (Attempt.heeds_ofWork (Verdict.heeds_judge built.query) rfl) fun judged => ?_
    refine Attempt.heeds_bind_error Attempt.heeds_ofExcept fun verdict => ?_
    refine Attempt.heeds_bind_error
      (Attempt.heeds_ofWork (Explanation.heeds_explain context built.query) rfl) fun _ => ?_
    exact Attempt.heeds_pure

namespace Router

variable {request : Http.Request} {endpoint : Endpoint}

theorem heeds_convert : (convert translator request).run.Heeds (· = .error .cancelled) := by
  refine Attempt.heeds_bind_error Attempt.heeds_ofExcept fun question => ?_
  exact Attempt.heeds_ofWork Translator.heeds_convert rfl

theorem heeds_validate : (validate request).run.Heeds (· = .error .cancelled) := by
  refine Attempt.heeds_bind_error Attempt.heeds_ofExcept fun promql => ?_
  exact Attempt.heeds_ofWork (Verdict.heeds_judge promql) rfl

theorem heeds_execute : (execute request).run.Heeds (· = .error .cancelled) := by
  refine Attempt.heeds_bind_error Attempt.heeds_ofExcept fun execution => ?_
  refine Attempt.heeds_bind_error Attempt.heeds_ofExcept fun plan => ?_
  have performed : (Execution.perform execution.query plan).Heeds (· = .error .cancelled) := by
    cases plan with
    | range range => exact heeds_outcomeOf (.queryRange execution.query range)
    | instant time => exact heeds_outcomeOf (.query execution.query time)
  exact Attempt.heeds_bind_error (Attempt.heeds_ofWork performed rfl) fun _ => .done

theorem heeds_metrics : metrics.run.Heeds (· = .error .cancelled) :=
  Attempt.heeds_bind_error (Attempt.heeds_ofWork heeds_freshSnapshot rfl) fun _ => .done

/-- The response to a request whose time is over. -/
def overdueResponse : Http.Response :=
  ⟨504, [(Http.contentType, Http.jsonType)],
    "\x7b\"message\":\"request cancelled: operation cancelled\"\x7d"⟩

theorem failureResponse_cancelled : failureResponse .cancelled = overdueResponse := by decide

theorem heeds_answered {α : Type} {written : α → Json} {handler : Attempt ApplicationFault α}
    (heeds : handler.run.Heeds (· = .error .cancelled)) :
    (answered written handler).Heeds (· = overdueResponse) := by
  refine heeds.bind ?_ fun _ => .done
  rintro _ rfl
  exact .done failureResponse_cancelled

/-- Every endpoint but the one that tells of the service itself answers that the time is over. -/
theorem heeds_serve (other : endpoint ≠ .health) :
    (serve translator request endpoint).Heeds (· = overdueResponse) := by
  cases endpoint with
  | convert => exact heeds_answered heeds_convert
  | validate => exact heeds_answered heeds_validate
  | execute => exact heeds_answered heeds_execute
  | metrics => exact heeds_answered heeds_metrics
  | health => exact absurd rfl other

theorem heeds_respond (other : Endpoint.ofTarget? request.target ≠ some .health) :
    (respond translator request).Heeds (· = shared (headOnly request overdueResponse)) := by
  have routed : (route translator request).Heeds (· = overdueResponse) := by
    unfold route
    dsimp only
    split
    · exact .done
    · split
      · exact .done
      · next known named =>
          split
          · refine heeds_serve ?_
            rintro rfl
            exact other named
          · exact .done
  refine routed.bind ?_ fun _ => .done
  rintro _ rfl
  exact .done rfl

open Rehearsal in
/-- A request that waits only for collaborators that heed its token, and for the turn to refresh, is
answered by its deadline; if the token fired meanwhile, it is told so, and nothing else. -/
theorem deadline_never_masked {stage : Stage} {queue : Queue} {due : Nat}
    (other : Endpoint.ofTarget? request.target ≠ some .health)
    (token : stage.token = ⟨false, some due⟩) (heed : stage.scripts.Heed) :
    ∃ after response,
      stage.runBehind queue (respond translator request) = some (after, response) ∧
        after.clock ≤ Nat.max stage.clock due ∧
          (after.token.fired = true →
            response = shared (headOnly request overdueResponse) ∧ response.status = 504) := by
  have bounded : stage.Bounded due := ⟨by rw [token], heed⟩
  have live : stage.token.fired = false := by rw [token]
  obtain ⟨after, response, ran, told, inTime⟩ :=
    Stage.exists_run_of_heeds (heeds_respond other) bounded live
  refine ⟨after, response, ran, inTime, fun fired => ?_⟩
  obtain rfl := told fired
  refine ⟨rfl, ?_⟩
  unfold shared headOnly
  split <;> rfl

/-- A request for a conversion. -/
def conversionRequest : Http.Request :=
  ⟨"POST", Endpoint.convert.path, [(Http.contentType, Http.jsonType)],
    "\x7b\"query\": \"health\"\x7d"⟩

open Rehearsal in
/-- A stage like `proposingStage` with a deadline, and a graph that never answers. -/
def hangingStage : Stage :=
  { proposingStage with
    token := ⟨false, some 50⟩
    scripts := { proposingStage.scripts with related := [⟨false, true, 0, false, .ok []⟩] } }

open Rehearsal in
/-- A lookup of related metrics beyond the deadline is not passed over. -/
theorem deadline_never_masked_lookup :
    ∃ after response,
      hangingStage.runBehind .empty (respond graphTranslator conversionRequest) =
          some (after, response) ∧
        after.token.fired = true ∧ after.clock = 50 ∧ after.calls.length = 4 ∧
          response = shared overdueResponse := by
  have performed : ∃ after response,
      hangingStage.runBehind .empty (respond graphTranslator conversionRequest) =
          some (after, response) ∧
        after.token.fired = true ∧ after.clock = 50 ∧ after.calls.length = 4 :=
    ⟨_, _, rfl, rfl, rfl, rfl⟩
  have heed : hangingStage.scripts.Heed :=
    ⟨by decide, by decide, by decide, by decide, by decide⟩
  obtain ⟨after, response, ran, fired, clock, four⟩ := performed
  obtain ⟨last, told, ran', -, answered⟩ :=
    @deadline_never_masked graphTranslator conversionRequest hangingStage .empty 50 (by decide) rfl
      heed
  obtain ⟨rfl, rfl⟩ := Prod.mk.inj (Option.some.inj (ran.symm.trans ran'))
  exact ⟨after, response, ran, fired, clock, four, (answered fired).1⟩

end Router

end PromScribe

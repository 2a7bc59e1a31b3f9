import PromScribe.Proofs.Collaborator.Answers
import PromScribe.Proofs.Translation.Course
import PromScribe.Proofs.Translation.Failure

/-!
# What enrichment leaves alone

Two runs for one question that get the same snapshot, the same proposal and the same judgement are
alike up to the rules of their contexts, whatever is known for templates and whatever the graph and
the explanation say. The rules show in the suggestions only.
-/

namespace PromScribe

open Question

variable {left right : Translator} {first second : Answers} {question : String}

/-- What the runs have in common: the snapshot, the proposal and the judgement. -/
structure Answers.Agree (first second : Answers) : Prop where
  refreshed : first.refreshed = second.refreshed
  proposed : first.proposed = second.proposed
  queried : first.queried = second.queried

namespace Extraction

variable {base : Findings} {context : Context}

/-- The two are the same, and there was no query yet. -/
def Same {α : Type} (queried : Bool) (value other : α) : Prop :=
  queried = false ∧ value = other

theorem Same.together {ε α : Type} (value : Except ε α) :
    Together (Same false) value value :=
  .refl value fun _ _ => ⟨rfl, rfl⟩

/-- The findings with the templates that the knowledge has for them. -/
def Findings.knowing (findings : Findings) (knowledge : Knowledge) : Findings :=
  { findings with templates := knowledge.find findings.wording findings.snapshot.names }

/-- What is found is the same up to the templates. -/
def FoundAlike (left right : Translator) (queried : Bool) (findings other : Findings) : Prop :=
  queried = false ∧
    ∃ base : Findings, findings = base.knowing left.knowledge ∧ other = base.knowing right.knowledge

theorem alike_findings (reader : left.reader = right.reader) (agree : first.Agree second) :
    Attempt.Alike first second false (FoundAlike left right) (Extraction.findings left question)
      (Extraction.findings right question) := by
  have refreshes : Work.Alike first second false (fun queried => Together (Same queried))
      Work.freshSnapshot Work.freshSnapshot :=
    .refresh agree.refreshed (.done (Same.together _))
  unfold Extraction.findings
  rw [reader]
  refine .bind (.ofExcept (Same.together _)) ?_
  rintro _ wording _ ⟨rfl, rfl⟩
  refine .bind (.ofWork refreshes) ?_
  rintro _ snapshot _ ⟨rfl, rfl⟩
  refine .bind (.ofExcept (Same.together _)) ?_
  rintro _ intent _ ⟨rfl, rfl⟩
  refine .bind (.ofExcept (Same.together _)) ?_
  rintro _ entities _ ⟨rfl, rfl⟩
  refine .bind (.ofExcept (Same.together _)) ?_
  rintro _ window _ ⟨rfl, rfl⟩
  exact .pure ⟨rfl, ⟨wording, snapshot, intent, entities, window, []⟩, rfl, rfl⟩

/-- Templates are shown in the prompt only. -/
theorem alike_resolved (agree : first.Agree second) :
    Attempt.Alike first second false Same (resolved question (base.knowing left.knowledge))
      (resolved question (base.knowing right.knowledge)) := by
  have proposes : Attempt.Alike first second false Same
      (Extraction.proposal (base.knowing left.knowledge))
      (Extraction.proposal (base.knowing right.knowledge)) := by
    have completes (prompt otherPrompt : String) :
        Work.Alike first second false (fun queried => Together (Same queried))
          (Work.outcomeOf (.complete prompt)) (Work.outcomeOf (.complete otherPrompt)) := by
      refine .complete (.done ?_)
      show Together (Same false) first.proposed second.proposed
      rw [agree.proposed]
      exact Same.together _
    refine .bind (.ofWork (completes _ _)) ?_
    rintro _ reply _ ⟨rfl, rfl⟩
    exact .ofExcept (Same.together _)
  unfold resolved Findings.knowing
  dsimp only
  cases knownMetric? base.snapshot base.entities with
  | some metric => exact .pure ⟨rfl, rfl⟩
  | none =>
      refine .bind proposes ?_
      rintro _ proposal _ ⟨rfl, rfl⟩
      cases base.window with
      | some span => exact .pure ⟨rfl, rfl⟩
      | none =>
          refine .bind (.ofExcept (Same.together _)) ?_
          rintro _ window _ ⟨rfl, rfl⟩
          exact .pure ⟨rfl, rfl⟩

/-- The rules that the graph adds. -/
def graphRules (translator : Translator) (answers : Answers) (context : Context) : List Rule :=
  if translator.hasGraph && context.hasMetric then
    match answers.related with
    | .ok related => related.map relatedRule
    | .error _ => []
  else []

/-- Enrichment adds the rules that are known and those of the graph, and asks for no query. -/
theorem value_enriched (translator : Translator) (answers : Answers) (findings : Findings)
    (context : Context) (queried : Bool) :
    (enriched translator findings context).value answers queried = (queried,
      { context with
        rules := (withKnownRules context findings).rules ++
          graphRules translator answers context }) := by
  unfold enriched graphRules
  dsimp only
  split
  · simp only [Work.value, Answers.outcome, Answers.behind]
    cases answers.related with
    | ok related => rfl
    | error fault => simp [withRelated, withKnownRules]
  · simp [Work.value, withKnownRules]

/-- The contexts are the same up to their rules; these are what one function makes of the knowledge,
and then those of the graph. -/
def ExtractedAlike (left right : Translator) (first second : Answers) (queried : Bool)
    (context other : Context) : Prop :=
  queried = false ∧ ∃ (base : Context) (known : Knowledge → List Rule),
    context = { base with rules := known left.knowledge ++ graphRules left first base } ∧
      other = { base with rules := known right.knowledge ++ graphRules right second base }

theorem alike_extract (reader : left.reader = right.reader) (agree : first.Agree second) :
    Attempt.Alike first second false (ExtractedAlike left right first second)
      (left.extract question) (right.extract question) := by
  unfold Translator.extract
  refine .bind (alike_findings reader agree) ?_
  rintro _ _ _ ⟨rfl, base, rfl, rfl⟩
  refine .bind (alike_resolved agree) ?_
  rintro _ context _ ⟨rfl, rfl⟩
  refine .lift ⟨false, _, _, value_enriched _ _ _ _ _, value_enriched _ _ _ _ _, rfl, context, ?_⟩
  exact ⟨fun knowledge => (withKnownRules context (base.knowing knowledge)).rules, rfl, rfl⟩

end Extraction

open Extraction

/-- The conversions are the same up to explanation and suggestions: the explanation follows from the
outcome of its completion, the suggestions from the knowledge and the graph. -/
structure ConvertedAlike (left right : Translator) (first second : Answers)
    (conversion other : Conversion) : Prop where
  promql_eq : conversion.promql = other.promql
  warnings_eq : conversion.warnings = other.warnings
  explanation_eq : first.explained = second.explained → conversion.explanation = other.explanation
  suggestions_eq : ∃ (base : Context) (known : Knowledge → List Rule), base.hasMetric = true ∧
    conversion.suggestions = Conversion.suggestionsOf conversion.promql
      (known left.knowledge ++ graphRules left first base) ∧
    other.suggestions = Conversion.suggestionsOf conversion.promql
      (known right.knowledge ++ graphRules right second base)

/-- Only what the backend was asked is accepted. -/
theorem alike_judge (agree : first.Agree second) (promql : String) :
    Work.Alike first second false
      (fun queried => Together fun verdict other =>
        verdict = other ∧ (verdict.valid = true → queried = true))
      (Verdict.judge promql) (Verdict.judge promql) := by
  unfold Verdict.judge
  split
  · exact .done (.ok ⟨rfl, fun valid => by cases valid⟩)
  · refine .query (.done ?_)
    rw [agree.queried]
    exact .refl _ fun verdict _ => ⟨rfl, fun _ => rfl⟩

theorem alike_explain (heard : first.explained ≠ .error .cancelled)
    (heardAlso : second.explained ≠ .error .cancelled) (context other : Context) (promql : String) :
    Work.Alike first second true
      (fun _ => Together fun text otherText =>
        Explanation.ofOutcome promql first.explained = .ok text ∧
          Explanation.ofOutcome promql second.explained = .ok otherText)
      (Explanation.explain context promql) (Explanation.explain other promql) := by
  refine .complete (.done ?_)
  have told {outcome : Except CollaboratorFault String} (heard : outcome ≠ .error .cancelled) :
      ∃ text, Explanation.ofOutcome promql outcome = .ok text := by
    match outcome with
    | .ok reply => exact ⟨_, rfl⟩
    | .error fault =>
        cases fault with
        | cancelled => exact absurd rfl heard
        | _ => exact ⟨_, rfl⟩
  obtain ⟨text, explained⟩ := told heard
  obtain ⟨otherText, explainedAlso⟩ := told heardAlso
  show Together _ (Explanation.ofOutcome promql first.explained)
    (Explanation.ofOutcome promql second.explained)
  rw [explained, explainedAlso]
  exact .ok ⟨rfl, rfl⟩

/-- Rules have no part in the query; a query has a metric. -/
theorem alike_assembled (context : Context) (rules otherRules : List Rule) :
    Attempt.Alike first second false
      (fun queried built other => queried = false ∧ built = other ∧ context.hasMetric = true)
      (Attempt.ofExcept id (Translator.assembled { context with rules := rules }))
      (Attempt.ofExcept id (Translator.assembled { context with rules := otherRules })) := by
  refine .ofExcept (Together.refl (Translator.assembled context) fun built assembled => ?_)
  obtain ⟨rfl, full⟩ := Translator.assembled_eq_ok_iff.mp assembled
  have named : context.hasMetric = true :=
    eq_true_of_ne_false fun blank => full (Query.build_query_eq_empty_iff.mpr blank)
  exact ⟨rfl, rfl, named⟩

theorem alike_demanded {queried : Bool} {verdict : Verdict}
    (asked : verdict.valid = true → queried = true) :
    Attempt.Alike first second queried
      (fun queried verdict other => queried = true ∧ verdict = other)
      (Attempt.ofExcept id (Translator.demandValid verdict))
      (Attempt.ofExcept id (Translator.demandValid verdict)) := by
  refine .ofExcept (Together.refl _ fun demanded passes => ?_)
  obtain ⟨rfl, valid⟩ := Translator.demandValid_eq_ok_iff.mp passes
  exact ⟨asked valid, rfl⟩

theorem alike_convert (reader : left.reader = right.reader) (agree : first.Agree second)
    (heard : first.explained ≠ .error .cancelled)
    (heardAlso : second.explained ≠ .error .cancelled) :
    Attempt.Alike first second false (fun _ => ConvertedAlike left right first second)
      (left.convert question) (right.convert question) := by
  unfold Translator.convert
  refine .bind (alike_extract reader agree) ?_
  rintro _ _ _ ⟨rfl, base, known, rfl, rfl⟩
  refine .bind (alike_assembled base _ _) ?_
  rintro _ built _ ⟨rfl, rfl, named⟩
  refine .bind (.ofWork (alike_judge agree built.query)) ?_
  rintro queried verdict _ ⟨rfl, asked⟩
  refine .bind (alike_demanded asked) ?_
  rintro _ verdict _ ⟨rfl, rfl⟩
  refine .bind (.ofWork (alike_explain heard heardAlso _ _ built.query)) ?_
  rintro _ text otherText ⟨told, toldAlso⟩
  refine .pure ⟨rfl, rfl, fun same => ?_, base, known, named, rfl, rfl⟩
  rw [same, toldAlso] at told
  rw [Conversion.ofParts, Conversion.ofParts, Except.ok.inj told]

namespace Conversion

/-- What is suggested are the names that are neither the query nor suggested yet, each once. -/
theorem foldl_suggest (promql : String) (suggestions names : List String) :
    names.foldl (suggest promql) suggestions = suggestions ++
      (names.filter fun name => name ≠ promql ∧ name ∉ suggestions).eraseDups := by
  induction names generalizing suggestions with
  | nil => simp
  | cons name names ih =>
      rw [List.foldl_cons, ih]
      by_cases old : name = promql ∨ name ∈ suggestions
      · have kept : suggest promql suggestions name = suggestions := by
          unfold suggest
          rw [if_pos (by simpa using old)]
        rw [kept, List.filter_cons_of_neg (by simpa using fun other => old.resolve_left other)]
      · have grown : suggest promql suggestions name = suggestions ++ [name] := by
          unfold suggest
          rw [if_neg (by simpa using old)]
        rw [grown, List.filter_cons_of_pos (by simpa using old), List.eraseDups_cons,
          List.append_assoc, List.singleton_append, List.filter_filter]
        refine congrArg (fun rest => suggestions ++ name :: List.eraseDups rest) ?_
        refine List.filter_congr fun other _ => ?_
        by_cases same : other = name
        · subst same
          simp
        · simp [same]

end Conversion

/-- Whatever is known for templates, whatever the graph says and whatever the explanation is, two
runs that agree on the rest fail with the same fault, or give the same query with the same warnings.
The explanation follows from the outcome of its completion, and what the graph names is suggested
behind what would be suggested without it, unless it is the query or suggested already. -/
theorem enrichment_inert {waits otherWaits : Transcript}
    {outcome otherOutcome : Except TranslationFault Conversion}
    (reader : left.reader = right.reader) (agree : first.Agree second)
    (heard : first.explained ≠ .error .cancelled) (heardAlso : second.explained ≠ .error .cancelled)
    (plays : (left.convert question).run.Plays waits outcome) (follows : waits.Follows first false)
    (playsAlso : (right.convert question).run.Plays otherWaits otherOutcome)
    (followsAlso : otherWaits.Follows second false) :
    Together (fun conversion other : Conversion =>
      conversion.promql = other.promql ∧ conversion.warnings = other.warnings ∧
        (first.explained = second.explained → conversion.explanation = other.explanation) ∧
        (left.knowledge = right.knowledge → left.hasGraph = true →
          (right.hasGraph = false ∨ ∃ fault, second.related = .error fault) →
            ∀ related, first.related = .ok related →
              conversion.suggestions = other.suggestions ++
                ((related.map RelatedMetric.name).filter fun name =>
                  name ≠ conversion.promql ∧ name ∉ other.suggestions).eraseDups))
      outcome otherOutcome := by
  obtain ⟨_, together⟩ := Work.Alike.fits_of_plays
    (alike_convert reader agree heard heardAlso) plays follows playsAlso followsAlso
  cases together with
  | error => exact .error
  | @ok conversion other alike =>
      refine .ok ⟨alike.promql_eq, alike.warnings_eq, alike.explanation_eq, ?_⟩
      intro knowledge graph without related found
      obtain ⟨base, known, named, suggestions, otherSuggestions⟩ := alike.suggestions_eq
      have leftRules : graphRules left first base = related.map relatedRule := by
        unfold graphRules
        rw [graph, named, found]
        rfl
      have rightRules : graphRules right second base = [] := by
        unfold graphRules
        rcases without with none | ⟨fault, fails⟩
        · rw [none]
          rfl
        · rw [fails]
          split
          · rfl
          · rfl
      rw [leftRules, knowledge] at suggestions
      rw [rightRules, List.append_nil] at otherSuggestions
      rw [suggestions, otherSuggestions]
      unfold Conversion.suggestionsOf
      rw [List.map_append, List.foldl_append, Conversion.foldl_suggest, List.map_map]
      rfl

/-- Answers that propose a metric, accept its query, and name related metrics. -/
def relatingAnswers : Answers where
  refreshed := .ok .initial
  proposed := .ok "\x7b\"metric\": \"up\"\x7d"
  queried := .ok ⟨.vector, .series []⟩
  related := .ok (["latency", "up", "latency", "load"].map fun name =>
    ⟨name, "", "", RelatedMetric.weightless⟩)
  explained := .ok "told"

/-- The same answers for a run whose graph gives up and whose explanation fails. -/
def failingAnswers : Answers :=
  { relatingAnswers with related := .error .cancelled, explained := .error (.timeout "late") }

/-- Two related metrics are suggested, and an explanation that fails is told; nothing else
differs. -/
theorem enrichment_inert_related :
    ∃ waits otherWaits conversion other,
      (graphTranslator.convert "errors").run.Plays waits (.ok conversion) ∧
        waits.Follows relatingAnswers false ∧
      (graphTranslator.convert "errors").run.Plays otherWaits (.ok other) ∧
        otherWaits.Follows failingAnswers false ∧
      conversion.promql = other.promql ∧ other.promql = "up" ∧ other.suggestions = [] ∧
        conversion.suggestions = ["latency", "load"] := by
  obtain ⟨waits, plays, follows⟩ :=
    Work.exists_follows relatingAnswers false (graphTranslator.convert "errors").run
  obtain ⟨otherWaits, playsAlso, followsAlso⟩ :=
    Work.exists_follows failingAnswers false (graphTranslator.convert "errors").run
  have value : ((graphTranslator.convert "errors").run.value relatingAnswers false).2 =
      .ok ⟨"up", some "told", [], ["latency", "load"]⟩ := rfl
  have otherValue : ((graphTranslator.convert "errors").run.value failingAnswers false).2 =
      .ok ⟨"up", some "Query: up\nError generating explanation: Timeout error: late", [], []⟩ := rfl
  rw [value] at plays
  rw [otherValue] at playsAlso
  have agree : relatingAnswers.Agree failingAnswers := ⟨rfl, rfl, rfl⟩
  have heard : relatingAnswers.explained ≠ .error .cancelled := by
    intro same
    cases same
  have heardAlso : failingAnswers.explained ≠ .error .cancelled := by
    intro same
    cases same
  have together :=
    enrichment_inert rfl agree heard heardAlso plays follows playsAlso followsAlso
  refine ⟨waits, otherWaits, _, _, plays, follows, playsAlso, followsAlso, ?_⟩
  cases together with
  | ok alike =>
      obtain ⟨promql, -, -, suggestions⟩ := alike
      exact ⟨promql, rfl, rfl, suggestions rfl rfl (.inr ⟨.cancelled, rfl⟩) _ rfl⟩

end PromScribe

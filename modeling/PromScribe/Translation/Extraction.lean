import PromScribe.Catalog.Similar
import PromScribe.Collaborator.Work
import PromScribe.Query.Assembly
import PromScribe.Question.Reading
import PromScribe.Translation.Prompt
import PromScribe.Translation.Proposal

/-!
# Extracting contexts

The context of a question. Its metric is the first named one that the catalog knows; only if there
is none, one completion proposes metric, aggregation and whatever else the question leaves open.
What the question states always stands. Rules for further queries come from the knowledge, from
similar metrics and from the graph.
-/

namespace PromScribe

open Question

/-- What a translation works with: the reader of questions, the knowledge, and whether there is a
graph to ask. -/
structure Translator where
  reader : Reader
  knowledge : Knowledge
  hasGraph : Bool

namespace Extraction

/-- What is known before a metric is chosen. -/
structure Findings where
  wording : String
  snapshot : Snapshot
  intent : Intent
  entities : List Entity
  /-- The window that the question names. -/
  window : Option TimeSpan
  /-- The templates for the question. -/
  templates : List Template

/-- The window text of the question: its first time entity, else its time frame. -/
def windowText? (intent : Intent) (entities : List Entity) : Option String :=
  match entities.find? fun entity => entity.kind == .time with
  | some entity => some entity.value
  | none => intent.timeFrame.map TimeFrame.window

/-- The window that the question names; one that is no positive span is refused. -/
def window? (intent : Intent) (entities : List Entity) :
    Except TranslationFault (Option TimeSpan) :=
  match windowText? intent entities with
  | none => .ok none
  | some text =>
      match TimeSpan.read text with
      | .ok span => .ok (some span)
      | .error fault => .error (.question (.refused (.unusableSpan fault)))

/-- The first named metric that is known. -/
def knownMetric? (snapshot : Snapshot) (entities : List Entity) : Option String :=
  (entities.find? fun entity => entity.kind == .metric && snapshot.contains entity.value).map
    Entity.value

/-- The labels of the question; the last one of a key stands. -/
def statedLabels (entities : List Entity) : Labels :=
  Keyed.ofList (entities.filterMap Entity.labelPair?)

/-- What the question itself states. -/
def stated (question : String) (findings : Findings) : Context :=
  { Context.ofQuery question with
    intent := findings.intent.operationName
    labels := statedLabels findings.entities
    groupBy := findings.intent.groupLabel.toList }

/-- The context around a known metric. -/
def byRule (context : Context) (metric : String) : Context :=
  { context with mainMetric := metric, aggregation := context.intent, source := .rules }

/-- The labels with those of a proposal under other keys. -/
def mergedLabels (labels : Labels) (proposed : Keyed Json) : Labels :=
  proposed.entries.foldl
    (fun known label => known.insertNew label.1 (Proposal.labelText label.2)) labels

/-- The context completed by a proposal. -/
def byProposal (context : Context) (proposal : Proposal) : Context :=
  { context with
    mainMetric := Text.trimString (proposal.metric.getD "")
    labels := mergedLabels context.labels (proposal.labels.getD Keyed.empty)
    aggregation := Text.trimString (proposal.aggregation.getD "")
    groupBy := if context.groupBy.isEmpty then proposal.groupBy.getD [] else context.groupBy
    source := .fallback }

/-- The aggregation and span that fit together. A range function always has a window; an operator
that has a counterpart over time becomes it where a window is named, and else has none. -/
def fitted (aggregation : String) (window : Option TimeSpan) : String × TimeSpan :=
  if Query.isRangeFunction aggregation then (aggregation, window.getD defaultWindow)
  else if Query.isAggregation aggregation then
    match window with
    | some span =>
        if Query.overTimeOperators.contains aggregation then
          (aggregation ++ Query.overTimeEnding, span)
        else (aggregation, .zero)
    | none => (aggregation, .zero)
  else (aggregation, window.getD .zero)

/-- The context with its window fitted to its aggregation. -/
def withWindow (context : Context) (window : Option TimeSpan) : Context :=
  let (aggregation, span) := fitted context.aggregation window
  { context with aggregation := aggregation, timeRange := .ofSpan span }

/-- The window that templates are shown with. -/
def templateWindow (context : Context) : TimeSpan :=
  if context.timeRange.span.isZero then defaultWindow else context.timeRange.span

/-- A rendered template as a query that may help. -/
def templateRule (window : TimeSpan) (template : Template) : Rule :=
  ⟨template.render window.queryText, "", template.labels, ""⟩

/-- A related metric as a query that may help. -/
def relatedRule (metric : RelatedMetric) : Rule :=
  ⟨metric.name, metric.metricType, [], ""⟩

/-- The context with rules from templates and, if it has a metric, from similar ones. -/
def withKnownRules (context : Context) (findings : Findings) : Context :=
  let rendered := findings.templates.map (templateRule (templateWindow context))
  let similar :=
    if context.hasMetric then SimilarMetric.find findings.snapshot context.mainMetric else []
  { context with rules := rendered ++ similar.map SimilarMetric.toRule }

/-- The context with rules from the graph; a graph that fails gives none. -/
def withRelated (context : Context) : Except CollaboratorFault (List RelatedMetric) → Context
  | .ok related => { context with rules := context.rules ++ related.map relatedRule }
  | .error _ => context

/-- The context with all its rules. -/
def enriched (translator : Translator) (findings : Findings) (context : Context) : Work Context :=
  let known := withKnownRules context findings
  if translator.hasGraph && context.hasMetric then
    Work.call (.related context.mainMetric) fun outcome => .done (withRelated known outcome)
  else .done known

/-- Reads the question and refreshes the catalog. -/
def findings (translator : Translator) (question : String) : Attempt TranslationFault Findings := do
  let wording ← Attempt.ofExcept .question (translator.reader.wording question)
  let snapshot ← Attempt.ofWork .ofCollaborator Work.freshSnapshot
  let intent ← Attempt.ofExcept .question (translator.reader.intent wording)
  let entities ← Attempt.ofExcept .question (translator.reader.entities wording)
  let window ← Attempt.ofExcept id (window? intent entities)
  return {
    wording, snapshot, intent, entities, window
    templates := translator.knowledge.find wording snapshot.names }

/-- The proposal of the completion provider. -/
def proposal (findings : Findings) : Attempt TranslationFault Proposal := do
  let prompt := Prompt.builder findings.snapshot findings.templates findings.wording
  let reply : String ← Attempt.ofWork .ofCompletion (Work.outcomeOf (.complete prompt))
  Attempt.ofExcept id (Proposal.ofReply reply)

/-- The context with its metric and window, still without rules. -/
def resolved (question : String) (findings : Findings) : Attempt TranslationFault Context :=
  let context := stated question findings
  match knownMetric? findings.snapshot findings.entities with
  | some metric => pure (withWindow (byRule context metric) findings.window)
  | none => do
      let proposal ← proposal findings
      let window ←
        match findings.window with
        | some span => pure (some span)
        | none => Attempt.ofExcept id proposal.window?
      return withWindow (byProposal context proposal) window

end Extraction

/-- The context of a question. -/
def Translator.extract (translator : Translator) (question : String) :
    Attempt TranslationFault Context := do
  let findings ← Extraction.findings translator question
  let context ← Extraction.resolved question findings
  ExceptT.lift (Extraction.enriched translator findings context)

end PromScribe

import PromScribe.Proofs.Catalog.Discovery
import PromScribe.Proofs.Catalog.Knowledge
import PromScribe.Proofs.Collaborator.Answers
import PromScribe.Proofs.Refresh.Snapshots
import PromScribe.Proofs.Translation.RulePath

/-!
# What is suggested

The rules of a context come from the knowledge, from similar metrics and from the graph, in this
order. A conversion suggests each of their patterns once, where it comes first, and leaves out the
query itself.
-/

namespace PromScribe

namespace Conversion

variable {promql pattern : String} {patterns seen suggestions : List String}

/-- The suggestions are the patterns other than the query, each once, in the order in which they
come first. -/
structure IsAlternatives (promql : String) (patterns suggestions : List String) : Prop where
  nodup : suggestions.Nodup
  mem_iff : ∀ pattern, pattern ∈ suggestions ↔ pattern ∈ patterns ∧ pattern ≠ promql
  ordered : suggestions.Pairwise fun first second =>
    patterns.idxOf first < patterns.idxOf second

namespace IsAlternatives

theorem nil (promql : String) : IsAlternatives promql [] [] :=
  ⟨.nil, by simp, .nil⟩

/-- What was suggested keeps its order when one more pattern was seen. -/
theorem ordered_concat (alternatives : IsAlternatives promql seen suggestions) (pattern : String) :
    suggestions.Pairwise fun first second =>
      (seen ++ [pattern]).idxOf first < (seen ++ [pattern]).idxOf second := by
  refine alternatives.ordered.imp_of_mem fun {first second} mem other less => ?_
  rwa [List.idxOf_append_of_mem ((alternatives.mem_iff first).mp mem).1,
    List.idxOf_append_of_mem ((alternatives.mem_iff second).mp other).1]

/-- One more pattern is suggested last, unless it is the query or was seen before. -/
theorem suggest (alternatives : IsAlternatives promql seen suggestions) (pattern : String) :
    IsAlternatives promql (seen ++ [pattern])
      (Conversion.suggest promql suggestions pattern) := by
  have order := alternatives.ordered_concat pattern
  unfold Conversion.suggest
  split
  · next old =>
      simp only [Bool.or_eq_true, decide_eq_true_eq, List.contains_iff_mem] at old
      refine ⟨alternatives.nodup, fun other => ?_, order⟩
      rw [alternatives.mem_iff, List.mem_append, List.mem_singleton]
      refine and_congr_left fun different => ⟨.inl, ?_⟩
      rintro (known | rfl)
      · exact known
      · exact ((alternatives.mem_iff other).mp (old.resolve_left different)).1
  · next new =>
      simp only [Bool.or_eq_true, decide_eq_true_eq, List.contains_iff_mem, not_or] at new
      obtain ⟨different, missing⟩ := new
      have unseen : pattern ∉ seen := fun known =>
        missing ((alternatives.mem_iff pattern).mpr ⟨known, different⟩)
      refine ⟨?_, fun other => ?_, ?_⟩
      · rw [← List.concat_eq_append]
        exact alternatives.nodup.concat missing
      · rw [List.mem_append, List.mem_append, alternatives.mem_iff, List.mem_singleton]
        refine ⟨?_, ?_⟩
        · rintro (⟨known, apart⟩ | rfl)
          · exact ⟨.inl known, apart⟩
          · exact ⟨.inr rfl, different⟩
        · rintro ⟨known | rfl, apart⟩
          · exact .inl ⟨known, apart⟩
          · exact .inr rfl
      · -- The new pattern comes first behind all that was seen.
        refine List.pairwise_append.mpr ⟨order, List.pairwise_singleton _ _, ?_⟩
        intro one mem last here
        obtain rfl := List.mem_singleton.mp here
        have known := ((alternatives.mem_iff one).mp mem).1
        rw [List.idxOf_append_of_mem known, List.idxOf_append_of_notMem unseen]
        exact Nat.lt_add_right _ (List.idxOf_lt_length_of_mem known)

theorem foldl_suggest (alternatives : IsAlternatives promql seen suggestions)
    (patterns : List String) :
    IsAlternatives promql (seen ++ patterns)
      (patterns.foldl (Conversion.suggest promql) suggestions) := by
  induction patterns generalizing seen suggestions with
  | nil => rwa [List.append_nil]
  | cons pattern patterns ih =>
      have further := ih (alternatives.suggest pattern)
      rwa [List.append_assoc] at further

end IsAlternatives

/-- Suggestions are alternatives, whatever the rules are. -/
theorem isAlternatives_suggestionsOf (promql : String) (rules : List Rule) :
    IsAlternatives promql (rules.map Rule.pattern) (suggestionsOf promql rules) :=
  (IsAlternatives.nil promql).foldl_suggest (rules.map Rule.pattern)

end Conversion

namespace SimilarMetric

variable {snapshot : Snapshot}

theorem length_find_le (snapshot : Snapshot) (name : String) :
    (find snapshot name).length ≤ 3 := by
  unfold find
  split
  · exact Nat.zero_le 3
  · exact (List.length_map _).trans_le (List.length_take_le _ _)

/-- Similar metrics are in the order of their names. -/
theorem ascending_find (named : snapshot.Named) (name : String) :
    ((find snapshot name).map SimilarMetric.name).Pairwise (· < ·) := by
  have ascending : snapshot.names.Pairwise (· < ·) := snapshot.metrics.keys_ascending
  rw [← Snapshot.map_name_values named] at ascending
  unfold find
  split
  · exact .nil
  · rw [List.map_map]
    refine ascending.sublist (List.Sublist.map MetricSchema.name ?_)
    exact (List.take_sublist _ _).trans List.filter_sublist

end SimilarMetric

namespace Extraction

variable {translator : Translator} {question : String} {findings : Findings}
variable {context extracted : Context} {transcript : Transcript}

/-- The rows of a lookup; none if there is no lookup or it fails. -/
def rowsOf : Option (Except CollaboratorFault (List RelatedMetric)) → List RelatedMetric
  | some (.ok rows) => rows
  | _ => []

/-- The rules of a context: the templates that each concept offers, similar metrics, and the rows of
the graph. -/
def sourcedRules (knowledge : Knowledge) (findings : Findings) (context : Context)
    (rows : List RelatedMetric) : List Rule :=
  (knowledge.entries.flatMap (Knowledge.offered findings.wording findings.snapshot.names)).map
      (templateRule (templateWindow context)) ++
    (SimilarMetric.find findings.snapshot context.mainMetric).map SimilarMetric.toRule ++
      rows.map relatedRule

/-- A context with a metric has rules from all three sources. -/
theorem rules_of_enriched (reads : findings.Reads translator question)
    (plays : (enriched translator findings context).Plays transcript extracted)
    (metric : extracted.hasMetric = true) :
    ∃ lookup : Option (Call.related extracted.mainMetric).Outcome,
      transcript = lookupTranscript extracted.mainMetric lookup ∧
        lookup.isSome = translator.hasGraph ∧
          extracted.rules =
            sourcedRules translator.knowledge findings extracted (rowsOf lookup) := by
  obtain ⟨rules, rfl⟩ := exists_rules_of_enriched plays
  have found : context.hasMetric = true := metric
  obtain ⟨lookup, rfl, asked, made⟩ := enriched_plays_iff.mp plays
  refine ⟨lookup, rfl, by rw [asked, found, Bool.and_true], ?_⟩
  have known : (withKnownRules context findings).rules =
      sourcedRules translator.knowledge findings context [] := by
    unfold withKnownRules sourcedRules
    rw [if_pos found, reads.templates_eq, Knowledge.find_eq, List.map_nil, List.append_nil]
  have same := congrArg Context.rules made
  match lookup with
  | none => exact same.trans known
  | some (.error _) => exact same.trans known
  | some (.ok rows) =>
      refine same.trans ?_
      change (withKnownRules context findings).rules ++ rows.map relatedRule = _
      rw [known]
      simp [sourcedRules, rowsOf, templateWindow]

end Extraction

open Extraction

variable {translator : Translator} {question : String} {transcript : Transcript}

/-- A snapshot that refreshes from the first one on lead to knows its metrics by their names. -/
theorem Refresh.Genuine.named {ttl : Nat} {events : List Refresh.Event} {snapshot : Snapshot}
    (genuine : Refresh.Genuine ttl events snapshot) : snapshot.Named := by
  rcases genuine with rfl | ⟨_, _, _, _, _, _, _, _, _, _, rfl⟩
  · nofun
  · exact Snapshot.named_ofSeries _ _ _

theorem Refreshing.named {refreshing : Refreshing} {snapshot : Snapshot}
    (kept : ∀ old, refreshing = .kept old → ∃ ttl events, Refresh.Genuine ttl events old)
    (fresh : refreshing.outcome = .ok snapshot) : snapshot.Named := by
  match refreshing with
  | .kept old =>
      cases fresh
      obtain ⟨_, _, genuine⟩ := kept _ rfl
      exact genuine.named
  | .turnedAway => cases fresh
  | .discovered moment (.error fault) => cases fresh
  | .discovered moment (.ok data) =>
      cases fresh
      exact Snapshot.named_ofSeries _ _ _

/-- A conversion suggests the distinct alternatives to its query among the rules of the extracted
context: what the knowledge offers, concept by concept, then at most three similar metrics by name,
then what the graph names, row by row. A snapshot that was kept is one that refreshes lead to from
the first one on. -/
theorem suggestions_exact {conversion : Conversion}
    (plays : (translator.convert question).run.Plays transcript (.ok conversion)) :
    ∃ (refreshing : Refreshing) (resolution : Transcript) (findings : Findings)
      (context : Context) (lookup : Option (Except CollaboratorFault (List RelatedMetric)))
      (data : QueryData) (narration : Except CollaboratorFault String),
      transcript = (.refreshed refreshing ::
          (resolution ++ lookupTranscript context.mainMetric lookup)) ++
            Translator.endingWaits context data narration ∧
        (translator.extract question).run.Plays (.refreshed refreshing ::
          (resolution ++ lookupTranscript context.mainMetric lookup)) (.ok context) ∧
        refreshing.outcome = .ok findings.snapshot ∧ findings.Reads translator question ∧
        lookup.isSome = translator.hasGraph ∧
        conversion.promql = (Query.build context).query ∧
        context.rules = sourcedRules translator.knowledge findings context (rowsOf lookup) ∧
        (SimilarMetric.find findings.snapshot context.mainMetric).length ≤ 3 ∧
        ((∀ old, refreshing = .kept old → ∃ ttl events, Refresh.Genuine ttl events old) →
          ((SimilarMetric.find findings.snapshot context.mainMetric).map
            SimilarMetric.name).Pairwise (· < ·)) ∧
        Conversion.IsAlternatives conversion.promql (context.rules.map Rule.pattern)
          conversion.suggestions := by
  obtain ⟨_, context, data, narration, explanation, rfl, extracts, metric, -, rfl⟩ :=
    Translator.convert_plays_ok_iff.mp plays
  obtain ⟨refreshing, resolution, _, findings, resolved, rfl, fresh, reads, -, enriches⟩ :=
    extract_plays_iff.mp extracts
  obtain ⟨lookup, rfl, asked, sourced⟩ := rules_of_enriched reads enriches metric
  exact ⟨refreshing, resolution, findings, context, lookup, data, narration, rfl, extracts, fresh,
    reads, asked, rfl, sourced, SimilarMetric.length_find_le _ _,
    fun kept => SimilarMetric.ascending_find (Refreshing.named kept fresh) _,
    Conversion.isAlternatives_suggestionsOf _ _⟩

/-- A translator with a graph that knows two queries for errors. -/
def errorsTranslator : Translator where
  reader := {}
  knowledge := Keyed.ofList
    [("errors", [⟨"up", [], [], []⟩, ⟨"rate(failed[time])", [], [], ["up"]⟩])]
  hasGraph := true

/-- Answers that propose a metric with two similar ones, and relate metrics of which one is the
proposed one and one is similar. -/
def overlappingAnswers : Answers where
  refreshed := .ok (.ofSeries ⟨0, 0⟩ 0
    [SimilarMetric.seriesWith "up" [("job", "a"), ("instance", "x")],
      SimilarMetric.seriesWith "up_count" [],
      SimilarMetric.seriesWith "load" [("job", "b"), ("instance", "x")]])
  proposed := .ok "\x7b\"metric\": \"up\"\x7d"
  queried := .ok ⟨.vector, .series []⟩
  related := .ok (["load", "up", "latency", "latency"].map fun name =>
    ⟨name, "", "", RelatedMetric.weightless⟩)
  explained := .ok "told"

/-- A pattern that is the query is not suggested, and one from several sources is suggested where it
comes first. -/
theorem suggestions_exact_overlapping :
    ∃ waits context,
      (errorsTranslator.convert "errors").run.Plays waits (.ok ⟨"up", some "told", [],
          ["rate(failed[5m])", "load", "rate(up_count[5m])", "latency"]⟩) ∧
        waits.Follows overlappingAnswers false ∧
        (∃ extraction, extraction <+: waits ∧
          (errorsTranslator.extract "errors").run.Plays extraction (.ok context)) ∧
        Conversion.IsAlternatives "up" (context.rules.map Rule.pattern)
          ["rate(failed[5m])", "load", "rate(up_count[5m])", "latency"] := by
  obtain ⟨waits, plays, follows⟩ :=
    Work.exists_follows overlappingAnswers false (errorsTranslator.convert "errors").run
  have value : ((errorsTranslator.convert "errors").run.value overlappingAnswers false).2 =
      .ok ⟨"up", some "told", [],
        ["rate(failed[5m])", "load", "rate(up_count[5m])", "latency"]⟩ := rfl
  rw [value] at plays
  obtain ⟨_, _, _, context, _, _, _, split, extracts, -, -, -, -, -, -, -, alternatives⟩ :=
    suggestions_exact plays
  exact ⟨waits, context, plays, follows, ⟨_, ⟨_, split.symm⟩, extracts⟩, alternatives⟩

end PromScribe

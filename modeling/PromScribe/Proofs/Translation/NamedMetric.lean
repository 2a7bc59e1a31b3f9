import PromScribe.Proofs.Question.Mention
import PromScribe.Proofs.Translation.Fitting
import PromScribe.Proofs.Translation.KnownMetric
import PromScribe.Proofs.Translation.RulePath

/-!
# Questions that name a metric

A question that mentions a metric of the catalog is resolved without a completion: by that metric,
or by one that is named in front of it. The wording has no capitals, so that a metric with capitals
is never named.
-/

namespace PromScribe.Extraction

open Question Text

variable {translator : Translator} {question name metric text : String} {snapshot : Snapshot}
variable {before after : List Char} {refreshing : Refreshing} {waits : Transcript}
variable {outcome : Except TranslationFault Context}

/-- A known metric is one of the snapshot, and a part of the text. -/
theorem part_of_knownMetric? (known : knownMetric? snapshot (entitiesOf text) = some metric) :
    snapshot.contains metric = true ∧ metric.toList <:+: text.toList := by
  rw [knownMetric?_eq] at known
  refine ⟨List.find?_some known, ?_⟩
  obtain ⟨⟨run, value⟩, mem, rfl⟩ := List.mem_map.mp (List.mem_of_find?_eq_some known)
  obtain ⟨_, place, extra, -, within, rfl⟩ := exists_of_mem_hits mem
  rw [String.toList_ofList]
  exact (List.take_prefix _ _).isInfix.trans within.isInfix

/-- A metric that is mentioned is known, unless one is that is named in front of it. -/
theorem knownMetric?_of_mention (mention : Mention question name before after)
    (small : ∀ c ∈ name.toList, c.isUpper = false) (untimed : Untimed name.toList (lower after))
    (contained : snapshot.contains name = true) :
    knownMetric? snapshot (entitiesOf (canonical question)) =
      some ((knownMetric? snapshot (entitiesOf (String.ofList (canonicalText before)))).getD
        name) := by
  obtain ⟨lead, tail, worded, front, space⟩ := mention.exists_canonicalText small untimed
  obtain ⟨others, found⟩ := exists_hits_name mention.metric front space
  have named := congrArg (List.map String.ofList) found
  rw [List.map_map, List.map_append, List.map_map, List.map_cons, String.ofList_toList] at named
  have listed : (hits metricName (canonical question).toList).map (fun hit => String.ofList hit.1) =
      (hits metricName (canonicalText before)).map (fun hit => String.ofList hit.1) ++
        name :: others.map String.ofList := by
    unfold canonical
    rw [String.toList_ofList, worded]
    exact named
  rw [knownMetric?_eq, knownMetric?_eq, listed, String.toList_ofList, List.find?_append,
    List.find?_cons_of_pos contained]
  cases ((hits metricName (canonicalText before)).map fun hit => String.ofList hit.1).find?
      snapshot.contains with
  | none => rfl
  | some earlier => rfl

/-- Where the wording names a known metric, there is no completion, and the context has it. -/
theorem resolved_by_rule
    (fresh : refreshing.outcome = .ok snapshot)
    (known : knownMetric? snapshot (entitiesOf (canonical question)) = some metric)
    (plays : (translator.extract question).run.Plays (.refreshed refreshing :: waits) outcome) :
    (∀ prompt, .complete prompt ∉ Transcript.calls waits) ∧
      ∀ context, outcome = .ok context → context.source = .rules ∧ context.mainMetric = metric := by
  have names {findings : Findings} (reads : findings.Reads translator question)
      (again : refreshing.outcome = .ok findings.snapshot) :
      knownMetric? findings.snapshot findings.entities = some metric := by
    obtain ⟨-, worded⟩ := Reader.accepted_eq_ok_iff.mp reads.wording_eq
    obtain ⟨-, named⟩ := Reader.accepted_eq_ok_iff.mp reads.entities_eq
    rw [← named, ← worded, ← Except.ok.inj (fresh.symm.trans again)]
    exact known
  cases outcome with
  | error fault =>
      refine ⟨?_, nofun⟩
      rcases extract_plays_error_iff.mp plays with
        early | ⟨again, rest, findings, split, same, reads, late⟩
      · rcases findings_plays_error_iff.mp early with ⟨split, -⟩ | ⟨-, again, split, -⟩
        · cases split
        · cases split
          exact fun prompt mem => List.not_mem_nil mem
      · cases split
        have unknown := (resolved_plays_error_iff.mp late).1
        rw [names reads same] at unknown
        cases unknown
  | ok context =>
      obtain ⟨again, resolution, enrichment, findings, resolved_, split, same, reads, resolves,
        enriches⟩ := extract_plays_iff.mp plays
      cases split
      obtain ⟨rfl, rfl⟩ := (resolved_plays_iff_of_known (names reads same)).mp resolves
      obtain ⟨lookup, rfl, -, -⟩ := enriched_plays_iff.mp enriches
      obtain ⟨rules, rfl⟩ := exists_rules_of_enriched enriches
      refine ⟨fun prompt mem => ?_, fun context same => ?_⟩
      · rw [List.nil_append, calls_lookupTranscript] at mem
        obtain ⟨-, -, lookedUp⟩ := List.mem_map.mp mem
        cases lookedUp
      · cases same
        exact ⟨rfl, rfl⟩

/-- A question that mentions a metric of the catalog without capitals, and without a duration in it,
needs no completion. Its context is found by rule, for that metric or for one of the catalog that
occurs in the wording of what is in front of it. -/
theorem mention_resolved (mention : Mention question name before after)
    (small : ∀ c ∈ name.toList, c.isUpper = false) (untimed : Untimed name.toList (lower after))
    (contained : snapshot.contains name = true) (fresh : refreshing.outcome = .ok snapshot)
    (plays : (translator.extract question).run.Plays (.refreshed refreshing :: waits) outcome) :
    (∀ prompt, .complete prompt ∉ Transcript.calls waits) ∧
      ∀ context, outcome = .ok context → context.source = .rules ∧
        (context.mainMetric = name ∨ snapshot.contains context.mainMetric = true ∧
          context.mainMetric.toList <:+: canonicalText before) := by
  have known := knownMetric?_of_mention mention small untimed contained
  obtain ⟨uncompleted, found⟩ := resolved_by_rule fresh known plays
  refine ⟨uncompleted, fun context same => ?_⟩
  obtain ⟨source, metric⟩ := found context same
  refine ⟨source, ?_⟩
  rw [metric]
  cases earlier : knownMetric? snapshot (entitiesOf (String.ofList (canonicalText before))) with
  | none => exact .inl rfl
  | some other =>
      obtain ⟨contains, part⟩ := part_of_knownMetric? earlier
      rw [String.toList_ofList] at part
      exact .inr ⟨contains, part⟩

/-- A question with labels and a window is resolved by the metric that it mentions. -/
theorem mention_resolved_requests :
    Mention requestsQuestion.text "requests" "rate of ".toList
        " with job=api with code=500 over 10 minutes".toList ∧
      ∃ context waits,
        (graphTranslator.extract requestsQuestion.text).run.Plays
          (.refreshed (.kept requestsSnapshot) :: waits) (.ok context) ∧
          (∀ prompt, .complete prompt ∉ Transcript.calls waits) ∧ context.source = .rules := by
  have mention : Mention requestsQuestion.text "requests" "rate of ".toList
      " with job=api with code=500 over 10 minutes".toList := by
    refine ⟨rfl, ⟨rfl, List.all_eq_true.mp (by decide), ?_⟩, ?_, ?_, ?_, ?_, ?_⟩
    · decide
    · rintro c ⟨⟩
      rfl
    · rintro c ⟨⟩
      rfl
    · decide +kernel
    · decide +kernel
    · decide +kernel
  have untimed : Untimed "requests".toList
      (lower " with job=api with code=500 over 10 minutes".toList) := by
    intro front back split
    have mem : ':' ∈ "requests".toList := by simp [split]
    exact absurd mem (by decide)
  have valid : requestsQuestion.Valid := by decide
  have short : byteCount requestsQuestion.text ≤ graphTranslator.reader.limit := by
    decide +kernel
  have fresh : (Refreshing.kept requestsSnapshot).outcome = .ok requestsSnapshot := rfl
  obtain ⟨context, -, plays⟩ := RuleQuestion.exists_extraction valid short fresh ⟨rfl, rfl, rfl⟩
    (some (.ok [])) rfl
  have small : ∀ c ∈ "requests".toList, c.isUpper = false := by simp
  obtain ⟨uncompleted, found⟩ := mention_resolved mention small untimed rfl fresh plays
  exact ⟨mention, context, _, plays, uncompleted, (found context rfl).1⟩

/-- No metric with a capital is known in a wording. -/
theorem isUpper_of_knownMetric?
    (known : knownMetric? snapshot (entitiesOf (canonical question)) = some metric) :
    ∀ c ∈ metric.toList, c.isUpper = false := by
  intro c mem
  have part := (part_of_knownMetric? known).2.subset mem
  unfold canonical at part
  rw [String.toList_ofList] at part
  exact isUpper_of_mem_canonicalText part

/-- A catalog with a metric that has capitals. -/
def capitalSnapshot : Snapshot :=
  ⟨Keyed.ofList [("HTTPRequests", Snapshot.newSchema "HTTPRequests" ⟨0, 0⟩)], some 0⟩

/-- What is found in a question that mentions the metric. -/
def capitalFindings : Findings where
  wording := "rate of httprequests"
  snapshot := capitalSnapshot
  intent := Intent.ofText "rate of httprequests"
  entities := entitiesOf "rate of httprequests"
  window := none
  templates := []

/-- The wording names no metric of the catalog. -/
theorem knownMetric?_capital :
    knownMetric? capitalSnapshot (entitiesOf "rate of httprequests") = none := by
  have worded : canonical "rate of HTTPRequests" = "rate of httprequests" := rfl
  cases known : knownMetric? capitalSnapshot (entitiesOf "rate of httprequests") with
  | none => rfl
  | some metric =>
      exfalso
      have contained := (part_of_knownMetric? known).1
      obtain rfl : metric = "HTTPRequests" := by
        by_contra other
        unfold capitalSnapshot Snapshot.contains Keyed.contains at contained
        rw [Keyed.get?_ofList, List.reverse_singleton, Keyed.lookup_cons_eq_ite, if_neg other]
          at contained
        cases contained
      rw [← worded] at known
      have small := isUpper_of_knownMetric? known 'H' (by decide)
      cases small

/-- A metric with capitals is mentioned as it is known, and a completion proposes another one. -/
theorem exists_unresolved_mention :
    Mention "rate of HTTPRequests" "HTTPRequests" "rate of ".toList [] ∧
      capitalSnapshot.contains "HTTPRequests" = true ∧
        ∃ context, (plainTranslator.extract "rate of HTTPRequests").run.Plays
            [.refreshed (.kept capitalSnapshot),
              .answered (.complete capitalFindings.prompt) (.ok summingReply)] (.ok context) ∧
          context.source = .fallback ∧ context.mainMetric = "up" := by
  have mention : Mention "rate of HTTPRequests" "HTTPRequests" "rate of ".toList [] := by
    refine ⟨rfl, ⟨rfl, List.all_eq_true.mp (by decide), ?_⟩, ?_, nofun, ?_, ?_, ?_⟩
    · decide
    · rintro c ⟨⟩
      rfl
    · decide +kernel
    · decide +kernel
    · decide +kernel
  have reads : capitalFindings.Reads plainTranslator "rate of HTTPRequests" :=
    ⟨rfl, rfl, rfl, rfl, rfl⟩
  have taken : (Proposal.ofReply summingReply).toOption.map (fun proposal =>
      (proposal.metric, proposal.timeRange)) = some (some "up", some "1h30m") := by
    decide +kernel
  refine ⟨mention, rfl, ?_⟩
  cases outcome : Proposal.ofReply summingReply with
  | error fault =>
      rw [outcome] at taken
      cases taken
  | ok proposal =>
      rw [outcome] at taken
      obtain ⟨metric, timeRange⟩ := Prod.mk.inj (Option.some.inj taken)
      have chosen : chosenWindow capitalFindings proposal = .ok (some (.ofSeconds 5400)) := by
        have proposed : proposal.window? = .ok (some (.ofSeconds 5400)) := by
          unfold Proposal.window?
          rw [timeRange]
          rfl
        exact proposed
      have resolves : (resolved "rate of HTTPRequests" capitalFindings).run.Plays
          [.answered (.complete capitalFindings.prompt) (.ok summingReply)] (.ok _) :=
        (resolved_plays_iff_of_unknown knownMetric?_capital).mpr
          ⟨summingReply, proposal, _, rfl, outcome, chosen, rfl⟩
      have plays := extract_plays_iff.mpr
        ⟨.kept capitalSnapshot, _, [], capitalFindings, _, rfl, rfl, reads, resolves, .done⟩
      refine ⟨_, plays, ?_, ?_⟩
      · rfl
      · simp only [withKnownRules, withWindow, byProposal, metric]
        rfl

end PromScribe.Extraction

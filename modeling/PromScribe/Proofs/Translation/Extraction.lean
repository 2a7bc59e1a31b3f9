import PromScribe.Proofs.Collaborator.Transcript
import PromScribe.Translation.Extraction

/-!
# Extractions that succeed

Each part of an extraction is described by the transcripts that it succeeds with, and by what it
makes of them.
-/

namespace PromScribe.Extraction

variable {translator : Translator} {question : String} {findings : Findings}
variable {context extracted : Context} {transcript : Transcript}

/-- The findings are what the translator reads in the question, whatever the snapshot. -/
structure Findings.Reads (findings : Findings) (translator : Translator) (question : String) :
    Prop where
  wording_eq : translator.reader.wording question = .ok findings.wording
  intent_eq : translator.reader.intent findings.wording = .ok findings.intent
  entities_eq : translator.reader.entities findings.wording = .ok findings.entities
  window_eq : window? findings.intent findings.entities = .ok findings.window
  templates_eq :
    findings.templates = translator.knowledge.find findings.wording findings.snapshot.names

/-- Findings take one refresh, and have its snapshot. -/
theorem findings_plays_iff :
    (Extraction.findings translator question).run.Plays transcript (.ok findings) ↔
      ∃ refreshing, transcript = [.refreshed refreshing] ∧
        refreshing.outcome = .ok findings.snapshot ∧ findings.Reads translator question := by
  simp only [Extraction.findings, Attempt.plays_bind_ok_iff, Attempt.plays_ofExcept_ok_iff,
    Attempt.plays_ofWork_ok_iff, Work.plays_freshSnapshot_iff, Attempt.plays_pure_iff]
  constructor
  · rintro ⟨_, _, wording, rfl, ⟨rfl, worded⟩, _, _, snapshot, rfl, ⟨refreshing, rfl, fresh⟩, _, _,
      intent, rfl, ⟨rfl, intended⟩, _, _, entities, rfl, ⟨rfl, named⟩, _, _, window, rfl,
      ⟨rfl, framed⟩, rfl, made⟩
    cases made
    exact ⟨refreshing, rfl, fresh, worded, intended, named, framed, rfl⟩
  · rintro ⟨refreshing, rfl, fresh, reads⟩
    refine ⟨[], _, _, rfl, ⟨rfl, reads.wording_eq⟩, [.refreshed refreshing], [], _, rfl,
      ⟨refreshing, rfl, fresh⟩, [], [], _, rfl, ⟨rfl, reads.intent_eq⟩, [], [], _, rfl,
      ⟨rfl, reads.entities_eq⟩, [], [], _, rfl, ⟨rfl, reads.window_eq⟩, rfl, ?_⟩
    rw [← reads.templates_eq]

/-- The prompt that asks for a proposal. -/
def Findings.prompt (findings : Findings) : String :=
  Prompt.builder findings.snapshot findings.templates findings.wording

/-- A proposal takes one completion. -/
theorem proposal_plays_iff {proposal : Proposal} :
    (Extraction.proposal findings).run.Plays transcript (.ok proposal) ↔
      ∃ reply : String, transcript = [.answered (.complete findings.prompt) (.ok reply)] ∧
        Proposal.ofReply reply = .ok proposal := by
  constructor
  · intro plays
    obtain ⟨first, _, reply, rfl, completed, decoded⟩ := Attempt.plays_bind_ok_iff.mp plays
    obtain ⟨rfl, read⟩ := Attempt.plays_ofExcept_ok_iff.mp decoded
    have answered := (Work.plays_outcomeOf_iff (.complete findings.prompt) (.ok reply)).mp
      (Attempt.plays_ofWork_ok_iff.mp completed)
    exact ⟨reply, by simpa using answered, read⟩
  · rintro ⟨reply, rfl, read⟩
    have answered := (Work.plays_outcomeOf_iff (.complete findings.prompt) (.ok reply)).mpr rfl
    exact Attempt.plays_bind_ok_iff.mpr ⟨_, [], reply, rfl,
      Attempt.plays_ofWork_ok_iff.mpr answered, Attempt.plays_ofExcept_ok_iff.mpr ⟨rfl, read⟩⟩

/-- No metric is known if no entity names one of the snapshot. -/
theorem knownMetric?_eq_none_iff {snapshot : Snapshot} {entities : List Question.Entity} :
    knownMetric? snapshot entities = none ↔
      ∀ entity ∈ entities, entity.kind = .metric → snapshot.contains entity.value = false := by
  simp [knownMetric?]

/-- The window of the question, or else that of a proposal. -/
def chosenWindow (findings : Findings) (proposal : Proposal) :
    Except TranslationFault (Option TimeSpan) :=
  match findings.window with
  | some span => .ok (some span)
  | none => proposal.window?

/-- A known metric needs nobody. -/
theorem resolved_plays_iff_of_known {metric : String}
    (known : knownMetric? findings.snapshot findings.entities = some metric) :
    (resolved question findings).run.Plays transcript (.ok context) ↔
      transcript = [] ∧
        context = withWindow (byRule (stated question findings) metric) findings.window := by
  simp only [resolved, known, Attempt.plays_pure_iff, Except.ok.injEq, eq_comm]

/-- Without a known metric one proposal completes the context. -/
theorem resolved_plays_iff_of_unknown
    (unknown : knownMetric? findings.snapshot findings.entities = none) :
    (resolved question findings).run.Plays transcript (.ok context) ↔
      ∃ (reply : String) (proposal : Proposal) (window : Option TimeSpan),
        transcript = [.answered (.complete findings.prompt) (.ok reply)] ∧
          Proposal.ofReply reply = .ok proposal ∧ chosenWindow findings proposal = .ok window ∧
            context = withWindow (byProposal (stated question findings) proposal) window := by
  simp only [resolved, unknown, Attempt.plays_bind_ok_iff, proposal_plays_iff, chosenWindow]
  cases findings.window with
  | some span =>
      constructor
      · rintro ⟨_, _, proposal, rfl, ⟨reply, rfl, read⟩, plays⟩
        obtain ⟨rfl, made⟩ := Attempt.plays_pure_iff.mp plays
        cases made
        exact ⟨reply, proposal, some span, rfl, read, rfl, rfl⟩
      · rintro ⟨reply, proposal, _, rfl, read, ⟨⟩, rfl⟩
        exact ⟨_, [], proposal, rfl, ⟨reply, rfl, read⟩, Attempt.plays_pure_iff.mpr ⟨rfl, rfl⟩⟩
  | none =>
      simp only [Attempt.plays_bind_ok_iff, Attempt.plays_ofExcept_ok_iff]
      constructor
      · rintro ⟨_, _, proposal, rfl, ⟨reply, rfl, read⟩, _, _, window, rfl, ⟨rfl, named⟩, plays⟩
        obtain ⟨rfl, made⟩ := Attempt.plays_pure_iff.mp plays
        cases made
        exact ⟨reply, proposal, window, rfl, read, named, rfl⟩
      · rintro ⟨reply, proposal, window, rfl, read, named, rfl⟩
        exact ⟨_, [], proposal, rfl, ⟨reply, rfl, read⟩, [], [], window, rfl, ⟨rfl, named⟩,
          Attempt.plays_pure_iff.mpr ⟨rfl, rfl⟩⟩

/-- The lookup of related metrics, if there was one. -/
def lookupTranscript (metric : String) (lookup : Option (Call.related metric).Outcome) :
    Transcript :=
  lookup.toList.map (.answered (.related metric))

theorem calls_lookupTranscript (metric : String)
    (lookup : Option (Call.related metric).Outcome) :
    (lookupTranscript metric lookup).calls = lookup.toList.map fun _ => .related metric := by
  cases lookup <;> rfl

/-- Enrichment takes one lookup if there are both a graph and a metric; it only adds rules. -/
theorem enriched_plays_iff :
    (enriched translator findings context).Plays transcript extracted ↔
      ∃ lookup : Option (Call.related context.mainMetric).Outcome,
        transcript = lookupTranscript context.mainMetric lookup ∧
          lookup.isSome = (translator.hasGraph && context.hasMetric) ∧
            extracted = (lookup.elim (withKnownRules context findings)
              (withRelated (withKnownRules context findings))) := by
  unfold enriched
  dsimp only
  split
  · next asked =>
      rw [asked]
      simp only [Work.plays_call_iff, Work.plays_done_iff]
      constructor
      · rintro ⟨outcome, _, rfl, rfl, rfl⟩
        exact ⟨some outcome, rfl, rfl, rfl⟩
      · rintro ⟨lookup, rfl, asks, rfl⟩
        obtain ⟨outcome, rfl⟩ := Option.isSome_iff_exists.mp asks
        exact ⟨outcome, [], rfl, rfl, rfl⟩
  · next unasked =>
      rw [eq_false_of_ne_true unasked, Work.plays_done_iff]
      constructor
      · rintro ⟨rfl, rfl⟩
        exact ⟨none, rfl, rfl, rfl⟩
      · rintro ⟨lookup, rfl, asks, rfl⟩
        obtain rfl := Option.isNone_iff_eq_none.mp (Option.isSome_eq_false_iff.mp asks)
        exact ⟨rfl, rfl⟩

theorem exists_rules_of_enriched (plays : (enriched translator findings context).Plays transcript
    extracted) : ∃ rules, extracted = { context with rules := rules } := by
  obtain ⟨lookup, -, -, rfl⟩ := enriched_plays_iff.mp plays
  match lookup with
  | none => exact ⟨_, rfl⟩
  | some (.ok related) => exact ⟨_, rfl⟩
  | some (.error fault) => exact ⟨_, rfl⟩

/-- An extraction reads and refreshes, resolves the metric, and enriches. -/
theorem extract_plays_iff :
    (translator.extract question).run.Plays transcript (.ok extracted) ↔
      ∃ (refreshing : Refreshing) (resolution enrichment : Transcript) (findings : Findings)
        (context : Context),
        transcript = .refreshed refreshing :: (resolution ++ enrichment) ∧
          refreshing.outcome = .ok findings.snapshot ∧ findings.Reads translator question ∧
            (resolved question findings).run.Plays resolution (.ok context) ∧
              (enriched translator findings context).Plays enrichment extracted := by
  simp only [Translator.extract, Attempt.plays_bind_ok_iff, findings_plays_iff,
    Attempt.plays_lift_iff]
  constructor
  · rintro ⟨_, _, findings, rfl, ⟨refreshing, rfl, fresh, reads⟩, resolution, enrichment, context,
      rfl, resolves, enriches⟩
    exact ⟨refreshing, resolution, enrichment, findings, context, rfl, fresh, reads, resolves,
      enriches⟩
  · rintro ⟨refreshing, resolution, enrichment, findings, context, rfl, fresh, reads, resolves,
      enriches⟩
    exact ⟨_, _, findings, rfl, ⟨refreshing, rfl, fresh, reads⟩, resolution, enrichment, context,
      rfl, resolves, enriches⟩

end PromScribe.Extraction

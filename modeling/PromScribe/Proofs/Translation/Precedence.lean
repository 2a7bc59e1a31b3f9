import PromScribe.Proofs.Keyed
import PromScribe.Proofs.Translation.Failure

/-!
# What the question states stands

A proposal completes a context just where the question leaves it open. Its labels are taken under
other keys, its grouping and its window only if the question names none; a window that it need not
name is not even read.
-/

namespace PromScribe.Extraction

open Question

variable {translator : Translator} {question : String} {transcript : Transcript}
variable {refreshing : Refreshing} {findings : Findings} {proposal : Proposal}
variable {context extracted : Context}

/-- What is found in a question follows from the question and the snapshot. -/
theorem Findings.Reads.eq_of_snapshot {other : Findings}
    (reads : findings.Reads translator question) (again : other.Reads translator question)
    (same : findings.snapshot = other.snapshot) : findings = other := by
  have wording : findings.wording = other.wording :=
    Except.ok.inj (reads.wording_eq.symm.trans again.wording_eq)
  have intent : findings.intent = other.intent := by
    have read := reads.intent_eq
    rw [wording] at read
    exact Except.ok.inj (read.symm.trans again.intent_eq)
  have entities : findings.entities = other.entities := by
    have read := reads.entities_eq
    rw [wording] at read
    exact Except.ok.inj (read.symm.trans again.entities_eq)
  have window : findings.window = other.window := by
    have read := reads.window_eq
    rw [intent, entities] at read
    exact Except.ok.inj (read.symm.trans again.window_eq)
  have templates : findings.templates = other.templates := by
    rw [reads.templates_eq, again.templates_eq, wording, same]
  cases findings
  cases other
  simp only at wording same intent entities window templates
  subst wording same intent entities window templates
  rfl

/-- The value that the question gives the label: that of the last one with the key. -/
def Findings.label? (findings : Findings) (key : String) : Option String :=
  (findings.entities.filterMap Entity.labelPair?).reverse.lookup key

/-- The value that a proposal gives the label, as text. -/
def proposedLabel? (proposal : Proposal) (key : String) : Option String :=
  (proposal.labels.bind fun labels => labels.get? key).map Proposal.labelText

/-- The window in use: the one that the question names, else the one that a proposal does, if it
names one that is not blank. -/
inductive Framed (findings : Findings) (proposal : Proposal) : Option TimeSpan → Prop where
  | stated {span : TimeSpan} (names : findings.window = some span) :
      Framed findings proposal (some span)
  | proposed {text : String} {span : TimeSpan} (unnamed : findings.window = none)
      (names : proposal.timeRange.map Text.trimString = some text) (full : text ≠ "")
      (read : TimeSpan.read text = .ok span) : Framed findings proposal (some span)
  | unframed (unnamed : findings.window = none)
      (blank : ∀ text ∈ proposal.timeRange, Text.trimString text = "") :
      Framed findings proposal none

theorem framed_of_chosenWindow {window : Option TimeSpan}
    (chosen : chosenWindow findings proposal = .ok window) : Framed findings proposal window := by
  unfold chosenWindow at chosen
  split at chosen
  · next span named =>
      cases chosen
      exact .stated named
  next unnamed =>
  unfold Proposal.window? at chosen
  split at chosen
  · next missing =>
      cases chosen
      refine .unframed unnamed fun text given => ?_
      rw [given] at missing
      cases missing
  · next blank =>
      cases chosen
      refine .unframed unnamed fun text given => ?_
      rw [given] at blank
      exact Option.some.inj blank
  · next text full named =>
      cases read : TimeSpan.read text with
      | ok span =>
          simp only [read, Except.ok.injEq] at chosen
          subst chosen
          exact .proposed unnamed named full read
      | error cause => simp [read] at chosen

/-- The proposal completes the context just where the question leaves it open. -/
structure Completes (question : String) (findings : Findings) (proposal : Proposal)
    (context : Context) : Prop where
  query_eq : context.query = question
  intent_eq : context.intent = findings.intent.operationName
  label_eq : ∀ key,
    context.labels.get? key = (findings.label? key).or (proposedLabel? proposal key)
  groupBy_eq : context.groupBy =
    (findings.intent.groupLabel.map fun label => [label]).getD (proposal.groupBy.getD [])
  window_eq : ∃ window, Framed findings proposal window ∧
    (context.aggregation, context.timeRange.span) =
      fitted (Text.trimString (proposal.aggregation.getD "")) window

theorem Completes.withRules (completes : Completes question findings proposal context)
    (rules : List Rule) : Completes question findings proposal { context with rules := rules } :=
  ⟨completes.query_eq, completes.intent_eq, completes.label_eq, completes.groupBy_eq,
    completes.window_eq⟩

/-- Whatever two replies propose, the contexts are the same in what the question names. -/
structure AgreeOnNamed (findings : Findings) (context other : Context) : Prop where
  query_eq : context.query = other.query
  intent_eq : context.intent = other.intent
  label_eq : ∀ key, (findings.label? key).isSome → context.labels.get? key = other.labels.get? key
  groupBy_eq : findings.intent.groupLabel.isSome → context.groupBy = other.groupBy
  window_eq : ∀ span, findings.window = some span → ∃ aggregation otherAggregation,
    (context.aggregation, context.timeRange.span) = fitted aggregation (some span) ∧
      (other.aggregation, other.timeRange.span) = fitted otherAggregation (some span)

theorem Framed.eq_of_window {window : Option TimeSpan} {span : TimeSpan}
    (framed : Framed findings proposal window) (names : findings.window = some span) :
    window = some span := by
  cases framed with
  | stated named => rw [← named, names]
  | proposed unnamed => cases names.symm.trans unnamed
  | unframed unnamed => cases names.symm.trans unnamed

theorem Completes.agree {other : Context} {otherProposal : Proposal}
    (completes : Completes question findings proposal context)
    (also : Completes question findings otherProposal other) :
    AgreeOnNamed findings context other where
  query_eq := completes.query_eq.trans also.query_eq.symm
  intent_eq := completes.intent_eq.trans also.intent_eq.symm
  label_eq key named := by
    obtain ⟨value, given⟩ := Option.isSome_iff_exists.mp named
    rw [completes.label_eq, also.label_eq, given]
    rfl
  groupBy_eq named := by
    obtain ⟨label, given⟩ := Option.isSome_iff_exists.mp named
    rw [completes.groupBy_eq, also.groupBy_eq, given]
    rfl
  window_eq span names := by
    obtain ⟨window, framed, fits⟩ := completes.window_eq
    obtain ⟨otherWindow, otherFramed, otherFits⟩ := also.window_eq
    rw [framed.eq_of_window names] at fits
    rw [otherFramed.eq_of_window names] at otherFits
    exact ⟨_, _, fits, otherFits⟩

/-- A translator without a graph. -/
def plainTranslator : Translator := ⟨{}, Keyed.empty, false⟩

end PromScribe.Extraction

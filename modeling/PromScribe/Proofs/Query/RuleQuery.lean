import PromScribe.Proofs.Keyed
import PromScribe.Proofs.Query.Assembly
import PromScribe.Proofs.Question.Duration
import PromScribe.Translation.Extraction

/-!
# Queries for an operation

What such a question asks for as a query: the function of its operation around its metric, with the
labels in the order of their keys and the range that the function reads.
-/

namespace PromScribe.Question.RuleQuestion

open PromScribe.Text

variable {question : RuleQuestion} {context : Context}

/-- The function of the query. A rate always reads a range; the others read one over time if the
question has a window. -/
def function (question : RuleQuestion) : String :=
  match question.operation, question.window with
  | .rate, _ => "rate"
  | operation, some _ => operation.name ++ "_over_time"
  | operation, none => operation.name

/-- The labels in braces, in the order of their keys. -/
def matchers (question : RuleQuestion) : String :=
  if question.labels = [] then ""
  else
    "\x7b" ++ ",".intercalate ((Keyed.sortedByKey question.labels).map fun label =>
      label.1 ++ "=\"" ++ label.2 ++ "\"") ++ "\x7d"

/-- The range in brackets. -/
def range (question : RuleQuestion) : String :=
  match question.operation, question.window with
  | _, some window => "[" ++ window.span.queryText ++ "]"
  | .rate, none => "[5m]"
  | _, none => ""

/-- The query that the question asks for. -/
def promql (question : RuleQuestion) : String :=
  question.function ++ "(" ++ question.metric ++ question.matchers ++ question.range ++ ")"

/-- The window that the question names. -/
def span? (question : RuleQuestion) : Option TimeSpan :=
  question.window.map SpelledWindow.span

theorem isZero_ofSeconds {count : Nat} (positive : 0 < count) :
    (TimeSpan.ofSeconds count).isZero = false := by
  unfold TimeSpan.isZero
  refine beq_eq_false_iff_ne.mpr ?_
  exact Nat.ne_of_gt (Nat.mul_pos positive (by decide))

theorem isZero_span {window : SpelledWindow} (valid : window.Valid) :
    window.span.isZero = false := by
  exact isZero_ofSeconds (SpelledWindow.one_le_number_mul_seconds valid)

/-- A rate always has a window; the other operations become functions over time with one. -/
theorem fitted_name (operation : Operation) (window : Option TimeSpan) :
    Extraction.fitted operation.name window =
      match operation, window with
      | .rate, _ => ("rate", window.getD defaultWindow)
      | operation, some span => (operation.name ++ "_over_time", span)
      | operation, none => (operation.name, .zero) := by
  cases operation <;> cases window <;> rfl

theorem windowChars_of_isZero {span : TimeSpan} (positive : span.isZero = false) :
    Query.windowChars span = ("[" ++ span.queryText ++ "]").toList := by
  unfold Query.windowChars
  rw [positive, if_neg Bool.false_ne_true]
  simp [TimeSpan.queryText]

theorem windowChars_defaultWindow : Query.windowChars defaultWindow = "[5m]".toList := by
  decide +kernel

/-- The function and the range are those of the fitted window. -/
theorem fitted_span? (valid : question.Valid) :
    (Extraction.fitted question.operation.name question.span?).1 = question.function ∧
      Query.windowChars (Extraction.fitted question.operation.name question.span?).2 =
        question.range.toList := by
  rw [fitted_name]
  unfold function range span?
  cases named : question.window with
  | none =>
      cases question.operation with
      | rate => exact ⟨rfl, windowChars_defaultWindow⟩
      | avg | sum | count => exact ⟨rfl, rfl⟩
  | some window =>
      have shown := windowChars_of_isZero (isZero_span (valid.window window named))
      cases question.operation with
      | rate | avg | sum | count => exact ⟨rfl, shown⟩

/-- Nothing is trimmed of the function. -/
theorem trim_function (question : RuleQuestion) :
    trim question.function.toList = question.function.toList ∧ question.function.toList ≠ [] := by
  unfold function
  cases question.window with
  | none => cases question.operation <;> decide
  | some window => cases question.operation <;> dsimp only <;> decide

theorem escapedLabelChar_of_continuesLabel {c : Char} (label : continuesLabel c = true) :
    Query.escapedLabelChar c = [c] := by
  have range := continuesLabel_iff.mp label
  have apart (mark : Char) (below : mark.toNat = 92 ∨ mark.toNat < 48) : c ≠ mark := by
    rintro rfl
    omega
  unfold Query.escapedLabelChar
  rw [if_neg (apart '\\' (by decide)), if_neg (apart '"' (by decide)),
    if_neg (apart '\n' (by decide))]

/-- Nothing in a value is escaped. -/
theorem matcherChars_label {label : String × String} (value : IsLabelText label.2) :
    Query.matcherChars label = (label.1 ++ "=\"" ++ label.2 ++ "\"").toList := by
  have plain (text : List Char) (letters : ∀ c ∈ text, continuesLabel c = true) :
      text.flatMap Query.escapedLabelChar = text := by
    induction text with
    | nil => rfl
    | cons c text ih =>
        rw [List.flatMap_cons, escapedLabelChar_of_continuesLabel (letters c List.mem_cons_self),
          ih fun d mem => letters d (List.mem_cons_of_mem c mem)]
        rfl
  unfold Query.matcherChars Query.quotedValue
  rw [plain label.2.toList value.2]
  simp

theorem matchersChars_labels (valid : question.Valid) :
    Query.matchersChars (Keyed.ofList question.labels) = question.matchers.toList := by
  have entries := Keyed.entries_ofList valid.distinct
  have members : ∀ label ∈ Keyed.sortedByKey question.labels, label ∈ question.labels :=
    fun label mem => (List.mergeSort_perm question.labels _).mem_iff.mp mem
  have same : (Keyed.sortedByKey question.labels).map Query.matcherChars =
      ((Keyed.sortedByKey question.labels).map fun label =>
        label.1 ++ "=\"" ++ label.2 ++ "\"").map String.toList := by
    rw [List.map_map]
    exact List.map_congr_left fun label mem =>
      matcherChars_label (valid.values label (members label mem)).1
  unfold Query.matchersChars matchers Keyed.isEmpty
  rw [entries]
  by_cases unlabelled : question.labels = []
  · have empty : Keyed.sortedByKey question.labels = [] := by
      rw [unlabelled]
      exact List.mergeSort_nil
    rw [if_pos unlabelled, empty]
    rfl
  · have full : (Keyed.sortedByKey question.labels).isEmpty = false := by
      rw [List.isEmpty_eq_false_iff, ← List.length_pos_iff]
      unfold Keyed.sortedByKey
      rw [List.length_mergeSort]
      exact List.length_pos_iff.mpr unlabelled
    rw [if_neg unlabelled, full, if_neg Bool.false_ne_true, same]
    simp

/-- A context that has what the question names gives its query. -/
theorem build_eq_promql (valid : question.Valid) (metric : context.mainMetric = question.metric)
    (labels : context.labels = Keyed.ofList question.labels)
    (fitted : (context.aggregation, context.timeRange.span) =
      Extraction.fitted question.operation.name question.span?)
    (ungrouped : context.groupBy = []) : (Query.build context).query = question.promql := by
  obtain ⟨function, range⟩ := fitted_span? valid
  have aggregation : context.aggregation = _ := congrArg Prod.fst fitted
  have span : context.timeRange.span = _ := congrArg Prod.snd fitted
  obtain ⟨trimmedFunction, named⟩ := trim_function question
  have identifier := isLabelText_of_isIdentifier valid.metric.1
  have trimmed : trim context.mainMetric.toList = question.metric.toList := by
    rw [metric]
    exact trim_eq_self fun c mem => isBlank_of_continuesLabel (identifier.2 c mem)
  have applied : trim context.aggregation.toList = question.function.toList := by
    rw [aggregation, function, trimmedFunction]
  have selected : Query.selectorChars question.metric.toList context =
      (question.metric ++ question.matchers ++ question.range).toList := by
    unfold Query.selectorChars
    rw [labels, matchersChars_labels valid, span, range]
    simp
  unfold Query.build
  cases metricChars : question.metric.toList with
  | nil => exact absurd metricChars identifier.1
  | cons c rest =>
      rw [trimmed, metricChars]
      dsimp only
      rw [← metricChars]
      unfold Query.queryChars
      dsimp only
      rw [applied, if_neg (by simpa using named), ungrouped, if_pos List.isEmpty_nil, selected]
      unfold promql Query.parenthesised
      rw [← String.toList_inj]
      simp

end PromScribe.Question.RuleQuestion

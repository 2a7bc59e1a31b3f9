import PromScribe.Proofs.Text.Blank
import PromScribe.Query.Assembly

/-!
# When there is a query, and its shape

A context with a metric has a query, which is not blank; a context without one has a warning
instead. A query is its metric with labels and range, between what the aggregation and the grouping
write in front of it and the parentheses that this opens.
-/

namespace PromScribe.Query

open Text

variable {context : Context}

theorem trim_mainMetric_eq_nil_iff :
    trim context.mainMetric.toList = [] ↔ context.hasMetric = false := by
  rw [trim_eq_nil_iff]
  simp [Context.hasMetric, isBlankText]

/-- Without a metric there is just the warning. -/
theorem build_of_blank (blank : context.hasMetric = false) :
    build context = ⟨"", [noMetricWarning]⟩ := by
  unfold build
  rw [trim_mainMetric_eq_nil_iff.mpr blank]

theorem toList_build_of_named (named : context.hasMetric = true) :
    (build context).query.toList = queryChars (trim context.mainMetric.toList) context := by
  unfold build
  split
  · next nothing =>
      rw [trim_mainMetric_eq_nil_iff.mp nothing] at named
      cases named
  · next c rest trimmed => rw [String.toList_ofList, trimmed]

/-- Every character of the metric is part of the query. -/
theorem mem_queryChars {c : Char} {metric : List Char} (member : c ∈ metric) :
    c ∈ queryChars metric context := by
  have selected : c ∈ selectorChars metric context := by
    simp [selectorChars, member]
  unfold queryChars
  dsimp only
  split
  · exact selected
  · split
    · simp [parenthesised, selected]
    · split
      · simp [parenthesised, selected]
      · simp [parenthesised, selected]

/-- The query of a context with a metric is not blank. -/
theorem isBlankText_build (named : context.hasMetric = true) :
    isBlankText (build context).query = false := by
  unfold build
  split
  · next nothing =>
      rw [trim_mainMetric_eq_nil_iff.mp nothing] at named
      cases named
  · next c rest trimmed =>
      have part : c ∈ queryChars (c :: rest) context := mem_queryChars (List.mem_cons_self ..)
      simp only [isBlankText, String.toList_ofList, List.all_eq_false]
      exact ⟨c, part, by simp [isBlank_of_trim trimmed]⟩

/-- There is no query just where there is no metric. -/
theorem build_query_eq_empty_iff : (build context).query = "" ↔ context.hasMetric = false := by
  constructor
  · intro empty
    cases named : context.hasMetric with
    | false => rfl
    | true =>
        have full := isBlankText_build named
        rw [empty] at full
        cases full
  · intro blank
    rw [build_of_blank blank]

variable {range : List Char}

/-- What aggregation and grouping write in front of the metric. -/
def opening (context : Context) : List Char :=
  let aggregation := trim context.aggregation.toList
  if aggregation.isEmpty then []
  else if context.groupBy.isEmpty then aggregation ++ ['(']
  else if isAggregation (String.ofList aggregation) then
    aggregation ++ groupingChars context.groupBy ++ ['(']
  else "sum".toList ++ groupingChars context.groupBy ++ '(' :: (aggregation ++ ['('])

/-- The parentheses that are open behind the range. -/
def closing (context : Context) : List Char :=
  let aggregation := trim context.aggregation.toList
  if aggregation.isEmpty then []
  else if context.groupBy.isEmpty || isAggregation (String.ofList aggregation) then [')']
  else [')', ')']

theorem queryChars_eq (metric : List Char) (context : Context) :
    queryChars metric context =
      opening context ++ (selectorChars metric context ++ closing context) := by
  unfold queryChars opening closing
  dsimp only
  split
  · simp
  · split
    · next ungrouped => simp [parenthesised, ungrouped]
    · next grouped =>
        split
        · next operator => simp [parenthesised, operator]
        · next other => simp [parenthesised, grouped, other]

/-- The query of the context if its range were the given one. -/
def rangedChars (context : Context) (range : List Char) : List Char :=
  opening context ++ (trim context.mainMetric.toList ++ (matchersChars context.labels ++
    (range ++ closing context)))

theorem toList_build (named : context.hasMetric = true) :
    (build context).query.toList = rangedChars context (windowChars context.timeRange.span) := by
  rw [toList_build_of_named named, queryChars_eq]
  simp only [selectorChars, rangedChars, List.append_assoc]

theorem rangedChars_inj {other : List Char} :
    rangedChars context range = rangedChars context other ↔ range = other := by
  simp [rangedChars]

/-- There is a range in brackets behind the metric and its labels. -/
def ShowsRange (context : Context) : Prop :=
  ∃ text, (build context).query.toList = rangedChars context ('[' :: (text ++ [']']))

/-- A range is shown where there is a query and its span has a length. -/
theorem showsRange_iff :
    ShowsRange context ↔ context.hasMetric = true ∧ context.timeRange.span.isZero = false := by
  constructor
  · rintro ⟨text, shown⟩
    cases named : context.hasMetric with
    | false =>
        rw [build_of_blank named] at shown
        simp [rangedChars] at shown
    | true =>
        refine ⟨rfl, ?_⟩
        rw [toList_build named, rangedChars_inj] at shown
        cases long : context.timeRange.span.isZero with
        | false => rfl
        | true => simp [windowChars, long] at shown
  · rintro ⟨named, long⟩
    refine ⟨context.timeRange.span.queryChars, ?_⟩
    rw [toList_build named, windowChars, if_neg (by simp [long])]

end PromScribe.Query

import PromScribe.Proofs.Series.Clause

/-!
# Charts of built queries

The opening parentheses and blanks of a built query stand in front of its metric, if no label value
has one. So calls and grouping clauses are found only there: no call but that of the context's own
function, and no clause but the one that was written, behind its operator and with its labels.
-/

namespace PromScribe.Chart

open Text Query Question

variable {context : Context} {c : Char}

/-- The words that call for a chart of their own. -/
def tellingWords : List String := ["topk", "bottomk", "histogram_quantile"]

/-- The texts that a query is put together from. -/
def texts (context : Context) : List String :=
  context.mainMetric :: context.aggregation ::
    (context.groupBy ++ (context.labels.keys ++ context.labels.values))

/-- The character is neither blank nor an opening parenthesis. -/
def isPlain (c : Char) : Bool :=
  !isBlank c && c != '('

/-- The context groups by names, its label values have neither blanks nor opening parentheses, and
no text of it has a word that calls for a chart of its own. -/
structure Chartable (context : Context) : Prop where
  names : Identified context
  called : trimString context.aggregation ≠ ""
  grouped : context.groupBy ≠ []
  values : ∀ value ∈ context.labels.values, ∀ c ∈ value.toList, isPlain c = true
  quiet : ∀ word ∈ tellingWords, ∀ text ∈ texts context, ¬ HasInAnyCase word.toList text.toList

theorem isTelling_of_mem {name : String} (mem : name ∈ tellingWords) : IsTelling name.toList := by
  have letters : ∀ name ∈ tellingWords, name.toList.Forall fun c =>
      c.isLower = true ∨ c = '_' := by decide
  have round : ∀ name ∈ tellingWords, 'o' ∈ name.toList := by decide
  have strange : ∀ name ∈ tellingWords, ∀ operator ∈ aggregationOperators,
      ¬ name.toList <:+: folded operator.toList := by decide +kernel
  exact ⟨List.forall_iff_forall_mem.mp (letters name mem), round name mem, strange name mem⟩

theorem isPlain_of_continuesMetric (letter : continuesMetric c = true) : isPlain c = true := by
  have other : c ≠ '(' := by
    rintro rfl
    exact absurd letter (by decide)
  simp [isPlain, isBlank_of_continuesMetric letter, other]

theorem ascii_of_isFrameChar (frame : isFrameChar c = true) : c.val < 128 := by
  rcases Bool.or_eq_true_iff.mp frame with letter | mark
  · exact val_lt_of_continuesMetric letter
  · have marks : ['(', ')', '[', ']', ',', ' '].Forall fun c => c.val < 128 := by decide
    exact List.forall_iff_forall_mem.mp marks c (List.contains_iff_mem.mp mark)

/-- The query behind its grouping. -/
def groupedPart (context : Context) : List Char :=
  trim context.mainMetric.toList ++ (matchersChars context.labels ++
    (windowChars context.timeRange.span ++ closing context))

theorem isPlain_matcherChars {label : String × String} (key : isKeyName label.1 = true)
    (value : ∀ c ∈ label.2.toList, isPlain c = true) :
    ∀ c ∈ matcherChars label, isPlain c = true := by
  have escaped : ∀ c ∈ label.2.toList.flatMap escapedLabelChar, isPlain c = true := by
    intro c mem
    obtain ⟨d, there, within⟩ := List.mem_flatMap.mp mem
    have plain := value d there
    unfold escapedLabelChar at within
    split_ifs at within
    · exact List.all_eq_true.mp (by decide : ['\\', '\\'].all isPlain = true) c within
    · exact List.all_eq_true.mp (by decide : ['\\', '"'].all isPlain = true) c within
    · exact List.all_eq_true.mp (by decide : ['\\', 'n'].all isPlain = true) c within
    · rwa [List.mem_singleton.mp within]
  have name : ∀ c ∈ label.1.toList, isPlain c = true := fun c mem =>
    isPlain_of_continuesMetric ((letters_of_isKeyName key).2 c mem)
  refine List.forall_mem_append.mpr ⟨name, List.forall_mem_cons.mpr ⟨rfl, ?_⟩⟩
  refine List.forall_mem_cons.mpr ⟨rfl, List.forall_mem_append.mpr ⟨escaped, ?_⟩⟩
  exact List.forall_mem_singleton.mpr rfl

theorem isPlain_matchersChars {labels : Labels}
    (each : ∀ label ∈ labels.entries, ∀ c ∈ matcherChars label, isPlain c = true) :
    ∀ c ∈ matchersChars labels, isPlain c = true := by
  unfold matchersChars
  split
  · nofun
  · refine List.forall_mem_cons.mpr ⟨rfl, List.forall_mem_append.mpr ⟨fun c mem => ?_, ?_⟩⟩
    · rcases mem_of_mem_intercalate mem with comma | ⟨part, there, within⟩
      · rw [List.mem_singleton.mp comma]
        rfl
      · obtain ⟨label, listed, rfl⟩ := List.mem_map.mp there
        exact each label listed c within
    · exact List.forall_mem_singleton.mpr rfl

theorem isPlain_windowChars (span : TimeSpan) : ∀ c ∈ windowChars span, isPlain c = true := by
  unfold windowChars
  split
  · nofun
  · refine List.forall_mem_cons.mpr ⟨rfl, List.forall_mem_append.mpr ⟨fun c mem => ?_, ?_⟩⟩
    · exact isPlain_of_continuesMetric (continuesMetric_queryChars c mem)
    · exact List.forall_mem_singleton.mpr rfl

theorem isPlain_closing (context : Context) : ∀ c ∈ closing context, isPlain c = true := by
  unfold closing
  dsimp only
  split_ifs
  · nofun
  · exact List.forall_mem_singleton.mpr rfl
  · exact List.forall_mem_cons.mpr ⟨rfl, List.forall_mem_singleton.mpr rfl⟩

theorem Chartable.isPlain_groupedPart (chartable : Chartable context) :
    ∀ c ∈ groupedPart context, isPlain c = true := by
  have metric : ∀ c ∈ trim context.mainMetric.toList, isPlain c = true := by
    rw [← toList_trimString]
    exact fun c mem =>
      isPlain_of_continuesMetric ((letters_of_isMetricName chartable.names.metric).2 c mem)
  have matchers := isPlain_matchersChars fun label listed =>
    isPlain_matcherChars (chartable.names.keys label listed)
      (chartable.values label.2 (List.mem_map_of_mem listed))
  exact List.forall_mem_append.mpr ⟨metric, List.forall_mem_append.mpr ⟨matchers,
    List.forall_mem_append.mpr ⟨isPlain_windowChars _, isPlain_closing context⟩⟩⟩

namespace Chartable

theorem trim_aggregation_ne_nil (chartable : Chartable context) :
    trim context.aggregation.toList ≠ [] := by
  rw [← toList_trimString]
  exact fun nothing => chartable.called (String.toList_eq_nil_iff.mp nothing)

theorem toList_query (chartable : Chartable context) :
    (build context).query.toList = opening context ++ groupedPart context := by
  rw [toList_build (hasMetric_of_isMetricName chartable.names.metric), rangedChars, groupedPart]

/-- No word that calls for a chart of its own is in the query or in front of its metric. -/
theorem lacks (chartable : Chartable context) {name : String} (mem : name ∈ tellingWords) :
    Lacks name.toList (opening context) ∧ Lacks name.toList (build context).query.toList := by
  have telling := isTelling_of_mem mem
  have quiet {text : String} (there : text ∈ texts context) : Lacks name.toList text.toList :=
    chartable.quiet name mem text there
  have called := chartable.trim_aggregation_ne_nil
  have aggregation : Lacks name.toList (trim context.aggregation.toList) :=
    (quiet (by simp [texts])).of_part (trim_isInfix _)
  have metric : Lacks name.toList (trim context.mainMetric.toList) :=
    (quiet (by simp [texts])).of_part (trim_isInfix _)
  have front := telling.lacks_opening called chartable.grouped aggregation fun label there =>
    quiet (by simp [texts, there])
  refine ⟨front, ?_⟩
  have behind : Lacks name.toList (groupedPart context) := by
    refine telling.lacks_behind (fun label there => ?_) (fun label there => ⟨?_, fun line => ?_⟩)
      metric
    · have key : label.1 ∈ context.labels.keys := List.mem_map_of_mem there
      exact quiet (by simp [texts, key])
    · have value : label.2 ∈ context.labels.values := List.mem_map_of_mem there
      exact quiet (by simp [texts, value])
    · exact absurd (chartable.values label.2 (List.mem_map_of_mem there) _ line) (by decide)
  obtain ⟨outer, last⟩ := exists_opening_concat called chartable.grouped
  rw [chartable.toList_query, last, List.append_assoc]
  refine Lacks.append (telling.apart_cons rfl) (front.of_part ?_) (telling.cons_mark rfl behind)
  exact last ▸ (List.prefix_append _ _).isInfix

/-- In lower case there are small letters in front of the metric, and behind there is no call. -/
theorem exists_lower_query (chartable : Chartable context) :
    ∃ rest, lower (build context).query.toList = folded (opening context) ++ rest ∧
      '(' ∉ rest ∧ ∀ c ∈ rest, isBlank c = false := by
  have ascii : ∀ c ∈ opening context, c.val < 128 := fun c mem =>
    ascii_of_isFrameChar (isFrameChar_opening chartable.names.aggregation
      chartable.names.grouping c mem)
  have plain := chartable.isPlain_groupedPart
  simp only [isPlain, Bool.and_eq_true, Bool.not_eq_true', bne_iff_ne] at plain
  obtain ⟨after, split⟩ := exists_lowerFrom_append ascii false (groupedPart context)
  refine ⟨lowerFrom after (groupedPart context), ?_, fun opens => ?_, fun c mem => ?_⟩
  · rw [chartable.toList_query]
    exact split
  · exact (plain _ (mem_of_mem_lowerFrom (by decide) rfl opens)).2 rfl
  · exact isBlank_lowerFrom (fun d there => (plain d there).1) mem

/-- No function of a query ranks. -/
theorem not_ranking (chartable : Chartable context) :
    anywhere rankingCall (lower (build context).query.toList) = false := by
  obtain ⟨rest, split, closed, -⟩ := chartable.exists_lower_query
  refine eq_false_of_ne_true fun ranks => ?_
  obtain ⟨front, c, behind, place, hit, found⟩ := anywhere_iff.mp ranks
  obtain ⟨name, ranking, gap, inner, call⟩ := exists_of_callOf found
  have mem : name ∈ tellingWords := (by decide : ["topk", "bottomk"] ⊆ tellingWords) ranking
  rw [call, split] at place
  have opens :
      (front ++ (name.toList ++ gap)) ++ '(' :: inner = folded (opening context) ++ rest := by
    rw [place]
    simp
  obtain ⟨more, whole⟩ := exists_of_mark closed opens
  refine (chartable.lacks mem).1 ⟨front, gap ++ '(' :: more, ?_⟩
  rw [whole]
  simp

/-- There are no quantiles in a query. -/
theorem not_quantile (chartable : Chartable context) :
    occurs "histogram_quantile".toList (lower (build context).query.toList) = false := by
  refine eq_false_of_ne_true fun found => ?_
  have spelled : Spelled "histogram_quantile".toList :=
    ⟨List.forall_iff_forall_mem.mp (by decide), by decide⟩
  exact (chartable.lacks (by decide)).2
    (spelled.hasInAnyCase (by decide) (occurs_iff.mp found))

theorem isName_groupBy (chartable : Chartable context) :
    ∀ part ∈ context.groupBy.map fun label => folded label.toList, IsName part := by
  intro part mem
  obtain ⟨label, there, rfl⟩ := List.mem_map.mp mem
  obtain ⟨nonempty, letters⟩ := letters_of_isKeyName (chartable.names.grouping label there)
  exact IsName.folded ⟨nonempty, letters⟩

theorem isBlank_innerCall (chartable : Chartable context) :
    ∀ c ∈ folded (innerCall context), isBlank c = false := by
  obtain ⟨nonempty, letters⟩ :=
    letters_of_isKeyName (chartable.names.aggregation.resolve_left chartable.called)
  rw [toList_trimString] at nonempty letters
  have name : IsName (folded (trim context.aggregation.toList)) :=
    IsName.folded ⟨nonempty, letters⟩
  unfold innerCall
  split
  · nofun
  · rw [folded, List.map_append]
    exact List.forall_mem_append.mpr
      ⟨name.isBlank_eq_false, List.forall_mem_singleton.mpr rfl⟩

/-- In lower case, the query begins with its grouping, and there are no blanks behind that. -/
theorem exists_grouped_query (chartable : Chartable context) :
    ∃ inner, lower (build context).query.toList =
        groupedCall (groupingOperator context).toList
          (context.groupBy.map fun label => folded label.toList) inner ∧
      ∀ c ∈ inner, isBlank c = false := by
  have small : ∀ operator ∈ aggregationOperators, folded operator.toList = operator.toList := by
    decide
  obtain ⟨rest, split, -, solid⟩ := chartable.exists_lower_query
  refine ⟨folded (innerCall context) ++ rest, ?_, List.forall_mem_append.mpr
    ⟨chartable.isBlank_innerCall, solid⟩⟩
  rw [split, opening_of_grouped chartable.trim_aggregation_ne_nil chartable.grouped,
    folded_groupedCall, small _ (groupingOperator_mem context), groupedCall_append, List.map_map]
  rfl

/-- As many labels are counted as the context groups by. -/
theorem groupedLabels_query (chartable : Chartable context) :
    groupedLabels (lower (build context).query.toList) = context.groupBy.length := by
  have silent : ∀ operator ∈ aggregationOperators, 'b' ∉ operator.toList := by decide
  obtain ⟨inner, shape, -⟩ := chartable.exists_grouped_query
  have listed : (context.groupBy.map fun label => folded label.toList) ≠ [] := fun nothing =>
    chartable.grouped (List.map_eq_nil_iff.mp nothing)
  rw [shape, groupedLabels_groupedCall listed chartable.isName_groupBy
    (silent _ (groupingOperator_mem context)), List.length_map]

/-- The query makes a partition just if it counts or sums. -/
theorem partition_iff (chartable : Chartable context) :
    anywhere partitionClause (lower (build context).query.toList) = true ↔
      groupingOperator context = "sum" ∨ groupingOperator context = "count" := by
  obtain ⟨inner, shape, solid⟩ := chartable.exists_grouped_query
  rw [shape]
  refine ⟨fun partitions => ?_, fun named => partitionClause_groupedCall ?_⟩
  · by_contra other
    rw [not_partition (groupingOperator_mem context) (not_or.mp other) chartable.isName_groupBy
      solid] at partitions
    cases partitions
  · rcases named with sum | count
    · simp [sum]
    · simp [count]

end Chartable

/-- A query is grouped by the labels of its context, behind the operator that takes them. As many
labels are counted, and for a vector of no series or of several they and the operator decide. -/
theorem suggest_grouped (chartable : Chartable context) :
    ((groupingOperator context).toList ++ " by (".toList <+: (build context).query.toList) ∧
      groupedLabels (lower (build context).query.toList) = context.groupBy.length ∧
      ∀ list : List Series, list.length ≠ 1 →
        suggest (build context).query ⟨.vector, .series list⟩ =
          if (groupingOperator context = "sum" ∨ groupingOperator context = "count") ∧
              list.length ≤ maxPieSlices then .pie
          else if 2 ≤ context.groupBy.length then .tree
          else .table := by
  refine ⟨?_, chartable.groupedLabels_query, fun list several => ?_⟩
  · rw [chartable.toList_query,
      opening_of_grouped chartable.trim_aggregation_ne_nil chartable.grouped]
    have keyword : " by (".toList = [' ', 'b', 'y', ' ', '('] := rfl
    refine ⟨List.intercalate [',', ' '] (context.groupBy.map String.toList) ++
      ')' :: ' ' :: '(' :: (innerCall context ++ groupedPart context), ?_⟩
    rw [groupedCall_append, groupedCall, keyword, List.append_assoc]
    rfl
  · have bare : (isSample (.series list) ||
        isSingleUnlabelled (QueryData.series ⟨.vector, .series list⟩)) = false := by
      rcases list with - | ⟨one, - | ⟨two, others⟩⟩
      · rfl
      · exact absurd rfl several
      · rfl
    have instant : (false || decide (ResultKind.vector = ResultKind.matrix)) = false := rfl
    unfold suggest
    simp only [chartable.not_ranking, chartable.not_quantile, chartable.groupedLabels_query,
      bare, instant, Bool.false_eq_true, if_false, Bool.and_eq_true, chartable.partition_iff,
      decide_eq_true_iff]
    rfl

/-- A rate, grouped by two labels. -/
def groupedRate : Context :=
  (((((Context.ofQuery "").withMetric "http_requests_total").withLabel "code" "500").withAggregation
    "rate").withGroupBy "job").withGroupBy "instance"

theorem chartable_groupedRate : Chartable groupedRate where
  names := {
    metric := by decide
    aggregation := .inr (by decide)
    grouping := by decide
    keys := by decide }
  called := by decide
  grouped := by decide
  values := by
    intro value mem
    obtain rfl := List.mem_singleton.mp mem
    exact List.all_eq_true.mp (by decide)
  quiet := by decide +kernel

theorem suggest_grouped_rate :
    groupedLabels (lower (build groupedRate).query.toList) = 2 ∧
      suggest (build groupedRate).query .empty = .pie ∧
      ∀ list : List Series, 8 < list.length →
        suggest (build groupedRate).query ⟨.vector, .series list⟩ = .tree := by
  obtain ⟨-, counted, charts⟩ := suggest_grouped chartable_groupedRate
  refine ⟨counted, (charts [] (by decide)).trans rfl, fun list many => ?_⟩
  have crowded : ¬ list.length ≤ maxPieSlices := Nat.not_le.mpr many
  rw [charts list (by omega), if_neg fun partition => crowded partition.2]
  rfl

end PromScribe.Chart

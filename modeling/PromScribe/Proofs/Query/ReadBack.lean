import PromScribe.Proofs.Query.Assembly
import PromScribe.Proofs.Query.Lexing
import PromScribe.Proofs.Text.Spacing
import PromScribe.Proofs.Text.Sweep
import PromScribe.Proofs.Time.QueryForm

/-!
# Reading queries back

The query of a context is read as the expression it was built from, so that it says all that the
context says: contexts that differ in a part of their queries never have the same query.
-/

namespace PromScribe.Query

open Question Text

variable {context : Context} {text piece : List Char} {lexemes : List Lexeme}

/-- The names of a context are names of their kind, and its span is within the supported range. -/
structure Readable (context : Context) : Prop where
  metric : isMetricName (trimString context.mainMetric) = true
  aggregation : trimString context.aggregation = "" ∨
    isKeyName (trimString context.aggregation) = true
  grouping : ∀ label ∈ context.groupBy, isKeyName label = true
  keys : ∀ label ∈ context.labels.entries, isKeyName label.1 = true
  window : context.timeRange.span.Representable

theorem Readable.withWindow {span : TimeSpan} (readable : Readable context)
    (within : span.Representable) : Readable (context.withWindow span) :=
  ⟨readable.metric, readable.aggregation, readable.grouping, readable.keys, within⟩

theorem letters_of_isName {starts continues : Char → Bool} {word : String}
    (name : isName starts continues word = true)
    (wide : ∀ c, starts c = true ∨ continues c = true → continuesMetric c = true) :
    word.toList ≠ [] ∧ ∀ c ∈ word.toList, continuesMetric c = true := by
  unfold isName at name
  split at name
  · cases name
  · next c rest chars =>
      obtain ⟨first, others⟩ := Bool.and_eq_true_iff.mp name
      rw [chars]
      refine ⟨List.cons_ne_nil _ _, fun c mem => ?_⟩
      rcases List.mem_cons.mp mem with rfl | later
      · exact wide _ (.inl first)
      · exact wide _ (.inr (List.all_eq_true.mp others c later))

theorem continuesMetric_of_continuesKey {c : Char} (key : continuesKey c = true) :
    continuesMetric c = true := by
  simp [continuesMetric, key]

theorem continuesKey_of_startsKey {c : Char} (starts : startsKey c = true) :
    continuesKey c = true := by
  simp only [startsKey, Bool.or_eq_true] at starts
  simp only [continuesKey, isAsciiWord, Char.isAlphanum, Bool.or_eq_true]
  rcases starts with letter | underscore
  · exact .inl (.inl letter)
  · exact .inr underscore

theorem letters_of_isKeyName {word : String} (name : isKeyName word = true) :
    word.toList ≠ [] ∧ ∀ c ∈ word.toList, continuesMetric c = true := by
  refine letters_of_isName name fun c either => continuesMetric_of_continuesKey ?_
  rcases either with starts | continues
  · exact continuesKey_of_startsKey starts
  · exact continues

theorem letters_of_isMetricName {word : String} (name : isMetricName word = true) :
    word.toList ≠ [] ∧ ∀ c ∈ word.toList, continuesMetric c = true := by
  refine letters_of_isName name fun c either => ?_
  rcases either with starts | continues
  · simp only [startsMetric, Bool.or_eq_true] at starts
    rcases starts with key | colon
    · exact continuesMetric_of_continuesKey (continuesKey_of_startsKey key)
    · simp [continuesMetric, colon]
  · exact continues

theorem continuesMetric_queryChars {span : TimeSpan} :
    ∀ c ∈ span.queryChars, continuesMetric c = true := by
  have letters : ['d', 'h', 'm', 's'].all continuesMetric = true := by decide
  intro c mem
  rcases TimeSpan.mem_queryChars mem with digit | letter
  · exact continuesMetric_of_continuesKey (by
      simp [continuesKey, isAsciiWord, Char.isAlphanum, digit])
  · exact List.all_eq_true.mp letters c letter

/-- A character of a name or a span, or one that stands around them outside of braces. -/
def isFrameChar (c : Char) : Bool :=
  continuesMetric c || ['(', ')', '[', ']', ',', ' '].contains c

theorem isFrameChar_of_continuesMetric {c : Char} (letter : continuesMetric c = true) :
    isFrameChar c = true :=
  Bool.or_eq_true_iff.mpr (.inl letter)

/-- A grouping clause consists of names and of what stands around them. -/
theorem isFrameChar_groupingChars {labels : List String}
    (names : ∀ label ∈ labels, isKeyName label = true) :
    ∀ c ∈ groupingChars labels, isFrameChar c = true := by
  have keyword : " by (".toList.all isFrameChar = true := by decide
  have comma : [',', ' '].all isFrameChar = true := by decide
  have bracket : [')', ' '].all isFrameChar = true := by decide
  intro c mem
  rcases List.mem_append.mp mem with early | last
  · rcases List.mem_append.mp early with start | list
    · exact List.all_eq_true.mp keyword c start
    · rcases mem_of_mem_intercalate list with separator | ⟨part, member, within⟩
      · exact List.all_eq_true.mp comma c separator
      · obtain ⟨label, listed, rfl⟩ := List.mem_map.mp member
        have letters := (letters_of_isKeyName (names label listed)).2
        exact isFrameChar_of_continuesMetric (letters c within)
  · exact List.all_eq_true.mp bracket c last

/-- In front of the metric there are names and what stands around them. -/
theorem isFrameChar_opening
    (aggregation : trimString context.aggregation = "" ∨
      isKeyName (trimString context.aggregation) = true)
    (grouping : ∀ label ∈ context.groupBy, isKeyName label = true) :
    ∀ c ∈ opening context, isFrameChar c = true := by
  have function : ∀ c ∈ trim context.aggregation.toList, isFrameChar c = true := by
    rw [← toList_trimString]
    intro c mem
    rcases aggregation with none | name
    · rw [none] at mem
      cases mem
    · exact isFrameChar_of_continuesMetric ((letters_of_isKeyName name).2 c mem)
  have group := isFrameChar_groupingChars grouping
  have bracket : ∀ c ∈ ['('], isFrameChar c = true := List.all_eq_true.mp (by decide)
  have sum : ∀ c ∈ "sum".toList, isFrameChar c = true := List.all_eq_true.mp (by decide)
  unfold opening
  dsimp only
  split
  · nofun
  · split
    · exact List.forall_mem_append.mpr ⟨function, bracket⟩
    · split
      · exact List.forall_mem_append.mpr ⟨List.forall_mem_append.mpr ⟨function, group⟩, bracket⟩
      · exact List.forall_mem_append.mpr ⟨List.forall_mem_append.mpr ⟨sum, group⟩,
          List.forall_mem_cons.mpr ⟨rfl, List.forall_mem_append.mpr ⟨function, bracket⟩⟩⟩

/-- Behind the labels there are a span and what stands around it. -/
theorem isFrameChar_behind (context : Context) :
    ∀ c ∈ windowChars context.timeRange.span ++ closing context, isFrameChar c = true := by
  have window : ∀ c ∈ windowChars context.timeRange.span, isFrameChar c = true := by
    unfold windowChars
    split
    · nofun
    · have span : ∀ c ∈ context.timeRange.span.queryChars, isFrameChar c = true := fun c mem =>
        isFrameChar_of_continuesMetric (continuesMetric_queryChars c mem)
      have bracket : ∀ c ∈ [']'], isFrameChar c = true := List.all_eq_true.mp (by decide)
      exact List.forall_mem_cons.mpr ⟨rfl, List.forall_mem_append.mpr ⟨span, bracket⟩⟩
  have parentheses : ∀ c ∈ closing context, isFrameChar c = true := by
    unfold closing
    dsimp only
    split_ifs
    · nofun
    · exact List.all_eq_true.mp (by decide)
    · exact List.all_eq_true.mp (by decide)
  exact List.forall_mem_append.mpr ⟨window, parentheses⟩

/-- What is written in units has the form of a range in them. -/
theorem isSpanForm_writeUnits {units : List (String × Nat)}
    (spelled : ∀ unit ∈ units, unit.1.toList.head?.any (fun c => !c.isDigit) = true)
    (millis : Nat) :
    isSpanForm (units.map Prod.fst) (TimeSpan.writeUnits units millis) = true := by
  induction units generalizing millis with
  | nil => rfl
  | cons unit units ih =>
      obtain ⟨suffix, size⟩ := unit
      have below := ih fun unit mem => spelled unit (List.mem_cons_of_mem _ mem)
      rw [List.map_cons, TimeSpan.writeUnits, isSpanForm]
      dsimp only
      generalize millis / size = count
      rw [Bool.or_eq_true]
      by_cases unused : count = 0
      · rw [if_pos unused]
        exact .inr (below _)
      · left
        have ends : ((suffix.toList ++ TimeSpan.writeUnits units (millis - count * size)).head?.any
            Char.isDigit) = false := by
          have letter := spelled _ List.mem_cons_self
          cases chars : suffix.toList with
          | nil =>
              rw [chars] at letter
              cases letter
          | cons c more =>
              rw [chars] at letter
              simpa using letter
        have digits := takeWhile_run (SpanReader.isDigit_of_mem_toDigits count) ends
        rw [if_neg unused, List.append_assoc, digits, List.drop_left, List.drop_left]
        simp [Nat.toDigits_ne_nil, below]

theorem isSpanForm_queryChars {span : TimeSpan} :
    isSpanForm rangeUnits span.queryChars = true := by
  unfold TimeSpan.queryChars
  split
  · decide
  · have spelled : ∀ unit ∈ TimeSpan.queryUnits,
        unit.1.toList.head?.any (fun c => !c.isDigit) = true := by decide
    have form := isSpanForm_writeUnits spelled span.millis
    -- No span is written in years or weeks.
    have skip (unit : String) {units : List String} {text : List Char}
        (form : isSpanForm units text = true) : isSpanForm (unit :: units) text = true := by
      simp [isSpanForm, form]
    exact skip "y" (skip "w" form)

/-- The selection of a context. -/
def selectionOf (context : Context) : Selection where
  metric := trimString context.mainMetric
  labels := context.labels.entries
  range :=
    if context.timeRange.span.isZero then none else some context.timeRange.span.queryText

/-- The expression that the query of a context is. -/
def expressionOf (context : Context) : Expression :=
  let function := trimString context.aggregation
  let selection := Expression.plain (selectionOf context)
  if function = "" then selection
  else if context.groupBy.isEmpty then .call function selection
  else if isAggregation function then .grouped function context.groupBy selection
  else .grouped "sum" context.groupBy (.call function selection)

theorem lexes_matchers {labels : Labels}
    (names : ∀ label ∈ labels.entries, isKeyName label.1 = true) (rest : Lexes text lexemes) :
    Lexes (matchersChars labels ++ text) (bracesLexemes labels.entries ++ lexemes) := by
  unfold matchersChars bracesLexemes Keyed.isEmpty
  split
  · exact rest
  · simp only [List.cons_append, List.append_assoc, List.nil_append]
    refine Lexes.mark rfl (Lexes.separated (fun label mem text lexemes _ rest => ?_)
      (fun text lexemes rest => ⟨rfl, .mark rfl rest⟩) rfl (.mark rfl rest))
    obtain ⟨some_char, letters⟩ := letters_of_isKeyName (names label mem)
    simp only [matcherChars, matcherLexemes, List.cons_append, List.append_assoc, List.nil_append]
    exact .word some_char letters rfl (.mark rfl (.quoted label.2 rest))

theorem lexes_window (span : TimeSpan) (rest : Lexes text lexemes) :
    Lexes (windowChars span ++ text)
      (rangeLexemes (if span.isZero then none else some span.queryText) ++ lexemes) := by
  unfold windowChars
  split
  · exact rest
  · have chars : span.queryText.toList = span.queryChars := String.toList_ofList
    have some_char : span.queryText.toList ≠ [] := by
      rw [chars]
      exact TimeSpan.queryChars_ne_nil
    have letters : ∀ c ∈ span.queryText.toList, continuesMetric c = true := by
      rw [chars]
      exact continuesMetric_queryChars
    have closing : Lexes (']' :: text) (.mark .closeBracket :: lexemes) := .mark rfl rest
    have stops : Stops (']' :: text) := rfl
    have inner := Lexes.word some_char letters stops closing
    rw [chars] at inner
    simp only [List.cons_append, List.append_assoc, List.nil_append]
    exact .mark rfl inner

/-- Labels and range of a selection begin with marks. -/
theorem stops_behind_metric (labels : Labels) (span : TimeSpan) (stops : Stops text) :
    Stops (matchersChars labels ++ (windowChars span ++ text)) := by
  unfold matchersChars windowChars
  split
  · split
    · exact stops
    · rfl
  · rfl

theorem writes_word {word : String} (name : isKeyName word = true) :
    Writes word.toList (labelLexemes word) := by
  intro text behind stops rest
  obtain ⟨some_char, letters⟩ := letters_of_isKeyName name
  exact .word some_char letters stops rest

theorem writes_selector (readable : Readable context) :
    Writes (selectorChars (trim context.mainMetric.toList) context)
      (selectionOf context).lexemes := by
  intro text behind stops rest
  obtain ⟨some_char, letters⟩ := letters_of_isMetricName readable.metric
  have selected := lexes_matchers readable.keys (lexes_window context.timeRange.span rest)
  have whole := Lexes.word some_char letters
    (stops_behind_metric context.labels context.timeRange.span stops) selected
  rw [toList_trimString] at whole
  simpa only [selectorChars, selectionOf, Selection.lexemes, List.append_assoc, List.cons_append]
    using whole

theorem Writes.parenthesised {inner : List Lexeme} (writes : Writes piece inner)
    (rest : Lexes text lexemes) :
    Lexes (parenthesised piece ++ text)
      (.mark .openParenthesis :: (inner ++ .mark .closeParenthesis :: lexemes)) := by
  simp only [Query.parenthesised, List.cons_append, List.append_assoc, List.nil_append]
  exact .mark rfl (writes rfl (.mark rfl rest))

theorem Writes.call {function : String} {argument : Expression} (name : isKeyName function = true)
    (writes : Writes piece argument.lexemes) :
    Writes (function.toList ++ Query.parenthesised piece)
      (Expression.call function argument).lexemes := by
  intro text behind _ rest
  have stops : Stops (Query.parenthesised piece ++ text) := rfl
  have applied := writes_word name stops (writes.parenthesised rest)
  simpa [Expression.lexemes, labelLexemes] using applied

theorem lexes_grouping {labels : List String} (names : ∀ label ∈ labels, isKeyName label = true)
    (rest : Lexes text lexemes) :
    Lexes (groupingChars labels ++ text)
      (.word "by" :: .mark .openParenthesis :: (separated (labels.map labelLexemes) ++
        .mark .closeParenthesis :: lexemes)) := by
  have comma : ∀ ⦃text : List Char⦄ ⦃lexemes : List Lexeme⦄, Lexes text lexemes →
      Stops ([',', ' '] ++ text) ∧ Lexes ([',', ' '] ++ text) (.mark .comma :: lexemes) :=
    fun _ _ rest => ⟨rfl, .mark rfl (.space rest)⟩
  have closing : Lexes (')' :: ' ' :: text) (.mark .closeParenthesis :: lexemes) :=
    .mark rfl (.space rest)
  have stops : Stops (')' :: ' ' :: text) := rfl
  have clause := Lexes.separated (fun label mem => writes_word (names label mem)) comma stops closing
  have opened : Lexes (' ' :: '(' :: _) (.mark .openParenthesis :: _) := .space (.mark rfl clause)
  have keyword : isKeyName "by" = true := by decide
  have key := writes_word keyword (show Stops (' ' :: _) from rfl) opened
  have start : " by (".toList = ' ' :: ("by".toList ++ [' ', '(']) := by decide
  unfold groupingChars
  rw [start]
  simp only [List.cons_append, List.append_assoc, List.nil_append]
  exact key.space

theorem Writes.grouped {operator : String} {labels : List String} {argument : Expression}
    (name : isKeyName operator = true) (names : ∀ label ∈ labels, isKeyName label = true)
    (writes : Writes piece argument.lexemes) :
    Writes (operator.toList ++ groupingChars labels ++ Query.parenthesised piece)
      (Expression.grouped operator labels argument).lexemes := by
  intro text behind _ rest
  have clause := lexes_grouping names (writes.parenthesised rest)
  have stops : Stops (groupingChars labels ++ (Query.parenthesised piece ++ text)) := rfl
  have whole := writes_word name stops clause
  simpa [Expression.lexemes, labelLexemes] using whole

/-- An aggregation operator takes a grouping clause in the language of queries. -/
theorem contains_of_isAggregation {name : String} (operator : isAggregation name = true) :
    groupingOperators.contains name = true := by
  have all : ∀ operator ∈ aggregationOperators, groupingOperators.contains operator = true := by
    decide
  exact all name (by simpa [isAggregation] using operator)

theorem hasMetric_of_isMetricName (name : isMetricName (trimString context.mainMetric) = true) :
    context.hasMetric = true := by
  cases named : context.hasMetric with
  | true => rfl
  | false =>
      rw [trimString, trim_mainMetric_eq_nil_iff.mpr named] at name
      cases name

/-- The query of a context is written as its expression. -/
theorem writes_build (readable : Readable context) :
    Writes (build context).query.toList (expressionOf context).lexemes := by
  have selector : Writes (selectorChars (trim context.mainMetric.toList) context)
    (Expression.plain (selectionOf context)).lexemes := writes_selector readable
  have either := readable.aggregation
  have chars := toList_trimString context.aggregation
  rw [toList_build_of_named (hasMetric_of_isMetricName readable.metric), queryChars, expressionOf]
  simp only [← chars, String.ofList_toList]
  -- The four shapes: no function, a function, a grouped operator, and a grouped function in a sum.
  generalize trimString context.aggregation = function at either
  by_cases plain : function = ""
  · rw [if_pos (by rw [plain]; rfl), if_pos plain]
    exact selector
  · have name := either.resolve_left plain
    rw [if_neg (by simpa using plain), if_neg plain]
    split
    · exact selector.call name
    · split
      · exact selector.grouped name readable.grouping
      · exact (selector.call name).grouped (by decide) readable.grouping

theorem proper_selectionOf (readable : Readable context) : (selectionOf context).Proper := by
  refine ⟨readable.metric, readable.keys, fun word mem => ?_⟩
  simp only [selectionOf, Option.mem_def] at mem
  split at mem
  · cases mem
  · cases mem
    have chars : context.timeRange.span.queryText.toList = context.timeRange.span.queryChars :=
      String.toList_ofList
    refine ⟨fun nothing => ?_, ?_⟩
    · rw [nothing] at chars
      exact TimeSpan.queryChars_ne_nil chars.symm
    · rw [chars]
      exact isSpanForm_queryChars

theorem proper_expressionOf (readable : Readable context) : (expressionOf context).Proper := by
  have selection : (Expression.plain (selectionOf context)).Proper := .plain (proper_selectionOf readable)
  unfold expressionOf
  dsimp only
  by_cases plain : trimString context.aggregation = ""
  · rw [if_pos plain]
    exact selection
  rw [if_neg plain]
  have name := readable.aggregation.resolve_left plain
  by_cases ungrouped : context.groupBy.isEmpty = true
  · rw [if_pos ungrouped]
    exact .call name selection
  rw [if_neg ungrouped]
  by_cases operator : isAggregation (trimString context.aggregation) = true
  · rw [if_pos operator]
    exact .grouped (contains_of_isAggregation operator) readable.grouping selection
  · rw [if_neg operator]
    exact .grouped rfl readable.grouping (.call name selection)

/-- What a query is made of. -/
structure Parts where
  aggregation : String
  grouping : List String
  selection : Selection
deriving DecidableEq, Repr

/-- What an expression of the shapes of queries is made of. A grouped sum of a function is the
function's, since the function does not take the grouping itself. -/
def Expression.parts? : Expression → Option Parts
  | .plain selection => some ⟨"", [], selection⟩
  | .call function (.plain selection) => some ⟨function, [], selection⟩
  | .grouped operator labels (.plain selection) => some ⟨operator, labels, selection⟩
  | .grouped operator labels (.call function (.plain selection)) =>
      if operator = "sum" then some ⟨function, labels, selection⟩ else none
  | _ => none

def partsOf (context : Context) : Parts where
  aggregation := trimString context.aggregation
  grouping := if trimString context.aggregation = "" then [] else context.groupBy
  selection := selectionOf context

theorem parts?_expressionOf (context : Context) :
    (expressionOf context).parts? = some (partsOf context) := by
  unfold expressionOf partsOf
  dsimp only
  split
  · next plain => simp [Expression.parts?, plain]
  · split
    · next ungrouped => simp [Expression.parts?, List.isEmpty_iff.mp ungrouped]
    · split
      · rfl
      · rfl

theorem read?_build (readable : Readable context) :
    read? (build context).query = some (expressionOf context) := by
  have whole : Lexes ((build context).query.toList ++ []) ((expressionOf context).lexemes ++ []) :=
    writes_build readable rfl .nil
  rw [List.append_nil, List.append_nil] at whole
  have read := readExpression_lexemes (proper_expressionOf readable) .done
  rw [List.append_nil] at read
  unfold read?
  rw [whole.taken, Option.bind_some, read]

/-- The range says how long the span is, to the millisecond. -/
theorem millis_eq_of_range {span other : TimeSpan} (within : span.Representable)
    (also : other.Representable)
    (same : (if span.isZero then none else some span.queryText) =
      if other.isZero then none else some other.queryText) : span.millis = other.millis := by
  have short {span : TimeSpan} (zero : span.isZero = true) : span.millis = 0 := by
    rw [TimeSpan.millis, beq_iff_eq.mp zero]
  split at same
  · next zero =>
      split at same
      · next alsoZero => rw [short zero, short alsoZero]
      · cases same
  · split at same
    · cases same
    · exact TimeSpan.millis_eq_of_queryText within also (Option.some.inj same)

/-- The query of a context is read as what the context says, and contexts with the same query say
the same. -/
theorem build_reads_back (readable : Readable context) :
    (read? (build context).query).bind Expression.parts? = some (partsOf context) ∧
      ∀ other, Readable other → (build other).query = (build context).query →
        partsOf other = partsOf context ∧
          other.timeRange.span.millis = context.timeRange.span.millis := by
  have parts {context : Context} (readable : Readable context) :
      (read? (build context).query).bind Expression.parts? = some (partsOf context) := by
    rw [read?_build readable, Option.bind_some, parts?_expressionOf]
  refine ⟨parts readable, fun other also same => ?_⟩
  have equal : partsOf other = partsOf context := by
    -- One text is read in one way.
    refine Option.some.inj ?_
    rw [← parts also, same, parts readable]
  have range := congrArg (fun parts => parts.selection.range) equal
  simp only [partsOf, selectionOf] at range
  exact ⟨equal, millis_eq_of_range also.window readable.window range⟩

/-- A grouped rate with a label value in which everything stands that ends something elsewhere. -/
def quotingContext : Context :=
  ((((Context.ofQuery "").withMetric " http:requests ").withLabel "path"
    "a\"\x7d[5m]) by (x)\\\n,b=\"").withAggregation "rate ").withGroupBy "job"

theorem readable_quotingContext : Readable quotingContext where
  metric := by decide
  aggregation := .inr (by decide)
  grouping := by decide
  keys := by decide
  window := by
    unfold TimeSpan.Representable
    decide

/-- The value is read as it is, and a longer range is another query. -/
theorem build_reads_back_quoting :
    (read? (build quotingContext).query).bind Expression.parts? =
        some ⟨"rate", ["job"], ⟨"http:requests",
          [("path", "a\"\x7d[5m]) by (x)\\\n,b=\"")], some "5m"⟩⟩ ∧
      (build (quotingContext.withWindow (.ofSeconds 5400))).query ≠
        (build quotingContext).query := by
  have also : (TimeSpan.ofSeconds 5400).Representable := by
    unfold TimeSpan.Representable
    decide
  obtain ⟨parts, apart⟩ := build_reads_back readable_quotingContext
  refine ⟨parts, fun same => ?_⟩
  have millis := (apart _ (readable_quotingContext.withWindow also) same).2
  exact absurd millis (by decide)

end PromScribe.Query

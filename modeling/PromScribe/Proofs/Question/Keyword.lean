import PromScribe.Proofs.Question.Label
import PromScribe.Proofs.Text.Neighbour
import PromScribe.Proofs.Text.Place
import PromScribe.Question.Intent

/-!
# Keywords in metric names

A keyword names an operation where it stands alone, with no word character beside it. A colon is no
word character, though names of metrics go on over it: so a keyword that stands alone is part of a
longer metric entity just where colons join it to a word.
-/

namespace PromScribe.Question

open PromScribe.Text

variable {text word front back run after : List Char}

/-- The metric of a span, behind what is in front of it. -/
structure Found (text : List Char) (span : Span Unit) (front run after : List Char) : Prop where
  split : text = front ++ (run ++ after)
  start_eq : span.start = byteLength front
  stop_eq : span.stop = byteLength front + byteLength run
  metric : MetricRun run after
  edge : atEdge (lastOf none front) (run ++ after) = true
  longest : metricLength? (run ++ after) = some run.length

theorem exists_found {span : Span Unit} (mem : span ∈ spansOf metricName text) :
    ∃ front run after, Found text span front run after := by
  obtain ⟨front, place, split, accepts, start⟩ := exists_of_mem_spansOf mem
  obtain ⟨extra, accepted, covered⟩ := accepts.accepted
  unfold metricName at accepted
  split at accepted
  · next begins =>
      obtain ⟨edge, -⟩ := Bool.and_eq_true_iff.mp begins
      obtain ⟨length, longest, same⟩ := Option.map_eq_some_iff.mp accepted
      obtain ⟨run, after, rfl, rfl, metric⟩ := exists_metricRun longest
      have size := List.length_pos_iff.mpr metric.nonempty
      have taken : span.text = run := by
        have extent : run.length - 1 = extra := congrArg Hit.extra same
        rw [covered, show extra + 1 = run.length by omega, List.take_left]
      refine ⟨front, run, after, split, start, ?_, metric, edge, longest⟩
      rw [accepts.stop_eq, start, taken]
  · cases accepted

/-- A run of metric characters from where a metric begins is not longer than its span. -/
theorem Found.byteLength_le {span : Span Unit} {longer others : List Char}
    (found : Found text span front run after) (same : run ++ after = longer ++ others)
    (metric : MetricRun longer others) : byteLength longer ≤ byteLength run := by
  obtain ⟨length, longest, covers⟩ := metric.le_metricLength?
  rw [← same, found.longest] at longest
  obtain rfl := Option.some.inj longest
  obtain ⟨more, rfl⟩ := List.prefix_of_prefix_length_le (same ▸ List.prefix_append longer others)
    (List.prefix_append run after) covers
  rw [byteLength_append]
  exact Nat.le_add_right _ _

/-- Where a metric may begin, a span lies over each run of metric characters up to a word edge. -/
theorem exists_span_over (metric : MetricRun run after)
    (starts : run.head?.any startsMetric = true)
    (edge : atEdge (lastOf none front) (run ++ after) = true) :
    ∃ span ∈ spansOf metricName (front ++ (run ++ after)),
      span.start ≤ byteLength front ∧ byteLength front + byteLength run ≤ span.stop := by
  have accepted : ∃ hit, metricName (lastOf none front) (run ++ after) = some hit := by
    obtain ⟨length, longest, -⟩ := metric.le_metricLength?
    obtain ⟨c, more, rfl⟩ := List.exists_cons_of_ne_nil metric.nonempty
    have begins : ((c :: more) ++ after).head?.any startsMetric = true := starts
    unfold metricName
    rw [edge, begins, longest]
    exact ⟨_, rfl⟩
  obtain ⟨hit, accepted⟩ := accepted
  obtain ⟨c, more, rfl⟩ := List.exists_cons_of_ne_nil metric.nonempty
  obtain ⟨span, mem, above, below⟩ := exists_mem_spansOf accepted
  refine ⟨span, mem, above, ?_⟩
  obtain ⟨lead, whole, others, found⟩ := exists_found mem
  rw [found.start_eq] at above
  rw [found.stop_eq] at below ⊢
  obtain ⟨between, rfl, goesOn⟩ := exists_of_byteLength_le found.split.symm above
  rw [byteLength_append] at below ⊢
  -- What stands between the beginning of the span and the run is of the span, and so is the run.
  obtain ⟨left, rfl, -⟩ := exists_of_byteLength_le goesOn.symm (by omega)
  have joined : MetricRun (between ++ c :: more) after := by
    refine ⟨by simp, ?_, ?_⟩
    · intro d mem
      rcases List.mem_append.mp mem with early | late
      · exact found.metric.letters d (List.mem_append_left _ early)
      · exact metric.letters d late
    · rw [List.getLast?_append_of_ne_nil _ metric.nonempty]
      exact metric.edge
  have covers := found.byteLength_le (by simpa using goesOn) joined
  rw [byteLength_append] at covers
  omega

/-- A metric entity of the text that is longer than the word lies over the word behind `front`. -/
def InLongerMetric (text : String) (word front : List Char) : Prop :=
  ∃ entity ∈ entitiesOf text, entity.kind = .metric ∧ entity.start ≤ byteLength front ∧
    byteLength front + byteLength word ≤ entity.stop ∧
      entity.start + byteLength word < entity.stop

instance (text : String) (word front : List Char) : Decidable (InLongerMetric text word front) :=
  inferInstanceAs (Decidable (∃ entity ∈ entitiesOf text, _))

theorem inLongerMetric_iff {text : String} : InLongerMetric text word front ↔
    ∃ span ∈ spansOf metricName text.toList, span.start ≤ byteLength front ∧
      byteLength front + byteLength word ≤ span.stop ∧ span.start + byteLength word < span.stop := by
  constructor
  · rintro ⟨entity, mem, metric, covers⟩
    rcases List.mem_append.mp mem with early | time
    · rcases List.mem_append.mp early with here | label
      · obtain ⟨span, member, rfl⟩ := List.mem_map.mp here
        exact ⟨span, member, covers⟩
      · obtain ⟨span, -, rfl⟩ := List.mem_map.mp label
        cases metric
    · obtain ⟨span, -, rfl⟩ := List.mem_map.mp time
      cases metric
  · rintro ⟨span, mem, covers⟩
    have member : _ ∈ metricEntities text.toList := List.mem_map_of_mem mem
    exact ⟨_, List.mem_append_left _ (List.mem_append_left _ member), rfl, covers⟩

/-- The word stands between `front` and `back`, with no word character beside it. -/
structure StandsAlone (text word front back : List Char) : Prop where
  split : text = front ++ (word ++ back)
  behind : wordBeside front.getLast? = false
  ahead : wordBeside back.head? = false

/-- Colons, and a word character behind them. -/
def ColonsThenWord (text : List Char) : Prop :=
  ∃ colons rest, text = colons ++ rest ∧ colons ≠ [] ∧ (∀ c ∈ colons, c = ':') ∧
    wordBeside rest.head? = true

/-- Colons join what stands between `front` and `back` to a word on one of its sides. -/
def Joined (front back : List Char) : Prop :=
  ColonsThenWord front.reverse ∨ ColonsThenWord back

/-- Of metric characters just the colon is no word character. -/
theorem eq_colon_of_continuesMetric {c : Char} (part : continuesMetric c = true)
    (gap : isWord c = false) : c = ':' := by
  apply (continuesMetric_iff.mp part).resolve_left
  intro key
  rw [isWord_of_continuesKey key] at gap
  cases gap

/-- Metric characters of which the first one is no word character are colons up to a word, in them
or behind them. -/
theorem colonsThenWord_append {part rest : List Char} (nonempty : part ≠ [])
    (letters : ∀ c ∈ part, continuesMetric c = true) (gap : wordBeside (part ++ rest).head? = false)
    (joins : (∀ c ∈ part, c = ':') → wordBeside rest.head? = true) :
    ColonsThenWord (part ++ rest) := by
  by_cases all : ∀ c ∈ part, c = ':'
  · exact ⟨part, rest, rfl, nonempty, all, joins all⟩
  · refine ⟨part.takeWhile (· == ':'), part.dropWhile (· == ':') ++ rest, ?_, ?_, ?_, ?_⟩
    · rw [← List.append_assoc, List.takeWhile_append_dropWhile]
    · obtain ⟨c, more, rfl⟩ := List.exists_cons_of_ne_nil nonempty
      obtain rfl := eq_colon_of_continuesMetric (letters c List.mem_cons_self) gap
      simp
    · intro c mem
      simpa using List.mem_takeWhile_imp mem
    · have other : part.dropWhile (· == ':') ≠ [] := by
        rw [Ne, List.dropWhile_eq_nil_iff]
        simpa using all
      obtain ⟨d, more, left⟩ := List.exists_cons_of_ne_nil other
      have outside := List.head_dropWhile_not (· == ':') other
      have mem : d ∈ part := (List.dropWhile_suffix _).subset (by rw [left]; exact List.mem_cons_self)
      simp only [left, List.head_cons, beq_eq_false_iff_ne] at outside
      rw [left]
      exact isWord_of_continuesKey ((continuesMetric_iff.mp (letters d mem)).resolve_right outside)

/-- What there is of a longer metric on the two sides of a word in it. -/
theorem exists_of_inLongerMetric {text : String} (split : text.toList = front ++ (word ++ back))
    (inside : InLongerMetric text word front) :
    ∃ lead between more after, front = lead ++ between ∧ back = more ++ after ∧
      MetricRun (between ++ (word ++ more)) after ∧
        atEdge lead.getLast? (between ++ (word ++ back)) = true ∧ (between ≠ [] ∨ more ≠ []) := by
  obtain ⟨span, mem, above, below, longer⟩ := inLongerMetric_iff.mp inside
  obtain ⟨lead, run, after, found⟩ := exists_found mem
  rw [found.start_eq] at above longer
  rw [found.stop_eq] at below longer
  have whole := found.split
  rw [split] at whole
  obtain ⟨between, rfl, rest⟩ := exists_of_byteLength_le whole.symm above
  rw [byteLength_append] at below
  have within : byteLength (between ++ word) ≤ byteLength run := by
    rw [byteLength_append]
    omega
  rw [← List.append_assoc] at rest
  obtain ⟨more, rfl, rfl⟩ := exists_of_byteLength_le rest.symm within
  refine ⟨lead, between, more, after, rfl, rfl, ?_, ?_, ?_⟩
  · have metric := found.metric
    rwa [List.append_assoc] at metric
  · have edge := found.edge
    rw [lastOf_none] at edge
    simpa using edge
  · rw [← not_and_or]
    rintro ⟨rfl, rfl⟩
    simp at longer

theorem continuesMetric_of_colons {colons : List Char} (all : ∀ c ∈ colons, c = ':') :
    ∀ c ∈ colons, continuesMetric c = true := by
  intro c mem
  rw [all c mem]
  rfl

theorem isWord_colon : isWord ':' = false := by decide

/-- Where colons join a word to what is in front of it, a metric begins with them at the latest. -/
theorem inLongerMetric_of_colons_behind {text : String}
    (alone : StandsAlone text.toList word front back)
    (letters : ∀ c ∈ word, continuesMetric c = true) (ends : wordBeside word.getLast? = true)
    (joined : ColonsThenWord front.reverse) : InLongerMetric text word front := by
  obtain ⟨colons, rest, turned, nonempty, all, letter⟩ := joined
  obtain rfl : front = rest.reverse ++ colons.reverse := by
    rw [← List.reverse_append, ← turned, List.reverse_reverse]
  have some_char : word ≠ [] := by
    rintro rfl
    cases ends
  have size := byteLength_pos (List.reverse_ne_nil_iff.mpr nonempty)
  have metric : MetricRun (colons.reverse ++ word) back := by
    refine ⟨by simp [nonempty], ?_, ?_⟩
    · intro c mem
      rcases List.mem_append.mp mem with early | late
      · exact continuesMetric_of_colons all c (List.mem_reverse.mp early)
      · exact letters c late
    · rw [List.getLast?_append_of_ne_nil _ some_char]
      exact (atEdge_of_behind ends).mpr alone.ahead
  obtain ⟨c, others, begins⟩ := List.exists_cons_of_ne_nil (List.reverse_ne_nil_iff.mpr nonempty)
  obtain rfl : c = ':' := all c (List.mem_reverse.mp (begins ▸ List.mem_cons_self))
  have edge : atEdge (lastOf none rest.reverse) (colons.reverse ++ word ++ back) = true := by
    rw [lastOf_none, List.getLast?_reverse]
    apply (atEdge_of_behind letter).mpr
    rw [begins]
    exact isWord_colon
  have starts : (colons.reverse ++ word).head?.any startsMetric = true := by
    rw [begins]
    rfl
  obtain ⟨span, mem, above, below⟩ := exists_span_over metric starts edge
  rw [inLongerMetric_iff, alone.split]
  rw [byteLength_append] at below
  refine ⟨span, by simpa using mem, ?_⟩
  rw [byteLength_append]
  omega

/-- Where colons join a word to what is behind it, the metric goes on over them. -/
theorem inLongerMetric_of_colons_ahead {text : String}
    (alone : StandsAlone text.toList word front back)
    (letters : ∀ c ∈ word, continuesMetric c = true) (starts : word.head?.any startsKey = true)
    (joined : ColonsThenWord back) : InLongerMetric text word front := by
  obtain ⟨colons, rest, rfl, nonempty, all, letter⟩ := joined
  obtain ⟨c, others, rfl⟩ : ∃ c others, word = c :: others := by
    cases word with
    | nil => cases starts
    | cons c others => exact ⟨c, others, rfl⟩
  have size := byteLength_pos nonempty
  have metric : MetricRun ((c :: others) ++ colons) rest := by
    refine ⟨by simp, ?_, ?_⟩
    · intro d mem
      rcases List.mem_append.mp mem with early | late
      · exact letters d early
      · exact continuesMetric_of_colons all d late
    · rw [List.getLast?_append_of_ne_nil _ nonempty, List.getLast?_eq_some_getLast nonempty,
        all _ (List.getLast_mem nonempty)]
      exact (atEdge_of_ahead letter).mpr isWord_colon
  have begins : startsKey c = true := starts
  have edge : atEdge (lastOf none front) ((c :: others) ++ colons ++ rest) = true := by
    rw [lastOf_none]
    apply (atEdge_of_ahead _).mpr alone.behind
    exact isWord_of_startsKey begins
  have first : ((c :: others) ++ colons).head?.any startsMetric = true := by
    simp [startsMetric, begins]
  obtain ⟨span, mem, above, below⟩ := exists_span_over metric first edge
  rw [inLongerMetric_iff, alone.split]
  rw [byteLength_append] at below
  refine ⟨span, by simpa using mem, above, ?_⟩
  omega

/-- A word of metric characters that stands alone is part of a longer metric entity just where
colons join it to a word. -/
theorem inLongerMetric_iff_joined {text : String} (alone : StandsAlone text.toList word front back)
    (letters : ∀ c ∈ word, continuesMetric c = true) (starts : word.head?.any startsKey = true)
    (ends : wordBeside word.getLast? = true) : InLongerMetric text word front ↔ Joined front back := by
  constructor
  · intro inside
    obtain ⟨lead, between, more, after, rfl, rfl, metric, edge, either⟩ :=
      exists_of_inLongerMetric alone.split inside
    rcases either with earlier | later
    · left
      rw [List.reverse_append]
      apply colonsThenWord_append (by simpa using earlier)
      · intro c mem
        exact metric.letters c (List.mem_append_left _ (List.mem_reverse.mp mem))
      · rw [← List.reverse_append, List.head?_reverse]
        exact alone.behind
      · intro all
        obtain ⟨c, others, rfl⟩ := List.exists_cons_of_ne_nil earlier
        obtain rfl := all c (by simp)
        -- A metric begins with a colon only behind a word character.
        have gap : wordBeside (':' :: others ++ (word ++ (more ++ after))).head? = false :=
          isWord_colon
        unfold atEdge at edge
        rw [gap] at edge
        rw [List.head?_reverse]
        simpa using edge
    · right
      apply colonsThenWord_append later
      · intro c mem
        exact metric.letters c (List.mem_append_right _ (List.mem_append_right _ mem))
      · exact alone.ahead
      · intro all
        obtain ⟨others, c, rfl⟩ := (List.eq_nil_or_concat' more).resolve_left later
        obtain rfl := all c (by simp)
        -- A metric ends with a colon only in front of a word character.
        have gap : wordBeside (some ':') = false := isWord_colon
        have last := metric.edge
        rw [← List.append_assoc, ← List.append_assoc, List.getLast?_concat] at last
        unfold atEdge at last
        rw [gap] at last
        simpa using last
  · rintro (behind | ahead)
    · exact inLongerMetric_of_colons_behind alone letters ends behind
    · exact inLongerMetric_of_colons_ahead alone letters starts ahead

/-- What is no metric character is part of no metric. -/
theorem not_inLongerMetric {text : String} {c : Char}
    (split : text.toList = front ++ (word ++ back)) (mem : c ∈ word)
    (other : continuesMetric c = false) : ¬ InLongerMetric text word front := by
  intro inside
  obtain ⟨lead, between, more, after, -, -, metric, -, -⟩ := exists_of_inLongerMetric split inside
  have part := metric.letters c (List.mem_append_right _ (List.mem_append_left _ mem))
  rw [other] at part
  cases part

/-- Keywords begin and end with word characters; those of one word are made as metrics are. -/
theorem letters_of_keyword {operation : Operation} {keyword : String}
    (mem : keyword ∈ operation.keywords) :
    wordBeside keyword.toList.head? = true ∧ wordBeside keyword.toList.getLast? = true ∧
      (' ' ∉ keyword.toList → keyword.toList.head?.any startsKey = true ∧
        keyword.toList.all continuesMetric = true) := by
  revert keyword
  cases operation <;> decide

/-- Keywords are named where one of them stands alone. -/
theorem namesAny_keywords_iff {operation : Operation} : namesAny operation.keywords text = true ↔
    ∃ keyword ∈ operation.keywords, ∃ front back, StandsAlone text keyword.toList front back := by
  have proper : ∀ phrase ∈ operation.keywords.map String.toList,
      wordBeside phrase.head? = true ∧ wordBeside phrase.getLast? = true := by
    rw [List.forall_mem_map]
    intro keyword mem
    obtain ⟨first, last, -⟩ := letters_of_keyword mem
    exact ⟨first, last⟩
  unfold namesAny
  rw [anywhere_iff]
  constructor
  · rintro ⟨front, c, rest, rfl, accepted⟩
    obtain ⟨phrase, member, back, same, outside, ends⟩ := (exists_wholeWords_iff proper).mp accepted
    obtain ⟨keyword, mem, rfl⟩ := List.mem_map.mp member
    rw [lastOf_none] at outside
    exact ⟨keyword, mem, front, back, by rw [same], outside, ends⟩
  · rintro ⟨keyword, mem, front, back, alone⟩
    have member : keyword.toList ∈ operation.keywords.map String.toList := List.mem_map_of_mem mem
    obtain ⟨c, rest, same⟩ : ∃ c rest, keyword.toList ++ back = c :: rest := by
      cases chars : keyword.toList with
      | nil =>
          have first := (proper _ member).1
          rw [chars] at first
          cases first
      | cons c rest => exact ⟨c, rest ++ back, rfl⟩
    refine ⟨front, c, rest, by rw [← same, alone.split], ?_⟩
    apply (exists_wholeWords_iff proper).mpr
    exact ⟨_, member, back, same.symm, by rw [lastOf_none]; exact alone.behind, alone.ahead⟩

/-- An operation that a text asks for has a keyword that stands alone in the text. Wherever one of
its keywords stands alone, it is part of a longer metric entity just if it is one word and colons
join it to another one. -/
theorem named_operation {question : String} {operation : Operation}
    (named : (Intent.ofText question).operation = some operation) :
    (∃ keyword ∈ operation.keywords, ∃ front back,
      StandsAlone (lower question.toList) keyword.toList front back) ∧
      ∀ keyword ∈ operation.keywords, ∀ front back,
        StandsAlone (lower question.toList) keyword.toList front back →
          (InLongerMetric (lowerString question) keyword.toList front ↔
            ' ' ∉ keyword.toList ∧ Joined front back) := by
  constructor
  · have found : Operation.all.find? (fun operation =>
        namesAny operation.keywords (lower question.toList)) = some operation := named
    have chosen := List.find?_some found
    exact namesAny_keywords_iff.mp chosen
  · intro keyword mem front back alone
    obtain ⟨-, last, single⟩ := letters_of_keyword mem
    have chars : (lowerString question).toList = lower question.toList := String.toList_ofList
    rw [← chars] at alone
    by_cases gap : ' ' ∈ keyword.toList
    · have apart := not_inLongerMetric alone.split gap (by decide)
      simp [gap, apart]
    · obtain ⟨first, letters⟩ := single gap
      rw [inLongerMetric_iff_joined alone (List.all_eq_true.mp letters) first last]
      simp [gap]

/-- The operation stands twice in the text, once behind a colon as a part of a metric. -/
theorem named_operation_twice :
    (Intent.ofText "Rate of node:rate").operation = some .rate ∧
      ¬ InLongerMetric (lowerString "Rate of node:rate") "rate".toList [] ∧
        InLongerMetric (lowerString "Rate of node:rate") "rate".toList "rate of node:".toList := by
  have named : (Intent.ofText "Rate of node:rate").operation = some .rate := by decide +kernel
  have each := (named_operation named).2 "rate" (by decide)
  have first := each [] " of node:rate".toList ⟨by decide +kernel, by decide, by decide⟩
  have second := each "rate of node:".toList [] ⟨by decide +kernel, by decide, by decide⟩
  refine ⟨named, ?_, second.mpr ⟨by decide, .inl ?_⟩⟩
  · rw [first]
    rintro ⟨-, ⟨colons, rest, split, nonempty, -⟩ | ⟨colons, rest, split, nonempty, all, -⟩⟩
    · exact nonempty (List.append_eq_nil_iff.mp split.symm).1
    · obtain ⟨c, others, rfl⟩ := List.exists_cons_of_ne_nil nonempty
      obtain rfl := all c List.mem_cons_self
      cases split
  · exact ⟨[':'], "edon fo etar".toList, by decide, by decide, by simp, by decide⟩

/-- An operation is named although its keywords stand nowhere but within a longer metric entity. -/
theorem exists_operation_in_metric : ∃ (question : String) (operation : Operation),
    (Intent.ofText question).operation = some operation ∧
      ∀ keyword ∈ operation.keywords, ∀ front back,
        lower question.toList = front ++ (keyword.toList ++ back) →
          InLongerMetric (lowerString question) keyword.toList front := by
  have named : (Intent.ofText "instance:node_cpu:rate").operation = some .rate := by decide +kernel
  have chars : lower "instance:node_cpu:rate".toList = "instance:node_cpu:rate".toList := by
    decide +kernel
  have places : ∀ keyword ∈ Operation.rate.keywords,
      ∀ place ∈ List.range ("instance:node_cpu:rate".length + 1),
        keyword.toList <+: "instance:node_cpu:rate".toList.drop place →
          InLongerMetric (lowerString "instance:node_cpu:rate") keyword.toList
            ("instance:node_cpu:rate".toList.take place) := by
    decide +kernel
  refine ⟨"instance:node_cpu:rate", .rate, named, ?_⟩
  intro keyword mem front back split
  rw [chars] at split
  have within : front.length ∈ List.range ("instance:node_cpu:rate".length + 1) := by
    have length := congrArg List.length split
    rw [List.length_append, String.length_toList] at length
    rw [List.mem_range]
    omega
  have here := places keyword mem front.length within
  rw [split, List.drop_left, List.take_left] at here
  exact here (List.prefix_append _ _)

end PromScribe.Question

import PromScribe.Proofs.Question.Keyword
import PromScribe.Proofs.Question.Mention

/-!
# Places of entities

An entity is a slice of the text at its place, and the entities of one kind follow each other. An
identifier that no word character and no colon touches is a metric entity: a longer run of metric
characters would go on over one of its sides.
-/

namespace PromScribe.Question

open PromScribe.Text

variable {α : Type} {recognise : Recogniser α} {span : Span α}
variable {text front back slice other name : List Char} {start stop : Nat} {entity : Entity}

/-- The characters of a text between two places, which are counted in bytes. -/
def IsSlice (text : List Char) (start stop : Nat) (slice : List Char) : Prop :=
  ∃ front back, text = front ++ (slice ++ back) ∧ start = byteLength front ∧
    stop = start + byteLength slice

/-- There is one slice between two places. -/
theorem IsSlice.unique (one : IsSlice text start stop slice) (two : IsSlice text start stop other) :
    slice = other := by
  obtain ⟨front, back, split, begins, ends⟩ := one
  obtain ⟨lead, tail, again, also, last⟩ := two
  obtain ⟨between, rfl, rest⟩ := exists_of_byteLength_le (split.symm.trans again)
    (by omega : byteLength front ≤ byteLength lead)
  obtain rfl : between = [] := by
    by_contra some_char
    have size := byteLength_pos some_char
    rw [byteLength_append] at also
    omega
  rw [List.nil_append] at rest
  obtain ⟨more, rfl, -⟩ := exists_of_byteLength_le rest
    (by omega : byteLength slice ≤ byteLength other)
  obtain rfl : more = [] := by
    by_contra some_char
    have size := byteLength_pos some_char
    rw [byteLength_append] at last
    omega
  exact (List.append_nil slice).symm

/-- The span of an accepted run is a slice of the text. -/
theorem isSlice_of_mem_spansOf (mem : span ∈ spansOf recognise text) :
    IsSlice text span.start span.stop span.text ∧ span.text ≠ [] := by
  obtain ⟨front, place, split, accepts, begins⟩ := exists_of_mem_spansOf mem
  obtain ⟨extra, -, taken⟩ := accepts.accepted
  refine ⟨⟨front, place.drop (extra + 1), ?_, begins, accepts.stop_eq⟩, ?_⟩
  · rw [taken, List.take_append_drop, split]
  · obtain ⟨c, rest, rfl⟩ := List.exists_cons_of_ne_nil accepts.nonempty
    simp [taken]

/-- The entity says what stands at its place: the slice itself, or for a label the key that the
slice begins with and a value. -/
structure Exact (text : List Char) (entity : Entity) (slice : List Char) : Prop where
  isSlice : IsSlice text entity.start entity.stop slice
  nonempty : slice ≠ []
  value_eq : entity.kind ≠ .label → entity.value.toList = slice
  labelPair : entity.kind = .label → ∃ key value, entity.labelPair? = some (key, value) ∧
    key.toList <+: slice ∧ entity.value = key ++ "=" ++ value

/-- An accepted pair begins with its key, which has no equals sign in it. -/
theorem key_of_labelPair {before : Option Char} {hit : Hit (List Char × List Char)}
    (found : labelPair before text = some hit) :
    hit.value.1 <+: text.take (hit.extra + 1) ∧ '=' ∉ hit.value.1 := by
  unfold labelPair at found
  dsimp only at found
  split at found
  · split at found
    · obtain rfl := Option.some.inj found
      refine ⟨List.prefix_take_iff.mpr ⟨List.takeWhile_prefix _, ?_⟩, fun sign => ?_⟩
      · dsimp only
        omega
      · have part : continuesKey '=' = true := List.mem_takeWhile_imp sign
        exact absurd part (by decide)
    · cases found
  · cases found

theorem exact_of_mem_labelEntities (mem : entity ∈ labelEntities text) :
    ∃ slice, Exact text entity slice := by
  obtain ⟨span, member, rfl⟩ := List.mem_map.mp mem
  obtain ⟨isSlice, nonempty⟩ := isSlice_of_mem_spansOf member
  obtain ⟨front, place, -, accepts, -⟩ := exists_of_mem_spansOf member
  obtain ⟨extra, accepted, taken⟩ := accepts.accepted
  obtain ⟨begins, apart⟩ := key_of_labelPair accepted
  refine ⟨span.text, isSlice, nonempty, fun other => absurd rfl other, fun _ => ?_⟩
  refine ⟨String.ofList span.value.1, String.ofList span.value.2, ?_, ?_, ?_⟩
  · simp [Entity.labelPair?, splitAtFirst?_of_not_mem apart]
  · rw [String.toList_ofList, taken]
    exact begins
  · apply String.toList_inj.mp
    simp

theorem exact_of_mem_entitiesOf {question : String} (mem : entity ∈ entitiesOf question) :
    ∃ slice, Exact question.toList entity slice := by
  have plain {span : Span Unit} {recognise : Recogniser Unit} {kind : EntityKind}
      (member : span ∈ spansOf recognise question.toList) (noLabel : kind ≠ .label) :
      ∃ slice, Exact question.toList ⟨kind, String.ofList span.text, span.start, span.stop⟩
        slice := by
    obtain ⟨isSlice, nonempty⟩ := isSlice_of_mem_spansOf member
    exact ⟨span.text, isSlice, nonempty, fun _ => String.toList_ofList, fun label =>
      absurd label noLabel⟩
  rcases List.mem_append.mp mem with early | time
  · rcases List.mem_append.mp early with metric | label
    · obtain ⟨span, member, rfl⟩ := List.mem_map.mp metric
      exact plain member (by decide)
    · exact exact_of_mem_labelEntities label
  · obtain ⟨span, member, rfl⟩ := List.mem_map.mp time
    exact plain member (by decide)

/-- The entities are of one kind, none of them is empty, and they follow each other. -/
structure InOrder (kind : EntityKind) (entities : List Entity) : Prop where
  kind_eq : ∀ entity ∈ entities, entity.kind = kind
  nonempty : ∀ entity ∈ entities, entity.start < entity.stop
  apart : entities.Pairwise fun first second => first.stop ≤ second.start

/-- Entities of one kind that are made of the spans of a sweep are in order. -/
theorem inOrder_map_spansOf {kind : EntityKind} (value : Span α → String) :
    InOrder kind ((spansOf recognise text).map fun span =>
      ⟨kind, value span, span.start, span.stop⟩) := by
  refine ⟨fun entity mem => ?_, fun entity mem => ?_, ?_⟩
  · obtain ⟨span, -, rfl⟩ := List.mem_map.mp mem
    rfl
  · obtain ⟨span, member, rfl⟩ := List.mem_map.mp mem
    obtain ⟨⟨front, back, -, -, ends⟩, nonempty⟩ := isSlice_of_mem_spansOf member
    have size := byteLength_pos nonempty
    dsimp only
    omega
  · exact List.pairwise_map.mpr (pairwise_spansFrom 0 _)

/-- Nothing that would go on with an identifier. -/
def Unjoined (neighbour : Option Char) : Prop :=
  ∀ c ∈ neighbour, isWord c = false ∧ c ≠ ':'

theorem Unjoined.wordBeside {neighbour : Option Char} (unjoined : Unjoined neighbour) :
    wordBeside neighbour = false := by
  cases neighbour with
  | none => rfl
  | some c => exact (unjoined c rfl).1

theorem Unjoined.continuesMetric {c : Char} (unjoined : Unjoined (some c)) :
    continuesMetric c = false := by
  obtain ⟨gap, noColon⟩ := unjoined c rfl
  refine eq_false_of_ne_true fun part => noColon ?_
  exact eq_colon_of_continuesMetric part gap

/-- An identifier between such neighbours is in no longer metric. -/
theorem not_inLongerMetric_of_unjoined {question : String}
    (split : question.toList = front ++ (name ++ back)) (behind : Unjoined front.getLast?)
    (ahead : Unjoined back.head?) : ¬ InLongerMetric question name front := by
  intro inside
  obtain ⟨lead, between, more, after, rfl, rfl, metric, -, either⟩ :=
    exists_of_inLongerMetric split inside
  rcases either with earlier | later
  · have last := List.getLast?_eq_some_getLast earlier
    rw [List.getLast?_append_of_ne_nil _ earlier, last] at behind
    have part := metric.letters _ (List.mem_append_left _ (List.getLast_mem earlier))
    rw [behind.continuesMetric] at part
    cases part
  · obtain ⟨c, others, rfl⟩ := List.exists_cons_of_ne_nil later
    have part := metric.letters c (by simp)
    rw [Unjoined.continuesMetric ahead] at part
    cases part

/-- An identifier between such neighbours is a metric entity at its place. -/
theorem mem_entitiesOf_of_unjoined {question : String}
    (split : question.toList = front ++ (name ++ back)) (metric : IsMetricName name)
    (behind : Unjoined front.getLast?) (ahead : Unjoined back.head?) :
    ⟨.metric, String.ofList name, byteLength front, byteLength front + byteLength name⟩ ∈
      entitiesOf question := by
  have letters : wordBeside (name ++ back).head? = true := by
    have begins := metric.begins
    cases name with
    | nil => cases begins
    | cons c name => exact isWord_of_startsKey begins
  have starts : name.head?.any startsMetric = true := by
    have begins := metric.begins
    cases name with
    | nil => cases begins
    | cons c name =>
        have key : startsKey c = true := begins
        simp [startsMetric, key]
  have edge : atEdge (lastOf none front) (name ++ back) = true := by
    rw [lastOf_none]
    exact (atEdge_of_ahead letters).mpr behind.wordBeside
  have run : MetricRun name back :=
    ⟨metric.nonempty, metric.letters, (atEdge_of_behind metric.wordBeside_getLast?).mpr
      ahead.wordBeside⟩
  obtain ⟨span, mem, above, below⟩ := exists_span_over run starts edge
  rw [← split] at mem
  have longer : ¬ span.start + byteLength name < span.stop := fun longer =>
    not_inLongerMetric_of_unjoined split behind ahead
      (inLongerMetric_iff.mpr ⟨span, mem, above, below, longer⟩)
  have start_eq : span.start = byteLength front := by omega
  have stop_eq : span.stop = byteLength front + byteLength name := by omega
  have whole : IsSlice question.toList span.start span.stop name :=
    ⟨front, back, split, start_eq, by rw [stop_eq, start_eq]⟩
  have same : span.text = name := (isSlice_of_mem_spansOf mem).1.unique whole
  refine List.mem_append_left _ (List.mem_append_left _ (List.mem_map.mpr ⟨span, mem, ?_⟩))
  rw [same, start_eq, stop_eq]

/-- The entities of a text are its metrics, its labels and its times, each kind in order and each
entity a slice at its place; every identifier that nothing goes on with is among the metrics. -/
theorem entitiesOf_exact (question : String) :
    (∃ metrics labels times, entitiesOf question = metrics ++ labels ++ times ∧
      InOrder .metric metrics ∧ InOrder .label labels ∧ InOrder .time times) ∧
    (∀ entity ∈ entitiesOf question, ∃ slice, Exact question.toList entity slice) ∧
    ∀ front name back, question.toList = front ++ (name ++ back) → IsMetricName name →
      Unjoined front.getLast? → Unjoined back.head? →
        ⟨.metric, String.ofList name, byteLength front, byteLength front + byteLength name⟩ ∈
          entitiesOf question := by
  refine ⟨⟨_, _, _, rfl, inOrder_map_spansOf _, inOrder_map_spansOf _, inOrder_map_spansOf _⟩,
    fun entity mem => exact_of_mem_entitiesOf mem, ?_⟩
  intro front name back split metric behind ahead
  exact mem_entitiesOf_of_unjoined split metric behind ahead

/-- An arrow touches the identifier on both sides, and counts three bytes. -/
theorem entitiesOf_exact_arrows : ⟨.metric, "up", 6, 8⟩ ∈ entitiesOf "é →up→" := by
  have metric : IsMetricName ['u', 'p'] :=
    ⟨by decide, List.all_eq_true.mp (by decide), by decide⟩
  have arrow : Unjoined (some '→') := by
    rintro c ⟨⟩
    decide +kernel
  exact (entitiesOf_exact "é →up→").2.2 ['é', ' ', '→'] ['u', 'p'] ['→'] rfl metric arrow arrow

end PromScribe.Question

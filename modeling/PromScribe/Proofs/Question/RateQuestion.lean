import PromScribe.Proofs.Question.RuleEntities
import PromScribe.Proofs.Question.RuleIntent

/-!
# Questions with a window in query form

Questions for the rate of a metric whose window is written as spans are written in queries, as in
`rate of requests over 1h30m`. Every word stays as it is, and the window is a duration just if it is
one number with a unit.
-/

namespace PromScribe.Question

open PromScribe.Text Token

/-- The rate of a metric over a span. -/
structure RateQuestion where
  metric : String
  span : TimeSpan

namespace RateQuestion

variable {question : RateQuestion} {α : Type} {recognise : Recogniser α}

/-- The question as it is asked. -/
def text (question : RateQuestion) : String :=
  "rate of " ++ question.metric ++ " over " ++ question.span.queryText

/-- The metric is an identifier, and the span has milliseconds and is within the supported range. -/
structure Valid (question : RateQuestion) : Prop where
  metric : IsIdentifier question.metric
  positive : 1 ≤ question.span.millis
  within : question.span.Representable

/-- The words between the operation and the window. -/
def frontTokens (question : RateQuestion) : List Token :=
  [(' ', "of".toList), (' ', question.metric.toList), (' ', "over".toList)]

/-- All words behind the operation. -/
def tokens (question : RateQuestion) : List Token :=
  question.frontTokens ++ [(' ', question.span.queryText.toList)]

theorem toList_text (question : RateQuestion) :
    question.text.toList = "rate".toList ++ written question.tokens := by
  simp [text, tokens, frontTokens]

theorem isLabelText_queryText (span : TimeSpan) : IsLabelText span.queryText := by
  unfold IsLabelText TimeSpan.queryText
  rw [String.toList_ofList]
  refine ⟨span.queryChars_ne_nil, fun c mem => ?_⟩
  have letters : ['d', 'h', 'm', 's'].all continuesLabel = true := by decide
  rcases span.mem_queryChars mem with digit | letter
  · exact continuesLabel_of_isDigit digit
  · exact List.all_eq_true.mp letters c letter

theorem plain_frontTokens (valid : question.Valid) :
    ∀ token ∈ question.frontTokens, PlainToken token := by
  simp only [frontTokens, List.mem_cons, List.not_mem_nil, or_false]
  rintro token (rfl | rfl | rfl)
  · exact IsLabelText.plainToken (by decide) (.inl rfl)
  · exact (isLabelText_of_isIdentifier valid.metric).plainToken (.inl rfl)
  · exact IsLabelText.plainToken (by decide) (.inl rfl)

theorem plain_tokens (valid : question.Valid) : ∀ token ∈ question.tokens, PlainToken token := by
  intro token mem
  rcases List.mem_append.mp mem with front | last
  · exact plain_frontTokens valid token front
  · rw [List.mem_singleton.mp last]
    exact (isLabelText_queryText question.span).plainToken (.inl rfl)

theorem proper_tokens (valid : question.Valid) : ∀ token ∈ question.tokens, token.Proper :=
  fun token mem => (plain_tokens valid token mem).proper

theorem letters_rate : ∀ c ∈ "rate".toList, continuesLabel c = true :=
  List.all_eq_true.mp (by decide)

theorem isWord_rate : ∀ c ∈ "rate".toList, isWord c = true := List.all_eq_true.mp (by decide)

/-- The question has no capitals. -/
theorem lower_text (valid : question.Valid) :
    lower question.text.toList = question.text.toList := by
  rw [toList_text]
  exact lower_written (plain_tokens valid) letters_rate

/-- No spelled-out unit is written with the letters of the query form. -/
theorem unspelled_queryText (span : TimeSpan) :
    ∀ unit ∈ unitWords, span.queryText.toList.dropWhile Char.isDigit ≠ unit.toList := by
  have foreign : ∀ unit ∈ unitWords,
      unit.toList.any (fun c => !c.isDigit && !(['d', 'h', 'm', 's'].contains c)) = true := by decide
  intro unit mem same
  obtain ⟨c, member, apart⟩ := List.any_eq_true.mp (foreign unit mem)
  obtain ⟨noDigit, other⟩ := Bool.and_eq_true_iff.mp apart
  rw [← same, TimeSpan.queryText, String.toList_ofList] at member
  rcases span.mem_queryChars ((List.dropWhile_suffix _).subset member) with digit | letter
  · rw [digit] at noDigit
    cases noDigit
  · rw [List.contains_iff_mem.mpr letter] at other
    cases other

/-- What holds at words without digits at their head holds in front of the window. -/
theorem eachPlace_frontTokens {holds : List Char → List Char → Prop} {tail : List Char}
    (valid : question.Valid) (ends : wordBeside tail.head? = false)
    (atWord : ∀ text rest, IsLabelText text → text.toList.takeWhile Char.isDigit = [] →
      wordBeside rest.head? = false → holds text.toList rest) :
    EachPlace holds tail question.frontTokens := by
  have proper := fun token mem => (plain_frontTokens valid token mem).proper
  refine EachPlace.of_ends proper ends ⟨?_, ?_, ?_, trivial⟩
  · exact atWord "of" _ (by decide) (by decide)
  · exact atWord question.metric _ (isLabelText_of_isIdentifier valid.metric)
      (takeWhile_of_isIdentifier valid.metric)
  · exact atWord "over" _ (by decide) (by decide)

/-- A timely recogniser accepts none of the words in front of the window. -/
theorem misses_front {tail : List Char} (timely : Timely recognise) (valid : question.Valid)
    (ends : wordBeside tail.head? = false) :
    Misses recognise "rate".toList (written question.frontTokens ++ tail) ∧
      EachPlace (Misses recognise) tail question.frontTokens := by
  have proper := fun token mem => (plain_frontTokens valid token mem).proper
  have early (text : String) (rest : List Char) (label : IsLabelText text)
      (headless : text.toList.takeWhile Char.isDigit = []) (ends : wordBeside rest.head? = false) :
      Misses recognise text.toList rest :=
    timely text rest label (not_namesTime_of_takeWhile headless) (.inl headless) ends
  exact ⟨early "rate" _ (by decide) (by decide) (ends_written proper ends),
    eachPlace_frontTokens valid ends early⟩

/-- Where the window is not accepted either, nothing is. -/
theorem sweep_text (starts : StartsWords recognise) (timely : Timely recognise)
    (valid : question.Valid) (misses : Misses recognise question.span.queryText.toList []) :
    sweep recognise question.text.toList = question.text.toList.map .plain := by
  have ends : wordBeside (written [(' ', question.span.queryText.toList)]).head? = false := rfl
  obtain ⟨first, front⟩ := misses_front timely valid ends
  rw [← written_append] at first
  rw [toList_text]
  refine sweep_plain starts isWord_rate (proper_tokens valid)
    first (eachPlace_append.mpr ⟨?_, by simpa using misses, trivial⟩)
  rwa [List.append_nil]

/-- Where the window is accepted, it is the only run. -/
theorem sweep_text_of_hits {value : α} (starts : StartsWords recognise) (timely : Timely recognise)
    (valid : question.Valid)
    (hits : recognise (some ' ') question.span.queryText.toList =
      some ⟨question.span.queryText.toList.length - 1, value⟩) :
    sweep recognise question.text.toList =
      ("rate".toList ++ written question.frontTokens).map .plain ++
        [.plain ' ', .hit question.span.queryText.toList value] := by
  have ends : wordBeside (' ' :: question.span.queryText.toList).head? = false := rfl
  obtain ⟨first, front⟩ := misses_front timely valid ends
  have split : question.text.toList =
      "rate".toList ++ (written question.frontTokens ++ ' ' :: question.span.queryText.toList) := by
    rw [toList_text]
    simp [tokens]
  rw [split, sweep_written starts isWord_rate
    (fun token mem => (plain_frontTokens valid token mem).proper) ends first front,
    sweepFrom_last starts (by decide) (isLabelText_queryText question.span).1 hits]

/-- A foreign phrase stands at none of the words. -/
theorem absent_of_foreign {phrase : List Char} (foreign : Foreign phrase) (valid : question.Valid) :
    Absent phrase "rate".toList question.tokens := by
  have proper := proper_tokens valid
  have atFixed {word : String} {rest : List Char} (label : IsLabelText word)
      (fixed : word ∈ ["of", "with", "over"] ++ operationWords.map Prod.fst)
      (ends : wordBeside rest.head? = false) : ¬ Stands phrase (word.toList ++ rest) :=
    not_stands_of_first foreign.begins label.isWord ends (foreign.2.1 word fixed)
  refine ⟨foreign.wordBeside_head?, atFixed (by decide) (by decide) (wordBeside_written proper),
    EachPlace.of_ends proper rfl ⟨?_, ?_, ?_, ?_, trivial⟩⟩
  · exact atFixed (by decide) (by decide)
  · intro ends
    have follows : Follows (written [(' ', "over".toList), (' ', question.span.queryText.toList)] ++
        []) := .inr (.inr ⟨_, rfl⟩)
    exact not_stands_of_more foreign.begins (isLabelText_of_isIdentifier valid.metric).isWord ends
      (foreign.not_prefix_of_follows follows)
  · exact atFixed (by decide) (by decide)
  · intro ends
    refine not_stands_of_first foreign.begins (isLabelText_queryText question.span).isWord ends ?_
    have digit : question.span.queryChars.head?.any Char.isDigit = true :=
      TimeSpan.head?_queryChars
    rw [TimeSpan.queryText, String.toList_ofList]
    cases split : question.span.queryChars with
    | nil => exact absurd split TimeSpan.queryChars_ne_nil
    | cons c rest =>
        rw [split] at digit
        exact takeWhile_ne_of_digit foreign.1 digit

theorem foldPhrases_text (valid : question.Valid) :
    foldPhrases question.text.toList = question.text.toList := by
  rw [toList_text]
  exact foldPhrases_written isWord_rate
    (proper_tokens valid)
    fun phrase mem => absent_of_foreign (foreign_phrases phrase mem) valid

theorem misses_spelledDuration_window (span : TimeSpan) :
    Misses spelledDuration span.queryText.toList [] :=
  misses_spelledDuration (isLabelText_queryText span) (fun _ => unspelled_queryText span)
    (.inr (.inl rfl)) rfl

/-- The question is in its canonical wording. -/
theorem canonical_text (valid : question.Valid) : canonical question.text = question.text := by
  have folded : foldDurations question.text.toList = question.text.toList :=
    rewriteWith_of_plain (sweep_text startsWords_spelledDuration timely_spelledDuration valid
      (misses_spelledDuration_window question.span))
  have spaced : singleSpaced question.text.toList = question.text.toList := by
    rw [toList_text]
    exact singleSpaced_written (plain_tokens valid) (by decide) letters_rate
  unfold canonical canonicalText
  rw [lower_text valid, foldPhrases_text valid, folded, spaced, String.ofList_toList]

/-- The question names a rate. -/
theorem operation_text (valid : question.Valid) :
    (Intent.ofText question.text).operation = some .rate := by
  have proper := proper_tokens valid
  have named : namesAny Operation.rate.keywords question.text.toList = true := by
    rw [toList_text]
    exact anywhere_wholeWords (by decide) (by decide)
      isWord_rate (wordBeside_written proper)
  unfold Intent.ofText
  dsimp only
  rw [lower_text valid]
  exact List.find?_cons_of_pos named

/-- Where the window is no number with a unit, no time frame is named. -/
theorem timeFrame_text (valid : question.Valid) (compound : ¬ NamesTime question.span.queryText) :
    (Intent.ofText question.text).timeFrame = none := by
  have proper := proper_tokens valid
  unfold Intent.ofText
  dsimp only
  rw [lower_text valid, List.find?_eq_none]
  intro frame mem
  rw [toList_text, namesAny_of_absent isWord_rate
    proper fun keyword member => ?_]
  · exact Bool.false_ne_true
  -- A keyword that is not foreign is a number with a unit, and could only be the window.
  rcases RuleQuestion.timeFrame_apart frame mem keyword member with foreign | ⟨single, number, unit, known, split⟩
  · exact absent_of_foreign foreign valid
  have apart {word : String} (headless : word.toList.takeWhile Char.isDigit = []) :
      keyword.toList ≠ word.toList := by
    intro same
    rw [same] at number
    exact number headless
  have nonempty : keyword.toList ≠ [] := fun empty => number (by rw [empty]; rfl)
  refine Absent.of_ne single nonempty isWord_rate
    proper (apart (by decide)) ?_
  simp only [tokens, frontTokens, List.cons_append, List.nil_append, List.mem_cons,
    List.not_mem_nil, or_false]
  rintro token (rfl | rfl | rfl | rfl)
  · exact apart (by decide)
  · exact apart (takeWhile_of_isIdentifier valid.metric)
  · exact apart (by decide)
  · intro same
    obtain rfl : keyword = question.span.queryText := String.toList_inj.mp same
    exact compound (namesTime_iff.mpr ⟨number, unit, known, split⟩)

theorem knownMetric?_text {snapshot : Snapshot} (valid : question.Valid)
    (known : snapshot.contains question.metric = true) (operation : snapshot.contains "rate" = false)
    (preposition : snapshot.contains "of" = false) :
    Extraction.knownMetric? snapshot (entitiesOf question.text) = some question.metric := by
  obtain ⟨others, first⟩ := hits_metricName (by decide) letters_rate (by decide) valid.metric.1
    (plain_tokens valid)
  have named : (hits metricName question.text.toList).map Prod.fst =
      "rate".toList :: "of".toList :: question.metric.toList :: others := by
    rw [toList_text]
    exact first
  exact knownMetric?_of_hits named known operation preposition

/-- A number with a unit of the query form is a compact duration. -/
theorem compactDuration_window {span : TimeSpan} (single : NamesTime span.queryText) :
    compactDuration (some ' ') span.queryText.toList =
      some ⟨span.queryText.toList.length - 1, ()⟩ := by
  obtain ⟨number, unit, known, split⟩ := namesTime_iff.mp single
  have short : unit ∈ compactUnits := by
    rcases List.mem_append.mp known with compact | spelled
    · exact compact
    · exact absurd split (unspelled_queryText span unit spelled)
  have reads : ∀ unit ∈ compactUnits, compactUnitLength? unit.toList = some unit.toList.length := by
    decide
  have outside : wordBeside (some ' ') = false := rfl
  have label := isLabelText_queryText span
  have atEnd : wordBeside ([] : List Char).head? = false := rfl
  have digits := takeWhile_isDecimal label.2 atEnd
  have left := drop_length_takeWhile Char.isDigit span.queryText.toList []
  rw [List.append_nil] at digits left
  have whole : (span.queryText.toList.takeWhile Char.isDigit).length + unit.toList.length =
      span.queryText.toList.length := by
    rw [← split, ← List.length_append, List.takeWhile_append_dropWhile]
  unfold compactDuration
  dsimp only
  rw [digits, left, List.append_nil, split, reads unit short]
  simp [number, whole, outside]

/-- The span that is found in the question: its own, less what is below a millisecond, if it is one
number with a unit. -/
def span? (question : RateQuestion) : Option TimeSpan :=
  if NamesTime question.span.queryText then some (.ofMillis question.span.millis) else none

/-- The window that is read is the span that is found. -/
theorem window?_text (valid : question.Valid) :
    Extraction.window? (Intent.ofText question.text) (entitiesOf question.text) =
      .ok question.span? := by
  have found := find?_time question.text
  unfold Extraction.window? Extraction.windowText? span?
  by_cases single : NamesTime question.span.queryText
  · have swept := sweep_text_of_hits startsWords_compactDuration timely_compactDuration valid
      (compactDuration_window single)
    unfold hits at found
    rw [swept, List.filterMap_append, filterMap_hit?_plain] at found
    obtain ⟨entity, chosen, value⟩ := Option.map_eq_some_iff.mp found
    have limit : TimeSpan.maxSeconds < Nat.pow 2 64 := by decide
    have named : entity.value = question.span.queryText := value.trans String.ofList_toList
    rw [chosen, if_pos single]
    dsimp only
    rw [named, TimeSpan.read_queryText valid.positive
      (Nat.lt_of_le_of_lt valid.within limit)]
  · have plain := sweep_text startsWords_compactDuration timely_compactDuration valid
      (misses_compactDuration (isLabelText_queryText question.span) single rfl)
    unfold hits at found
    rw [plain, filterMap_hit?_plain] at found
    rw [Option.map_eq_none_iff.mp found, timeFrame_text valid single, if_neg single]
    rfl

end RateQuestion

end PromScribe.Question

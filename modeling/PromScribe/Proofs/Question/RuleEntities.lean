import Mathlib.Data.List.Basic
import PromScribe.Proofs.Question.Label
import PromScribe.Proofs.Question.RuleCanonical
import PromScribe.Translation.Extraction

/-!
# The entities of questions for an operation

The canonical wording of such a question has every identifier in it as a metric entity, its labels
as label entities, and its window as the only time entity.
-/

namespace PromScribe.Question

open PromScribe.Text Token RuleQuestion

variable {question : RuleQuestion} {before : Option Char} {word rest : List Char}
variable {tokens : List Token} {gap : Char}

theorem continuesMetric_of_continuesLabel {c : Char} (label : continuesLabel c = true) :
    continuesMetric c = true := by
  simp [continuesMetric, continuesKey, isAsciiWord_of_continuesLabel label]

theorem startsKey_of_startsLabel {c : Char} (starts : startsLabel c = true) :
    startsKey c = true := by
  simp only [startsLabel, Bool.or_eq_true] at starts
  simp only [startsKey, Bool.or_eq_true]
  rcases starts with lower | underscore
  · exact .inl (isAlpha_iff.mpr (.inr lower))
  · exact .inr underscore

/-- A run of metric characters that ends with a word is a metric behind a gap if it begins with no
digit. -/
theorem metricName_run (outside : wordBeside before = false)
    (begins : word.head?.any startsKey = true) (letters : ∀ c ∈ word, continuesMetric c = true)
    (last : wordBeside word.getLast? = true) (stops : rest.head?.any continuesMetric = false)
    (ends : wordBeside rest.head? = false) :
    metricName before (word ++ rest) = some ⟨word.length - 1, ()⟩ := by
  cases word with
  | nil => cases begins
  | cons c word =>
      have starts : startsKey c = true := begins
      have ahead : wordBeside ((c :: word) ++ rest).head? = true := isWord_of_startsKey starts
      unfold metricName
      rw [(atEdge_of_ahead ahead).mpr outside,
        metricLength?_run (List.cons_ne_nil c word) letters last stops ends]
      simp [startsMetric, starts]

/-- A word behind a gap is a metric if it does not begin with a digit. -/
theorem metricName_word (outside : wordBeside before = false)
    (begins : word.head?.any startsLabel = true) (letters : ∀ c ∈ word, continuesLabel c = true)
    (plain : ∀ token ∈ tokens, PlainToken token) :
    metricName before (word ++ written tokens) = some ⟨word.length - 1, ()⟩ := by
  have nonempty : word ≠ [] := by
    rintro rfl
    cases begins
  have starts : word.head?.any startsKey = true := by
    cases word with
    | nil => exact absurd rfl nonempty
    | cons c word => exact startsKey_of_startsLabel begins
  refine metricName_run outside starts ?_ ?_ ?_ ?_
  · exact fun c mem => continuesMetric_of_continuesLabel (letters c mem)
  · exact wordBeside_getLast? nonempty fun c mem => isWord_of_continuesLabel (letters c mem)
  · exact ends_written_plain plain (by decide) (by decide)
  · exact ends_written_plain plain (by decide) (by decide)

theorem metricName_gap (plain : ∀ token ∈ tokens, PlainToken token) (before : Option Char) :
    metricName before (written tokens) = none := by
  have starts : (written tokens).head?.any startsMetric = false :=
    ends_written_plain plain (by decide) (by decide)
  unfold metricName
  rw [starts, Bool.and_false, if_neg Bool.false_ne_true]

/-- Such a word is a metric entity. -/
theorem sweepFrom_metricName (outside : wordBeside before = false)
    (begins : word.head?.any startsLabel = true) (letters : ∀ c ∈ word, continuesLabel c = true)
    (plain : ∀ token ∈ tokens, PlainToken token) :
    sweepFrom metricName before 0 (word ++ written tokens) =
      .hit word () :: sweepFrom metricName none 0 (written tokens) := by
  have nonempty : word ≠ [] := by
    rintro rfl
    cases begins
  exact sweepFrom_hit (metricName_gap plain) nonempty (metricName_word outside begins letters plain)

theorem sweepFrom_metricName_gap (begins : word.head?.any startsLabel = true)
    (plain : ∀ token ∈ (gap, word) :: tokens, PlainToken token) :
    sweepFrom metricName none 0 (written ((gap, word) :: tokens)) =
      .plain gap :: .hit word () :: sweepFrom metricName none 0 (written tokens) := by
  have token := plain (gap, word) List.mem_cons_self
  have outside : wordBeside (some gap) = false := token.proper.gap
  have atGap := metricName_gap plain none
  rw [written_cons] at atGap ⊢
  rw [sweepFrom_cons atGap, sweepFrom_metricName outside begins token.letters fun other mem =>
    plain other (List.mem_cons_of_mem _ mem)]

/-- The first metric entities are the first three words, if none of them begins with a digit. -/
theorem hits_metricName {operation preposition metric : List Char}
    (begins : operation.head?.any startsLabel = true)
    (letters : ∀ c ∈ operation, continuesLabel c = true)
    (second : preposition.head?.any startsLabel = true)
    (third : metric.head?.any startsLabel = true)
    (plain : ∀ token ∈ (' ', preposition) :: (' ', metric) :: tokens, PlainToken token) :
    ∃ others, (hits metricName (operation ++
        written ((' ', preposition) :: (' ', metric) :: tokens))).map Prod.fst =
      operation :: preposition :: metric :: others := by
  unfold hits sweep
  rw [sweepFrom_metricName rfl begins letters plain, sweepFrom_metricName_gap second plain,
    sweepFrom_metricName_gap third fun token mem => plain token (List.mem_cons_of_mem _ mem)]
  exact ⟨_, rfl⟩

/-- Looking for a metric entity is looking through the accepted runs. -/
theorem find?_metricEntities (known : String → Bool) (text : List Char) :
    ((metricEntities text).find? fun entity => entity.kind == .metric && known entity.value).map
        Entity.value =
      ((hits metricName text).map fun hit => String.ofList hit.1).find? known := by
  unfold metricEntities
  rw [← map_spansOf, List.find?_map, List.map_map, List.find?_map, Option.map_map]
  rfl

/-- The known metric is the first accepted run of the text that is known. -/
theorem knownMetric?_eq (snapshot : Snapshot) (text : String) :
    Extraction.knownMetric? snapshot (entitiesOf text) =
      ((hits metricName text.toList).map fun hit => String.ofList hit.1).find?
        snapshot.contains := by
  have others : (labelEntities text.toList ++ timeEntities text.toList).find?
      (fun entity => entity.kind == .metric && snapshot.contains entity.value) = none := by
    refine List.find?_eq_none.mpr fun entity mem => ?_
    rcases List.mem_append.mp mem with label | time
    · obtain ⟨span, -, rfl⟩ := List.mem_map.mp label
      exact Bool.false_ne_true
    · obtain ⟨span, -, rfl⟩ := List.mem_map.mp time
      exact Bool.false_ne_true
  unfold Extraction.knownMetric? entitiesOf
  dsimp only
  rw [List.append_assoc, List.find?_append, others, Option.or_none, find?_metricEntities]

/-- The third metric entity is chosen if it is known and the first two are not. -/
theorem knownMetric?_of_hits {snapshot : Snapshot} {text operation preposition metric : String}
    {others : List (List Char)}
    (first : (hits metricName text.toList).map Prod.fst =
      operation.toList :: preposition.toList :: metric.toList :: others)
    (known : snapshot.contains metric = true) (unknown : snapshot.contains operation = false)
    (alsoUnknown : snapshot.contains preposition = false) :
    Extraction.knownMetric? snapshot (entitiesOf text) = some metric := by
  have named : (hits metricName text.toList).map (fun hit => String.ofList hit.1) =
      operation :: preposition :: metric :: others.map String.ofList := by
    have listed := congrArg (List.map String.ofList) first
    simpa [Function.comp_def] using listed
  rw [knownMetric?_eq, named, List.find?_cons_of_neg (by simp [unknown]),
    List.find?_cons_of_neg (by simp [alsoUnknown]), List.find?_cons_of_pos known]

/-- The metric is the first entity that is known. -/
theorem knownMetric?_canonicalForm {snapshot : Snapshot} (valid : question.Valid)
    (known : snapshot.contains question.metric = true)
    (operation : snapshot.contains question.word = false)
    (preposition : snapshot.contains "of" = false) :
    Extraction.knownMetric? snapshot (entitiesOf question.canonicalForm) = some question.metric := by
  have words : ∀ entry ∈ operationWords, entry.1.toList.head?.any startsLabel = true := by decide
  obtain ⟨others, first⟩ := hits_metricName (words _ valid.word) (isLabelText_word valid).2
    (by decide) valid.metric.1.1 (plain_allTokens valid fun _ => SpelledWindow.plain_compactTokens)
  have named : (hits metricName question.canonicalForm.toList).map Prod.fst =
      question.word.toList :: "of".toList :: question.metric.toList :: others := by
    rw [toList_canonicalForm]
    exact first
  exact knownMetric?_of_hits named known operation preposition

theorem startsWords_labelPair : StartsWords labelPair := by
  intro before text hit found
  unfold labelPair at found
  dsimp only at found
  split at found
  · split at found
    · next here =>
        simp only [Bool.and_eq_true, Bool.not_eq_true'] at here
        refine ⟨here.1.1, ?_⟩
        cases text with
        | nil => cases here.1.2
        | cons c text =>
            have starts : startsKey c = true := here.1.2
            exact isWord_of_startsKey starts
    · cases found
  · cases found

theorem takeWhile_continuesKey (letters : ∀ c ∈ word, continuesLabel c = true)
    (ends : rest.head?.any continuesKey = false) :
    (word ++ rest).takeWhile continuesKey = word :=
  takeWhile_run (fun c mem => isAsciiWord_of_continuesLabel (letters c mem)) ends

/-- A word is no key unless an equals sign follows it. -/
theorem misses_labelPair (letters : ∀ c ∈ word, continuesLabel c = true)
    (plain : ∀ token ∈ tokens, PlainToken token) (apart : ∀ token ∈ tokens.head?, token.1 = ' ') :
    Misses labelPair word (written tokens) := by
  intro before _
  unfold labelPair
  dsimp only
  rw [takeWhile_continuesKey letters (ends_written_plain plain (by decide) (by decide)),
    List.drop_left, drop_takeWhile]
  split
  · next after sign =>
      exfalso
      cases tokens with
      | nil => cases sign
      | cons token tokens =>
          obtain ⟨gap, follower⟩ := token
          obtain rfl : gap = ' ' := apart (gap, follower) rfl
          have label := plain (' ', follower) List.mem_cons_self
          cases follower with
          | nil => exact label.nonempty rfl
          | cons c follower =>
              have letter := label.letters c List.mem_cons_self
              have close : isBlank c = false := isBlank_of_continuesLabel letter
              rw [written_cons, List.dropWhile_cons_of_pos (by decide), List.cons_append,
                List.dropWhile_cons_of_neg (by simp [close])] at sign
              rw [(List.cons.inj sign).1] at letter
              cases letter
  · rfl

theorem quoteLength_of_isValueChar {c : Char} (part : isValueChar c = true) :
    quoteLength (c :: rest) = 0 := by
  have plain : isQuote c = false := by
    simp only [isValueChar, Bool.not_eq_true', Bool.or_eq_false_iff] at part
    exact part.1.1.1
  simp [quoteLength, plain]

/-- A key, an equals sign and a value are a pair. -/
theorem labelPair_label {key value : List Char} (outside : wordBeside before = false)
    (begins : key.head?.any startsLabel = true) (letters : ∀ c ∈ key, continuesLabel c = true)
    (nonempty : value ≠ []) (values : ∀ c ∈ value, continuesLabel c = true)
    (ends : rest.head?.any isValueChar = false) (unquoted : quoteLength rest = 0) :
    labelPair before ((key ++ '=' :: value) ++ rest) =
      some ⟨(key ++ '=' :: value).length - 1, (key, value)⟩ := by
  have starts : (key ++ '=' :: (value ++ rest)).head?.any startsKey = true := by
    cases key with
    | nil => cases begins
    | cons c key => exact startsKey_of_startsLabel begins
  have run : (value ++ rest).takeWhile isValueChar = value :=
    takeWhile_run (fun c mem => isValueChar_of_continuesLabel (values c mem)) ends
  have open_ : (value ++ rest).takeWhile isBlank = [] ∧ quoteLength (value ++ rest) = 0 := by
    cases value with
    | nil => exact absurd rfl nonempty
    | cons c value =>
        have label := values c List.mem_cons_self
        have close : isBlank c = false := isBlank_of_continuesLabel label
        exact ⟨by simp [close], quoteLength_of_isValueChar (isValueChar_of_continuesLabel label)⟩
  have sign : ('=' :: (value ++ rest)).takeWhile isBlank = [] := rfl
  unfold labelPair
  dsimp only
  rw [List.append_assoc, List.cons_append, takeWhile_continuesKey letters rfl, List.drop_left, sign]
  simp only [List.length_nil, List.drop_zero, open_.1, open_.2, run, Nat.zero_add, List.drop_left,
    unquoted, outside, starts, Bool.not_false, Bool.and_self, Bool.true_and]
  simp [nonempty]

/-- The words do not begin behind an equals sign. -/
def Detached (tokens : List Token) : Prop :=
  ∀ token ∈ tokens.head?, token.1 = ' '

theorem Detached.ends (detached : Detached tokens) :
    (written tokens).head?.any isValueChar = false ∧ quoteLength (written tokens) = 0 := by
  cases tokens with
  | nil => exact ⟨rfl, rfl⟩
  | cons token tokens =>
      obtain ⟨gap, word⟩ := token
      obtain rfl : gap = ' ' := detached (gap, word) rfl
      exact ⟨rfl, rfl⟩

theorem Detached.labelled (detached : Detached tokens) (labels : List (String × String)) :
    Detached (labels.flatMap labelTokens ++ tokens) := by
  cases labels with
  | nil => exact detached
  | cons label labels =>
      intro token mem
      cases mem
      rfl

/-- A label is an accepted pair behind its preposition. -/
theorem sweepFrom_label {label : String × String} (key : IsIdentifier label.1)
    (value : IsLabelText label.2) (plain : ∀ token ∈ labelTokens label ++ tokens, PlainToken token)
    (detached : Detached tokens) :
    sweepFrom labelPair none 0 (written (labelTokens label ++ tokens)) =
      " with ".toList.map .plain ++
        .hit (label.1.toList ++ '=' :: label.2.toList) (label.1.toList, label.2.toList) ::
          sweepFrom labelPair none 0 (written tokens) := by
  have later : ∀ token ∈ tokens, PlainToken token := fun token mem =>
    plain token (List.mem_append_right _ mem)
  have pair : ∀ token ∈ (' ', label.1.toList) :: ('=', label.2.toList) :: tokens,
      PlainToken token := fun token mem => plain token (List.mem_cons_of_mem _ mem)
  have shape : written ((' ', label.1.toList) :: ('=', label.2.toList) :: tokens) =
      ' ' :: ((label.1.toList ++ '=' :: label.2.toList) ++ written tokens) := by simp
  have preposition : EachPlace (Misses labelPair)
      (written ((' ', label.1.toList) :: ('=', label.2.toList) :: tokens))
      [(' ', "with".toList)] := by
    refine ⟨misses_labelPair (List.all_eq_true.mp rfl) pair fun token mem => ?_, trivial⟩
    cases mem
    rfl
  have proper : ∀ token ∈ [(' ', "with".toList)], Token.Proper token := fun token mem => by
    rw [List.mem_singleton.mp mem]
    exact (IsLabelText.plainToken (by decide) (.inl rfl)).proper
  have passed := sweepFrom_written startsWords_labelPair proper
    (wordBeside_written fun token mem => (pair token mem).proper) preposition
  have identifier := isLabelText_of_isIdentifier key
  have hit : sweepFrom labelPair (some ' ') 0 _ = _ := sweepFrom_hit
    (startsWords_labelPair.atGap (wordBeside_written fun token mem => (later token mem).proper))
    (List.append_ne_nil_of_left_ne_nil identifier.1 _)
    (labelPair_label rfl key.1 identifier.2 value.1 value.2
      detached.ends.1 detached.ends.2)
  have start : written (labelTokens label ++ tokens) = written [(' ', "with".toList)] ++
      written ((' ', label.1.toList) :: ('=', label.2.toList) :: tokens) := by simp [labelTokens]
  rw [start, passed, shape, sweepFrom_cons (startsWords_labelPair.atGap rfl none), hit]
  rfl

/-- The labels are the accepted pairs, in order. -/
theorem values_labelTokens (labels : List (String × String))
    (keys : ∀ label ∈ labels, IsIdentifier label.1) (values : ∀ label ∈ labels, IsLabelText label.2)
    (plain : ∀ token ∈ labels.flatMap labelTokens ++ tokens, PlainToken token)
    (detached : Detached tokens) :
    (sweepFrom labelPair none 0 (written (labels.flatMap labelTokens ++ tokens))).filterMap
        Piece.value? =
      labels.map (fun label => (label.1.toList, label.2.toList)) ++
        (sweepFrom labelPair none 0 (written tokens)).filterMap Piece.value? := by
  induction labels with
  | nil => rfl
  | cons label labels ih =>
      have more := ih (fun other mem => keys other (List.mem_cons_of_mem label mem))
        (fun other mem => values other (List.mem_cons_of_mem label mem)) fun token mem =>
          plain token (by simpa [List.append_assoc] using .inr (by simpa using mem))
      rw [List.flatMap_cons, List.append_assoc] at plain ⊢
      rw [sweepFrom_label (keys label List.mem_cons_self) (values label List.mem_cons_self) plain
        (detached.labelled labels), List.filterMap_append, filterMap_value?_plain, List.nil_append, List.filterMap_cons]
      simp only [Piece.value?, more, List.map_cons, List.cons_append]

/-- The window has no pair in it. -/
theorem sweepFrom_labelPair_window {window : SpelledWindow} (valid : window.Valid) :
    sweepFrom labelPair none 0 (written window.compactTokens) =
      (written window.compactTokens).map .plain := by
  have plain := SpelledWindow.plain_compactTokens valid
  have number : ∀ token ∈ [(' ', window.compact)], PlainToken token := fun token mem =>
    plain token (List.mem_cons_of_mem _ mem)
  have misses : EachPlace (Misses labelPair) [] window.compactTokens := by
    refine ⟨?_, ?_, trivial⟩
    · rw [List.append_nil]
      refine misses_labelPair (List.all_eq_true.mp rfl) number fun token mem => ?_
      cases mem
      rfl
    · have last : Misses labelPair window.compact (written []) :=
        misses_labelPair (number _ List.mem_cons_self).letters nofun nofun
      exact last
  have swept := sweepFrom_written startsWords_labelPair
    (fun token mem => (plain token mem).proper) rfl misses
  simpa [sweepFrom] using swept

theorem detached_framing (window : Option SpelledWindow) :
    Detached (window.elim [] SpelledWindow.compactTokens) := by
  intro token mem
  cases window with
  | none => cases mem
  | some window =>
      cases mem
      rfl

/-- What stands behind the labels has no pair in it. -/
theorem values_framing {window : Option SpelledWindow}
    (valid : ∀ spelled ∈ window, spelled.Valid) :
    (sweepFrom labelPair none 0
      (written (window.elim [] SpelledWindow.compactTokens))).filterMap Piece.value? = [] := by
  cases window with
  | none => simp [sweepFrom]
  | some window =>
      rw [Option.elim_some, sweepFrom_labelPair_window (valid window rfl), filterMap_value?_plain]

/-- The pairs of the question are its labels. -/
theorem valuesOf_labelPair (valid : question.Valid) :
    valuesOf labelPair question.canonicalForm.toList =
      question.labels.map fun label => (label.1.toList, label.2.toList) := by
  have plain := plain_allTokens valid fun _ => SpelledWindow.plain_compactTokens
  let framing := question.window.elim [] SpelledWindow.compactTokens
  let labelled := question.labels.flatMap labelTokens ++ framing
  have split : question.allTokens SpelledWindow.compactTokens =
      (' ', "of".toList) :: (' ', question.metric.toList) :: labelled := rfl
  rw [split] at plain
  have behindOf : ∀ token ∈ (' ', question.metric.toList) :: labelled, PlainToken token :=
    fun token mem => plain token (List.mem_cons_of_mem _ mem)
  have behindMetric : ∀ token ∈ labelled, PlainToken token :=
    fun token mem => behindOf token (List.mem_cons_of_mem _ mem)
  have framed : Detached framing := detached_framing question.window
  have detached : Detached labelled := framed.labelled question.labels
  have prepositions : ∀ token ∈ [(' ', "of".toList), (' ', question.metric.toList)],
      PlainToken token := fun token mem => plain token (List.mem_append_left labelled mem)
  have misses : EachPlace (Misses labelPair) (written labelled)
      [(' ', "of".toList), (' ', question.metric.toList)] := by
    have preposition : Misses labelPair "of".toList
        (written ((' ', question.metric.toList) :: labelled)) :=
      misses_labelPair (List.all_eq_true.mp rfl) behindOf fun token mem => by
        cases mem
        rfl
    have metric : Misses labelPair question.metric.toList (written labelled) :=
      misses_labelPair (behindOf _ List.mem_cons_self).letters behindMetric detached
    exact ⟨by simpa using preposition, metric, trivial⟩
  have first : Misses labelPair question.word.toList (written
      ((' ', "of".toList) :: (' ', question.metric.toList) :: labelled)) :=
    misses_labelPair (isLabelText_word valid).2 plain fun token mem => by
      cases mem
      rfl
  have swept := sweep_written startsWords_labelPair (isLabelText_word valid).isWord
    (fun token mem => (prepositions token mem).proper)
    (wordBeside_written fun token mem => (behindMetric token mem).proper) (by simpa using first)
    misses
  have whole : question.canonicalForm.toList = question.word.toList ++
      (written [(' ', "of".toList), (' ', question.metric.toList)] ++ written labelled) := by
    rw [toList_canonicalForm, split]
    simp
  unfold valuesOf
  rw [whole, swept, List.filterMap_append, filterMap_value?_plain, List.nil_append,
    values_labelTokens question.labels (fun label mem => (valid.keys label mem).1)
      (fun label mem => (valid.values label mem).1) behindMetric framed,
    values_framing valid.window, List.append_nil]

theorem splitAtFirst?_of_not_mem {mark : Char} {behind : List Char} (apart : mark ∉ word) :
    splitAtFirst? mark (word ++ mark :: behind) = some (word, behind) := by
  have inside : ∀ c ∈ word, (c != mark) = true := fun c mem => by
    simp only [bne_iff_ne, ne_eq]
    rintro rfl
    exact apart mem
  have ends : (mark :: behind).head?.any (· != mark) = false := by simp
  unfold splitAtFirst?
  rw [dropWhile_run inside ends, takeWhile_run inside ends]

/-- A pair as a label entity has it, taken apart at its first equals sign. -/
def pairOf? (pair : List Char × List Char) : Option (String × String) :=
  (splitAtFirst? '=' (pair.1 ++ '=' :: pair.2)).map fun parts =>
    (String.ofList parts.1, String.ofList parts.2)

theorem map_labelPair?_labelEntities (text : List Char) :
    (labelEntities text).map Entity.labelPair? = (valuesOf labelPair text).map pairOf? := by
  have taken : Entity.labelPair? ∘ (fun span : Span (List Char × List Char) =>
      Entity.mk .label (String.ofList (span.value.1 ++ '=' :: span.value.2)) span.start span.stop) =
        fun span => pairOf? span.value := by
    funext span
    simp [Entity.labelPair?, pairOf?]
  unfold labelEntities
  rw [← map_hits, ← map_spansOf, List.map_map, List.map_map, List.map_map, taken]
  rfl

theorem filterMap_labelEntities (text : List Char) :
    (labelEntities text).filterMap Entity.labelPair? = (valuesOf labelPair text).filterMap pairOf? := by
  have pairs := congrArg (List.filterMap id) (map_labelPair?_labelEntities text)
  rwa [List.filterMap_map, List.filterMap_map, Function.id_comp, Function.id_comp] at pairs

/-- The label entities are those of the sweep for labels. -/
theorem filter_label_entitiesOf (text : String) :
    (entitiesOf text).filter (fun entity => entity.kind == .label) = labelEntities text.toList := by
  have metrics : (metricEntities text.toList).filter (fun entity => entity.kind == .label) = [] := by
    rw [List.filter_eq_nil_iff]
    intro entity mem
    obtain ⟨span, -, rfl⟩ := List.mem_map.mp mem
    exact Bool.false_ne_true
  have times : (timeEntities text.toList).filter (fun entity => entity.kind == .label) = [] := by
    rw [List.filter_eq_nil_iff]
    intro entity mem
    obtain ⟨span, -, rfl⟩ := List.mem_map.mp mem
    exact Bool.false_ne_true
  have labels : (labelEntities text.toList).filter (fun entity => entity.kind == .label) =
      labelEntities text.toList := by
    rw [List.filter_eq_self]
    intro entity mem
    obtain ⟨span, -, rfl⟩ := List.mem_map.mp mem
    rfl
  unfold entitiesOf
  rw [List.filter_append, List.filter_append, metrics, labels, times, List.nil_append,
    List.append_nil]

/-- The other entities are no labels. -/
theorem filterMap_labelPair?_entitiesOf (text : String) :
    (entitiesOf text).filterMap Entity.labelPair? =
      (valuesOf labelPair text.toList).filterMap pairOf? := by
  have metrics : (metricEntities text.toList).filterMap Entity.labelPair? = [] := by
    rw [List.filterMap_eq_nil_iff]
    intro entity mem
    obtain ⟨span, -, rfl⟩ := List.mem_map.mp mem
    rfl
  have times : (timeEntities text.toList).filterMap Entity.labelPair? = [] := by
    rw [List.filterMap_eq_nil_iff]
    intro entity mem
    obtain ⟨span, -, rfl⟩ := List.mem_map.mp mem
    rfl
  unfold entitiesOf
  rw [List.filterMap_append, List.filterMap_append, metrics, times, filterMap_labelEntities,
    List.nil_append, List.append_nil]

/-- The label entities are the labels, in order. -/
theorem filterMap_labelPair?_canonicalForm (valid : question.Valid) :
    (entitiesOf question.canonicalForm).filterMap Entity.labelPair? = question.labels := by
  rw [filterMap_labelPair?_entitiesOf, valuesOf_labelPair valid, List.filterMap_map]
  refine (List.filterMap_congr fun label mem => ?_).trans List.filterMap_some
  have key := (isLabelText_of_isIdentifier (valid.keys label mem).1).2
  have apart : '=' ∉ label.1.toList := fun member => by
    have letter := key '=' member
    cases letter
  simp [pairOf?, splitAtFirst?_of_not_mem apart]

/-- Looking for a time entity is looking for the first accepted run. -/
theorem find?_time (text : String) :
    ((entitiesOf text).find? fun entity => entity.kind == .time).map Entity.value =
      ((hits compactDuration text.toList).map fun hit => String.ofList hit.1).head? := by
  have metrics : (metricEntities text.toList).find? (fun entity => entity.kind == .time) = none := by
    rw [List.find?_eq_none]
    intro entity mem
    obtain ⟨span, -, rfl⟩ := List.mem_map.mp mem
    exact Bool.false_ne_true
  have labels : (labelEntities text.toList).find? (fun entity => entity.kind == .time) = none := by
    rw [List.find?_eq_none]
    intro entity mem
    obtain ⟨span, -, rfl⟩ := List.mem_map.mp mem
    exact Bool.false_ne_true
  unfold entitiesOf
  rw [List.find?_append, List.find?_append, metrics, labels, Option.none_or, Option.none_or,
    ← map_spansOf]
  unfold timeEntities
  cases spansOf compactDuration text.toList with
  | nil => rfl
  | cons span spans => rfl

/-- The only time entity is the window. -/
theorem find?_time_canonicalForm (valid : question.Valid) :
    ((entitiesOf question.canonicalForm).find? fun entity => entity.kind == .time).map
        Entity.value =
      question.window.map fun window => String.ofList window.compact := by
  rw [find?_time]
  unfold hits
  rw [toList_canonicalForm]
  cases named : question.window with
  | none =>
      have plain := sweep_unframed startsWords_compactDuration timely_compactDuration valid
      simp only [allTokens, named, Option.elim_none, List.append_nil]
      rw [plain, filterMap_hit?_plain]
      rfl
  | some window =>
      have windowValid := valid.window window named
      have nonempty : window.compact ≠ [] := List.append_ne_nil_of_left_ne_nil windowValid.nonempty _
      have framed := sweep_framed startsWords_compactDuration timely_compactDuration valid nonempty
        (SpelledWindow.compactDuration_compact windowValid (by decide))
      have split : written (question.allTokens SpelledWindow.compactTokens) =
          written question.frameTokens ++ ' ' :: window.compact := by
        simp [allTokens, frameTokens, named, SpelledWindow.compactTokens]
      rw [split, framed, List.filterMap_append, filterMap_hit?_plain]
      rfl

end PromScribe.Question

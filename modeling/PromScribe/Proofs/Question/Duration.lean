import PromScribe.Proofs.Question.RuleWording
import PromScribe.Proofs.Text.Digits
import PromScribe.Proofs.Time.QueryForm
import PromScribe.Question.Wording

/-!
# Durations in questions

What begins a duration is a number between word edges with a unit directly behind it, or behind
blanks if the unit is spelled out. A word that is no number with a unit begins none where a label or
a window follows.
-/

namespace PromScribe.Question

open PromScribe.Text Token

variable {α : Type} {recognise : Recogniser α} {before : Option Char} {window : SpelledWindow}
variable {word rest unit : List Char} {text : String}

/-- The digits at the head of a word of small letters, digits and underscores. -/
theorem takeWhile_isDecimal (letters : ∀ c ∈ word, continuesLabel c = true)
    (ends : wordBeside rest.head? = false) :
    (word ++ rest).takeWhile isDecimal = word.takeWhile Char.isDigit := by
  induction word with
  | nil =>
      cases rest with
      | nil => rfl
      | cons c rest =>
          have gap : isWord c = false := ends
          have other : ¬ isDecimal c = true := fun decimal => by
            rw [isWord_of_isDecimal decimal] at gap
            cases gap
          rw [List.nil_append, List.takeWhile_cons, if_neg other]
          rfl
  | cons c word ih =>
      have same := isDecimal_of_continuesLabel (letters c List.mem_cons_self)
      have more := ih fun d mem => letters d (List.mem_cons_of_mem c mem)
      rw [List.cons_append, List.takeWhile_cons, List.takeWhile_cons, same, more]

theorem drop_length_takeWhile (inClass : Char → Bool) (text rest : List Char) :
    (text ++ rest).drop (text.takeWhile inClass).length = text.dropWhile inClass ++ rest := by
  have parts : text.takeWhile inClass ++ text.dropWhile inClass = text :=
    List.takeWhile_append_dropWhile
  conv => lhs; rw [← parts, List.append_assoc]
  rw [parts, List.drop_left]

/-- What is behind the run of a class is the text without the run. -/
theorem drop_takeWhile (inClass : Char → Bool) (text : List Char) :
    text.drop (text.takeWhile inClass).length = text.dropWhile inClass := by
  have dropped := drop_length_takeWhile inClass text []
  rwa [List.append_nil, List.append_nil] at dropped

theorem startsWords_of_decimal
    (digits : ∀ before text hit, recognise before text = some hit →
      text.takeWhile isDecimal ≠ [] ∧ wordBeside before = false) : StartsWords recognise := by
  intro before text hit found
  obtain ⟨number, outside⟩ := digits before text hit found
  refine ⟨outside, ?_⟩
  cases text with
  | nil => exact absurd rfl number
  | cons c text =>
      rw [List.takeWhile_cons] at number
      split at number
      · next decimal => exact isWord_of_isDecimal decimal
      · exact absurd rfl number

theorem startsWords_spelledDuration : StartsWords spelledDuration := by
  refine startsWords_of_decimal fun before text hit found => ?_
  unfold spelledDuration at found
  dsimp only at found
  split at found
  · cases found
  · next here => simpa using here

theorem startsWords_compactDuration : StartsWords compactDuration := by
  refine startsWords_of_decimal fun before text hit found => ?_
  unfold compactDuration at found
  dsimp only at found
  split at found
  · cases found
  · next here => simpa using here

theorem stands_of_wholeWordAhead (found : spelledDuration.wholeWordAhead rest = some unit) :
    unit ∈ unitWords.map String.toList ∧ Stands unit rest := by
  have stands := List.find?_some found
  simp only [Bool.and_eq_true, List.isPrefixOf_iff_prefix] at stands
  exact ⟨List.mem_of_find?_eq_some found, stands⟩

/-- Units of time are single words, and begin neither a label nor a window. -/
theorem unit_apart : ∀ unit ∈ unitWords.map String.toList,
    unit ≠ [] ∧ unit.takeWhile isWord = unit ∧
      ∀ next ∈ ["with".toList, "over".toList], ¬ unit <+: next ∧ ¬ next <+: unit := by
  decide

/-- Where a label or a window may follow, no unit of time does. -/
theorem wholeWordAhead_of_follows (follows : Follows rest) :
    spelledDuration.wholeWordAhead (rest.dropWhile isBlank) = none := by
  cases found : spelledDuration.wholeWordAhead (rest.dropWhile isBlank) with
  | none => rfl
  | some unit =>
      exfalso
      obtain ⟨mem, ⟨goesOn, -⟩⟩ := stands_of_wholeWordAhead found
      obtain ⟨nonempty, -, apart⟩ := unit_apart unit mem
      have differs (next : List Char) (fixed : next ∈ ["with".toList, "over".toList])
          (ahead : next <+: rest.dropWhile isBlank) : False := by
        obtain ⟨short, long⟩ := apart next fixed
        rcases List.prefix_or_prefix_of_prefix goesOn ahead with shorter | longer
        · exact short shorter
        · exact long longer
      rcases follows with rfl | ⟨after, rfl⟩ | ⟨after, rfl⟩
      · exact nonempty (List.prefix_nil.mp goesOn)
      · exact differs "with".toList (by decide) ⟨after, rfl⟩
      · exact differs "over".toList (by decide) ⟨after, rfl⟩

/-- A word that is no number with a spelled-out unit begins no spelled-out duration. -/
theorem misses_spelledDuration (label : IsLabelText text)
    (unspelled : text.toList.takeWhile Char.isDigit ≠ [] →
      ∀ unit ∈ unitWords, text.toList.dropWhile Char.isDigit ≠ unit.toList)
    (follows : text.toList.takeWhile Char.isDigit = [] ∨ Follows rest)
    (ends : wordBeside rest.head? = false) : Misses spelledDuration text.toList rest := by
  intro before _
  unfold spelledDuration
  dsimp only
  rw [takeWhile_isDecimal label.2 ends, drop_length_takeWhile]
  split
  · rfl
  next here =>
  simp only [Bool.or_eq_true, List.isEmpty_iff, not_or] at here
  have following := follows.resolve_left here.1
  rw [Option.map_eq_none_iff]
  cases behind : text.toList.dropWhile Char.isDigit with
  | nil =>
      rw [List.nil_append, drop_takeWhile]
      exact wholeWordAhead_of_follows following
  | cons c more =>
      -- The unit would have to stand directly behind the number.
      have letters : ∀ d ∈ c :: more, continuesLabel d = true := fun d mem =>
        label.2 d ((List.dropWhile_suffix _).subset (behind ▸ mem))
      have close : isBlank c = false := isBlank_of_continuesLabel (letters c List.mem_cons_self)
      rw [List.cons_append, List.takeWhile_cons, if_neg (by simp [close])]
      cases found : spelledDuration.wholeWordAhead ((c :: more) ++ rest) with
      | none => exact found
      | some unit =>
          exfalso
          obtain ⟨mem, stands⟩ := stands_of_wholeWordAhead found
          obtain ⟨nonempty, single, -⟩ := unit_apart unit mem
          have same := (eq_of_stands nonempty
            (fun d mem => isWord_of_continuesLabel (letters d mem)) ends stands).1
          obtain ⟨spelling, spelled, rfl⟩ := List.mem_map.mp mem
          rw [single] at same
          exact unspelled here.1 spelling spelled (behind.trans same.symm)

/-- A compact unit ends at a word edge. -/
theorem exists_unit_of_length {text : List Char} {length : Nat}
    (found : compactUnitLength? text = some length) :
    ∃ unit ∈ compactUnits.map String.toList, ∃ after, text = unit ++ after ∧
      wordBeside after.head? = false := by
  unfold compactUnitLength? at found
  split at found
  · next after =>
      split at found
      · cases found
      · next ends => exact ⟨"ms".toList, by decide, after, rfl, eq_false_of_ne_true ends⟩
  · next c after _ =>
      split at found
      · next here =>
          simp only [Bool.and_eq_true, List.contains_iff_mem, Bool.not_eq_true'] at here
          have all : ∀ unit ∈ ['s', 'm', 'h', 'd', 'w'].map fun c => [c],
              unit ∈ compactUnits.map String.toList := by decide
          exact ⟨[c], all [c] (List.mem_map_of_mem here.1), after, rfl, here.2⟩
      · cases found
  · cases found

/-- A compact unit that is found at a word is the word. -/
theorem mem_compactUnits_of_length {length : Nat} (letters : ∀ c ∈ word, isWord c = true)
    (ends : wordBeside rest.head? = false)
    (found : compactUnitLength? (word ++ rest) = some length) :
    word ∈ compactUnits.map String.toList := by
  obtain ⟨unit, mem, after, split, stops⟩ := exists_unit_of_length found
  have labels : ∀ unit ∈ compactUnits, IsLabelText unit := by decide
  obtain ⟨name, known, rfl⟩ := List.mem_map.mp mem
  have same : word = name.toList := by
    rw [← takeWhile_run letters ends, split, takeWhile_run (labels name known).isWord stops]
  rwa [same]

/-- A word that is no number with a unit begins no compact duration. -/
theorem misses_compactDuration (label : IsLabelText text) (untimed : ¬ NamesTime text)
    (ends : wordBeside rest.head? = false) : Misses compactDuration text.toList rest := by
  intro before _
  unfold compactDuration
  dsimp only
  rw [takeWhile_isDecimal label.2 ends, drop_length_takeWhile]
  split
  · rfl
  next here =>
  simp only [Bool.or_eq_true, List.isEmpty_iff, not_or] at here
  rw [Option.map_eq_none_iff]
  cases found : compactUnitLength? (text.toList.dropWhile Char.isDigit ++ rest) with
  | none => rfl
  | some length =>
      exfalso
      have letters : ∀ c ∈ text.toList.dropWhile Char.isDigit, isWord c = true := fun c mem =>
        isWord_of_continuesLabel (label.2 c ((List.dropWhile_suffix _).subset mem))
      obtain ⟨spelling, spelled, same⟩ :=
        List.mem_map.mp (mem_compactUnits_of_length letters ends found)
      exact untimed (namesTime_iff.mpr
        ⟨here.1, spelling, List.mem_append_left _ spelled, same.symm⟩)

theorem not_namesTime_of_takeWhile (headless : text.toList.takeWhile Char.isDigit = []) :
    ¬ NamesTime text := fun timed =>
  (namesTime_iff.mp timed).1 headless

theorem takeWhile_of_isIdentifier (identifier : IsIdentifier text) :
    text.toList.takeWhile Char.isDigit = [] := by
  have begins := identifier.1
  cases split : text.toList with
  | nil => rfl
  | cons c rest =>
      rw [split] at begins
      have noDigit : c.isDigit = false := isDigit_of_startsLabel begins
      rw [List.takeWhile_cons, if_neg (by simp [noDigit])]

/-- Durations are recognised in no word that is no number with a unit, where a label or a window may
follow a number. -/
def Timely (recognise : Recogniser α) : Prop :=
  ∀ text rest, IsLabelText text → ¬ NamesTime text →
    text.toList.takeWhile Char.isDigit = [] ∨ Follows rest →
      wordBeside rest.head? = false → Misses recognise text.toList rest

theorem timely_spelledDuration : Timely spelledDuration :=
  fun _ _ label untimed => misses_spelledDuration label fun number unit spelled split =>
    untimed (namesTime_iff.mpr ⟨number, unit, List.mem_append_right _ spelled, split⟩)

theorem timely_compactDuration : Timely compactDuration :=
  fun _ _ label untimed _ => misses_compactDuration label untimed

namespace RuleQuestion

variable {question : RuleQuestion} {tail : List Char}

/-- No word up to the window is a duration. -/
theorem eachPlace_misses_duration (timely : Timely recognise) (valid : question.Valid)
    (follows : Follows tail) : EachPlace (Misses recognise) tail question.tokens := by
  have proper := fun token mem => (plain_tokens valid token mem).proper
  have early {text : String} {rest : List Char} (label : IsLabelText text)
      (headless : text.toList.takeWhile Char.isDigit = []) (ends : wordBeside rest.head? = false) :
      Misses recognise text.toList rest :=
    timely text rest label (not_namesTime_of_takeWhile headless) (.inl headless) ends
  refine EachPlace.of_ends proper follows.ends (eachPlace_tokens follows ?_ ?_ ?_ ?_ ?_)
  · exact fun rest ends => early (by decide) (by decide) ends
  · exact fun rest ends => early (by decide) (by decide) ends
  · intro rest _ ends
    exact early (isLabelText_of_isIdentifier valid.metric.1)
      (takeWhile_of_isIdentifier valid.metric.1) ends
  · intro label mem rest ends
    have key := (valid.keys label mem).1
    exact early (isLabelText_of_isIdentifier key) (takeWhile_of_isIdentifier key) ends
  · intro label mem rest follows ends
    obtain ⟨value, -, untimed⟩ := valid.values label mem
    exact timely label.2 rest value untimed (.inr follows) ends

/-- Nor is the operation. -/
theorem misses_duration_word {rest : List Char} (timely : Timely recognise) (valid : question.Valid)
    (ends : wordBeside rest.head? = false) : Misses recognise question.word.toList rest := by
  have all : ∀ entry ∈ operationWords, entry.1.toList.takeWhile Char.isDigit = [] := by decide
  have headless := all _ valid.word
  exact timely question.word rest (isLabelText_word valid) (not_namesTime_of_takeWhile headless)
    (.inl headless) ends

/-- Without a window there is no duration. -/
theorem sweep_unframed (starts : StartsWords recognise) (timely : Timely recognise)
    (valid : question.Valid) :
    sweep recognise (question.word.toList ++ written question.tokens) =
      (question.word.toList ++ written question.tokens).map .plain := by
  have proper := fun token mem => (plain_tokens valid token mem).proper
  exact sweep_plain starts (isLabelText_word valid).isWord proper
    (misses_duration_word timely valid (wordBeside_written proper))
    (eachPlace_misses_duration timely valid (.inl rfl))

/-- The words in front of a window. -/
def frameTokens (question : RuleQuestion) : List Token :=
  question.tokens ++ [(' ', "over".toList)]

/-- A window is the only duration. -/
theorem sweep_framed {run : List Char} {value : α} (starts : StartsWords recognise)
    (timely : Timely recognise) (valid : question.Valid) (nonempty : run ≠ [])
    (hits : recognise (some ' ') run = some ⟨run.length - 1, value⟩) :
    sweep recognise (question.word.toList ++ (written question.frameTokens ++ ' ' :: run)) =
      (question.word.toList ++ written question.frameTokens).map .plain ++
        [.plain ' ', .hit run value] := by
  have proper : ∀ token ∈ question.frameTokens, token.Proper := by
    intro token mem
    rcases List.mem_append.mp mem with early | last
    · exact (plain_tokens valid token early).proper
    · rw [List.mem_singleton.mp last]
      exact (IsLabelText.plainToken (by decide) (.inl rfl)).proper
  have ends : wordBeside (' ' :: run).head? = false := rfl
  have preposition : Misses recognise "over".toList (' ' :: run) :=
    timely "over" _ (by decide) (not_namesTime_of_takeWhile (by decide)) (.inl (by decide)) ends
  have follows : Follows (written [(' ', "over".toList)] ++ ' ' :: run) := .inr (.inr ⟨_, rfl⟩)
  have misses : EachPlace (Misses recognise) (' ' :: run) question.frameTokens :=
    eachPlace_append.mpr ⟨eachPlace_misses_duration timely valid follows, preposition, trivial⟩
  have swept := sweep_written starts (isLabelText_word valid).isWord proper ends
    (misses_duration_word timely valid (ends_written proper ends)) misses
  rw [swept, sweepFrom_last starts (by decide) nonempty hits]

end RuleQuestion

namespace SpelledWindow

/-- What the table of units says of each of them. -/
theorem unit_reads (valid : window.Valid) :
    isBlank <$> window.unit.toList.head? = some false ∧
      spelledDuration.wholeWordAhead window.unit.toList = some window.unit.toList ∧
        (window.unit.toList.take 1).head?.any isDecimal = false ∧
          compactUnitLength? (window.unit.toList.take 1) = some 1 := by
  have all : ∀ entry ∈ unitSeconds,
      isBlank <$> entry.1.toList.head? = some false ∧
        spelledDuration.wholeWordAhead entry.1.toList = some entry.1.toList ∧
          (entry.1.toList.take 1).head?.any isDecimal = false ∧
            compactUnitLength? (entry.1.toList.take 1) = some 1 := by decide
  exact all _ valid.unit

theorem takeWhile_digits (valid : window.Valid) (ends : rest.head?.any isDecimal = false) :
    (window.digits.toList ++ rest).takeWhile isDecimal = window.digits.toList := by
  refine takeWhile_run (fun c mem => ?_) ends
  rw [isDecimal_of_continuesLabel (continuesLabel_of_isDigit (valid.digits c mem))]
  exact valid.digits c mem

/-- A spelled-out window is read as its compact form. -/
theorem spelledDuration_spelled (valid : window.Valid) (outside : wordBeside before = false) :
    spelledDuration before window.spelled =
      some ⟨window.spelled.length - 1, window.compact⟩ := by
  obtain ⟨shown, read, -⟩ := unit_reads valid
  have number : (window.digits.toList ++ ' ' :: window.unit.toList).takeWhile isDecimal =
      window.digits.toList := takeWhile_digits valid rfl
  have gap : (' ' :: window.unit.toList).takeWhile isBlank = [' '] := by
    cases split : window.unit.toList with
    | nil => rfl
    | cons c unit =>
        rw [split] at shown
        have close : isBlank c = false := Option.some.inj shown
        simp [close, show isBlank ' ' = true from rfl]
  unfold spelledDuration spelled compact
  dsimp only
  rw [number, List.drop_left, gap]
  simp [valid.nonempty, outside, read]

/-- The compact form of a window is a compact duration. -/
theorem compactDuration_compact (valid : window.Valid) (outside : wordBeside before = false) :
    compactDuration before window.compact = some ⟨window.compact.length - 1, ()⟩ := by
  obtain ⟨-, -, letter, read⟩ := unit_reads valid
  unfold compactDuration compact
  dsimp only
  rw [takeWhile_digits valid letter, List.drop_left, read]
  have single : (window.unit.toList.take 1).length = 1 := by
    have nonempty := (isLabelText_unit valid).1
    cases split : window.unit.toList with
    | nil => exact absurd split nonempty
    | cons c unit => rfl
  simp [valid.nonempty, outside, single]

/-- What a unit counts is the same in a question and in a written span. -/
theorem unit_counts (valid : window.Valid) :
    window.unit.toList.take 1 ≠ [] ∧
      (∀ c ∈ window.unit.toList.take 1, SpanReader.IsLetter c) ∧ 1 ≤ window.seconds ∧
        ∃ unit, SpanReader.unitOf? (String.ofList (window.unit.toList.take 1)) = some unit ∧
          unit.HasSeconds window.seconds := by
  have all : ∀ entry ∈ unitSeconds, entry.1.toList.take 1 ≠ [] ∧
      (entry.1.toList.take 1).all (fun c => decide (SpanReader.IsLetter c)) = true ∧
        1 ≤ entry.2 ∧
          (SpanReader.unitOf? (String.ofList (entry.1.toList.take 1)) = some (.seconds entry.2) ∨
            SpanReader.unitOf? (String.ofList (entry.1.toList.take 1)) = some .minutes ∧
              entry.2 = 60) := by decide
  obtain ⟨nonempty, letters, counts, seconds | ⟨minutes, size⟩⟩ := all _ valid.unit
  · exact ⟨nonempty, SpanReader.isLetter_of_all letters, counts, _, seconds, .inl rfl⟩
  · exact ⟨nonempty, SpanReader.isLetter_of_all letters, counts, _, minutes, .inr ⟨rfl, size⟩⟩

theorem number_mul_seconds_lt (valid : window.Valid) :
    window.number * window.seconds < Nat.pow 2 64 :=
  Nat.lt_of_le_of_lt valid.bounded (by decide)

theorem one_le_number_mul_seconds (valid : window.Valid) :
    1 ≤ window.number * window.seconds := by
  obtain ⟨-, -, counts, -⟩ := unit_counts valid
  exact Nat.mul_pos valid.positive counts

/-- The compact form of a window is read as the window. -/
theorem read_compact (valid : window.Valid) :
    TimeSpan.read (String.ofList window.compact) = .ok window.span := by
  obtain ⟨nonempty, letters, counts, unit, known, sizes⟩ := unit_counts valid
  have limit := number_mul_seconds_lt valid
  have fits : window.number < Nat.pow 2 64 :=
    Nat.lt_of_le_of_lt (Nat.le_mul_of_pos_right window.number counts) limit
  have adds : SpanReader.addGroup 0 window.number none
      (String.ofList (window.unit.toList.take 1)) =
        .ok (window.number * window.seconds * 1000000000) := by
    refine SpanReader.addGroup_eq (by simpa using nonempty) known ?_
    rw [SpanReader.addWhole_seconds sizes (by simpa using limit), Nat.zero_add]
  have positive : window.number * window.seconds * 1000000000 ≠ 0 :=
    Nat.ne_of_gt (Nat.mul_pos (one_le_number_mul_seconds valid) (by decide))
  have read : TimeSpan.readChars window.compact = .ok window.span :=
    SpanReader.readChars_group valid.nonempty valid.digits fits nonempty letters adds positive
  unfold TimeSpan.read
  rw [String.toList_ofList, read]
  rfl

/-- The query form of a window is read as the window. -/
theorem read_queryText (valid : window.Valid) :
    TimeSpan.read window.span.queryText = .ok window.span :=
  TimeSpan.read_queryText_ofSeconds (one_le_number_mul_seconds valid) (number_mul_seconds_lt valid)

end SpelledWindow

end PromScribe.Question

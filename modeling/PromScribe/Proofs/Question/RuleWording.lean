import PromScribe.Proofs.Question.RuleQuestion
import PromScribe.Proofs.Text.Literal

/-!
# The words of questions for an operation

What holds at each word of such a question, and what phrases do not stand there.
-/

namespace PromScribe.Question

open PromScribe.Text Token RuleQuestion

variable {question : RuleQuestion} {window : SpelledWindow} {phrase word rest : List Char}

/-- The gap is a blank or an equals sign, and the word one of small letters, digits and
underscores. -/
structure PlainToken (token : Token) : Prop where
  gap : token.1 = ' ' ∨ token.1 = '='
  nonempty : token.2 ≠ []
  letters : ∀ c ∈ token.2, continuesLabel c = true

theorem PlainToken.proper {token : Token} (plain : PlainToken token) : token.Proper := by
  refine ⟨?_, plain.nonempty, fun c mem => isWord_of_continuesLabel (plain.letters c mem)⟩
  rcases plain.gap with same | same <;> rw [same] <;> decide

theorem IsLabelText.plainToken {label : String} (text : IsLabelText label) {gap : Char}
    (known : gap = ' ' ∨ gap = '=') : PlainToken (gap, label.toList) :=
  ⟨known, text.1, text.2⟩

/-- A class without blanks and equals signs ends where a word does. -/
theorem ends_written_plain {inClass : Char → Bool} {tokens : List Token}
    (plain : ∀ token ∈ tokens, PlainToken token) (noBlank : inClass ' ' = false)
    (noEquals : inClass '=' = false) : (written tokens).head?.any inClass = false := by
  cases tokens with
  | nil => rfl
  | cons token tokens =>
      obtain ⟨gap, word⟩ := token
      rcases (plain (gap, word) List.mem_cons_self).gap with rfl | rfl
      · exact noBlank
      · exact noEquals

namespace SpelledWindow

/-- The words of the window behind their gaps, as it is spelled out. -/
def spelledTokens (window : SpelledWindow) : List Token :=
  [(' ', "over".toList), (' ', window.digits.toList), (' ', window.unit.toList)]

/-- The words of the window behind their gaps, in its compact form. -/
def compactTokens (window : SpelledWindow) : List Token :=
  [(' ', "over".toList), (' ', window.compact)]

theorem exists_digit (valid : window.Valid) : ∃ c digits, window.digits.toList = c :: digits ∧
    c.isDigit = true ∧ ∀ d ∈ digits, d.isDigit = true := by
  cases split : window.digits.toList with
  | nil => exact absurd split valid.nonempty
  | cons c digits =>
      have all := valid.digits
      rw [split] at all
      exact ⟨c, digits, rfl, all c List.mem_cons_self,
        fun d mem => all d (List.mem_cons_of_mem c mem)⟩

theorem isLabelText_unit (valid : window.Valid) : IsLabelText window.unit := by
  have all : ∀ entry ∈ unitSeconds, IsLabelText entry.1 := by decide
  exact all _ valid.unit

theorem plain_spelledTokens (valid : window.Valid) :
    ∀ token ∈ window.spelledTokens, PlainToken token := by
  simp only [spelledTokens, List.mem_cons, List.not_mem_nil, or_false]
  rintro token (rfl | rfl | rfl)
  · exact IsLabelText.plainToken (by decide) (.inl rfl)
  · exact ⟨.inl rfl, valid.nonempty, fun c mem => continuesLabel_of_isDigit (valid.digits c mem)⟩
  · exact (isLabelText_unit valid).plainToken (.inl rfl)

theorem plain_compactTokens (valid : window.Valid) :
    ∀ token ∈ window.compactTokens, PlainToken token := by
  simp only [compactTokens, List.mem_cons, List.not_mem_nil, or_false]
  rintro token (rfl | rfl)
  · exact IsLabelText.plainToken (by decide) (.inl rfl)
  · refine ⟨.inl rfl, by simp [compact, valid.nonempty], fun c mem => ?_⟩
    rcases List.mem_append.mp mem with digit | letter
    · exact continuesLabel_of_isDigit (valid.digits c digit)
    · exact (isLabelText_unit valid).2 c (List.mem_of_mem_take letter)

end SpelledWindow

namespace RuleQuestion

theorem isLabelText_word (valid : question.Valid) : IsLabelText question.word := by
  have all : ∀ entry ∈ operationWords, IsLabelText entry.1 := by decide
  exact all _ valid.word

theorem plain_tokens (valid : question.Valid) : ∀ token ∈ question.tokens, PlainToken token := by
  simp only [tokens, labelTokens, List.mem_cons, List.mem_flatMap, List.not_mem_nil, or_false]
  rintro token (rfl | rfl | ⟨label, mem, rfl | rfl | rfl⟩)
  · exact IsLabelText.plainToken (by decide) (.inl rfl)
  · exact (isLabelText_of_isIdentifier valid.metric.1).plainToken (.inl rfl)
  · exact IsLabelText.plainToken (by decide) (.inl rfl)
  · exact (isLabelText_of_isIdentifier (valid.keys label mem).1).plainToken (.inl rfl)
  · exact (valid.values label mem).1.plainToken (.inr rfl)

end RuleQuestion

/-- What may follow a metric or a value: nothing, a label, or the window. -/
def Follows (rest : List Char) : Prop :=
  rest = [] ∨ " with".toList <+: rest ∨ " over".toList <+: rest

/-- What holds at each kind of word of labels holds at each word of them. -/
theorem eachPlace_labelTokens {holds : List Char → List Char → Prop} {tail : List Char}
    (follows : Follows tail) (atWith : ∀ rest, holds "with".toList rest)
    (labels : List (String × String))
    (atKey : ∀ label ∈ labels, ∀ rest, holds label.1.toList ('=' :: rest))
    (atValue : ∀ label ∈ labels, ∀ rest, Follows rest → holds label.2.toList rest) :
    Follows (written (labels.flatMap labelTokens) ++ tail) ∧
      EachPlace holds tail (labels.flatMap labelTokens) := by
  induction labels with
  | nil => exact ⟨follows, trivial⟩
  | cons label labels ih =>
      obtain ⟨after, more⟩ := ih (fun other mem => atKey other (List.mem_cons_of_mem label mem))
        fun other mem => atValue other (List.mem_cons_of_mem label mem)
      have here : label ∈ label :: labels := List.mem_cons_self
      have places : EachPlace holds (written (labels.flatMap labelTokens) ++ tail)
          (labelTokens label) := by
        unfold labelTokens
        exact ⟨atWith _, atKey label here _, atValue label here _ after, trivial⟩
      rw [List.flatMap_cons, eachPlace_append]
      refine ⟨.inr (.inl ?_), places, more⟩
      simp only [labelTokens, written_append, written_cons, List.append_assoc, List.cons_append]
      exact ⟨_, rfl⟩

/-- What holds at each kind of word holds at each word up to the window. -/
theorem RuleQuestion.eachPlace_tokens {holds : List Char → List Char → Prop} {tail : List Char}
    (follows : Follows tail) (atOf : ∀ rest, holds "of".toList rest)
    (atWith : ∀ rest, holds "with".toList rest)
    (atMetric : ∀ rest, Follows rest → holds question.metric.toList rest)
    (atKey : ∀ label ∈ question.labels, ∀ rest, holds label.1.toList ('=' :: rest))
    (atValue : ∀ label ∈ question.labels, ∀ rest, Follows rest → holds label.2.toList rest) :
    EachPlace holds tail question.tokens := by
  obtain ⟨after, more⟩ := eachPlace_labelTokens follows atWith question.labels atKey atValue
  exact ⟨atOf _, atMetric _ after, more⟩

theorem Follows.ends (follows : Follows rest) : wordBeside rest.head? = false := by
  rcases follows with rfl | ⟨after, rfl⟩ | ⟨after, rfl⟩
  · rfl
  · rfl
  · rfl

/-- A phrase of several words, whose first one is no fixed word of such questions, and which goes on
behind it with what may not follow a metric or a value. -/
def Foreign (phrase : List Char) : Prop :=
  phrase.head?.any Char.isAlpha = true ∧
    (∀ word ∈ ["of", "with", "over"] ++ operationWords.map Prod.fst,
      phrase.takeWhile isWord ≠ word.toList) ∧
    (phrase.dropWhile isWord).head? = some ' ' ∧
    ∀ next ∈ [" with".toList, " over".toList],
      ¬ phrase.dropWhile isWord <+: next ∧ ¬ next <+: phrase.dropWhile isWord

instance (phrase : List Char) : Decidable (Foreign phrase) :=
  inferInstanceAs (Decidable (_ ∧ _ ∧ _ ∧ _))

/-- A phrase that begins with a letter is at no word that begins with a digit. -/
theorem takeWhile_ne_of_digit {digit : Char} (alpha : phrase.head?.any Char.isAlpha = true)
    (isDigit : digit.isDigit = true) : phrase.takeWhile isWord ≠ digit :: rest := by
  intro same
  cases phrase with
  | nil => cases alpha
  | cons c phrase =>
      have letter : c.isAlpha = true := alpha
      rw [List.takeWhile_cons, if_pos (isWord_of_isAlpha letter)] at same
      obtain rfl := (List.cons.inj same).1
      have range := toNat_of_isAlpha letter
      have digits := toNat_of_isDigit isDigit
      omega

namespace Foreign

theorem begins (foreign : Foreign phrase) : phrase ≠ [] := by
  rintro rfl
  cases foreign.1

theorem wordBeside_head? (foreign : Foreign phrase) : wordBeside phrase.head? = true := by
  cases phrase with
  | nil => cases foreign.1
  | cons c phrase => exact isWord_of_isAlpha foreign.1

/-- A foreign phrase is longer than its first word. -/
theorem more_ne_nil (foreign : Foreign phrase) : phrase.dropWhile isWord ≠ [] := by
  intro ended
  have blank := foreign.2.2.1
  rw [ended] at blank
  cases blank

theorem not_prefix_of_follows (foreign : Foreign phrase) (follows : Follows rest) :
    ¬ phrase.dropWhile isWord <+: rest := by
  intro goesOn
  have apart {next : List Char} (mem : next ∈ [" with".toList, " over".toList])
      (ahead : next <+: rest) : False := by
    obtain ⟨short, long⟩ := foreign.2.2.2 next mem
    rcases List.prefix_or_prefix_of_prefix goesOn ahead with shorter | longer
    · exact short shorter
    · exact long longer
  rcases follows with rfl | label | window
  · exact foreign.more_ne_nil (List.prefix_nil.mp goesOn)
  · exact apart (by decide) label
  · exact apart (by decide) window

theorem not_prefix_of_equals (foreign : Foreign phrase) :
    ¬ phrase.dropWhile isWord <+: '=' :: rest := by
  rintro ⟨after, whole⟩
  have blank := foreign.2.2.1
  cases more : phrase.dropWhile isWord with
  | nil => exact foreign.more_ne_nil more
  | cons c behind =>
      rw [more] at blank whole
      have first : c = ' ' := Option.some.inj blank
      have equals : c = '=' := (List.cons.inj whole).1
      rw [first] at equals
      revert equals
      decide

/-- A foreign phrase stands at no word up to the window. -/
theorem eachPlace_tokens {tail : List Char} (foreign : Foreign phrase) (valid : question.Valid)
    (follows : Follows tail) :
    EachPlace (fun word rest => ¬ Stands phrase (word ++ rest)) tail question.tokens := by
  have proper := fun token mem => (plain_tokens valid token mem).proper
  have atWord {word : String} {rest : List Char}
      (fixed : word ∈ ["of", "with", "over"] ++ operationWords.map Prod.fst)
      (label : IsLabelText word) (ends : wordBeside rest.head? = false) :
      ¬ Stands phrase (word.toList ++ rest) :=
    not_stands_of_first foreign.begins label.isWord ends (foreign.2.1 word fixed)
  have beforeFollows {text : String} {rest : List Char} (label : IsLabelText text)
      (follows : Follows rest) : ¬ Stands phrase (text.toList ++ rest) :=
    not_stands_of_more foreign.begins label.isWord follows.ends
      (foreign.not_prefix_of_follows follows)
  refine EachPlace.of_ends proper follows.ends (RuleQuestion.eachPlace_tokens follows ?_ ?_ ?_ ?_ ?_)
  · exact fun rest ends => atWord (by decide) (by decide) ends
  · exact fun rest ends => atWord (by decide) (by decide) ends
  · exact fun rest follows _ => beforeFollows (isLabelText_of_isIdentifier valid.metric.1) follows
  · intro label mem rest ends
    have key := isLabelText_of_isIdentifier (valid.keys label mem).1
    exact not_stands_of_more foreign.begins key.isWord ends foreign.not_prefix_of_equals
  · exact fun label mem rest follows _ => beforeFollows (valid.values label mem).1 follows

end Foreign

namespace RuleQuestion

theorem toList_text (question : RuleQuestion) : question.text.toList =
    question.word.toList ++ written (question.allTokens SpelledWindow.spelledTokens) :=
  toList_wording (fun window => by simp [SpelledWindow.spelled, SpelledWindow.spelledTokens]) question

theorem toList_canonicalForm (question : RuleQuestion) : question.canonicalForm.toList =
    question.word.toList ++ written (question.allTokens SpelledWindow.compactTokens) :=
  toList_wording (fun window => by simp [SpelledWindow.compactTokens]) question

/-- The words of a question are plain if those of its window are. -/
theorem plain_allTokens {windowTokens : SpelledWindow → List Token} (valid : question.Valid)
    (plain : ∀ window : SpelledWindow, window.Valid → ∀ token ∈ windowTokens window,
      PlainToken token) : ∀ token ∈ question.allTokens windowTokens, PlainToken token := by
  intro token mem
  rcases List.mem_append.mp mem with early | late
  · exact plain_tokens valid token early
  · cases named : question.window with
    | none =>
        rw [named] at late
        cases late
    | some window =>
        rw [named] at late
        exact plain window (valid.window window named) token late

end RuleQuestion

namespace Foreign

theorem not_stands_over {rest : List Char} (foreign : Foreign phrase)
    (ends : wordBeside rest.head? = false) : ¬ Stands phrase ("over".toList ++ rest) :=
  not_stands_of_first foreign.begins (IsLabelText.isWord (by decide)) ends
    (foreign.2.1 "over" (by decide))

/-- Nor does it stand at a word that begins with the digits of a window. -/
theorem not_stands_digits (foreign : Foreign phrase) (valid : window.Valid)
    (begins : window.digits.toList <+: word) (letters : ∀ c ∈ word, isWord c = true)
    (ends : wordBeside rest.head? = false) : ¬ Stands phrase (word ++ rest) := by
  obtain ⟨c, digits, split, digit, -⟩ := SpelledWindow.exists_digit valid
  obtain ⟨more, rfl⟩ := begins
  refine not_stands_of_first foreign.begins letters ends ?_
  rw [split]
  exact takeWhile_ne_of_digit foreign.1 digit

/-- A foreign phrase is absent if it stands at no word of the window. -/
theorem absent {windowTokens : SpelledWindow → List Token} (foreign : Foreign phrase)
    (valid : question.Valid)
    (plain : ∀ window : SpelledWindow, window.Valid → ∀ token ∈ windowTokens window,
      PlainToken token)
    (begins : ∀ window, " over".toList <+: written (windowTokens window))
    (places : ∀ window ∈ question.window,
      EachPlace (fun word rest => ¬ Stands phrase (word ++ rest)) [] (windowTokens window)) :
    Absent phrase question.word.toList (question.allTokens windowTokens) := by
  have letters := (isLabelText_word valid).isWord
  have proper := fun token mem => (plain_allTokens valid plain token mem).proper
  have ends := wordBeside_written proper
  have operation : question.word ∈ ["of", "with", "over"] ++ operationWords.map Prod.fst :=
    List.mem_append_right _ (List.mem_map_of_mem valid.word)
  have follows : Follows (written (question.window.elim [] windowTokens)) := by
    cases question.window with
    | none => exact .inl rfl
    | some window => exact .inr (.inr (begins window))
  have early := foreign.eachPlace_tokens valid follows
  refine ⟨foreign.wordBeside_head?,
    not_stands_of_first foreign.begins letters ends (foreign.2.1 _ operation), ?_⟩
  refine eachPlace_append.mpr ⟨by rwa [List.append_nil], ?_⟩
  cases named : question.window with
  | none => trivial
  | some window => exact places window named

theorem absent_spelled (foreign : Foreign phrase) (valid : question.Valid) :
    Absent phrase question.word.toList (question.allTokens SpelledWindow.spelledTokens) := by
  refine foreign.absent valid (fun _ => SpelledWindow.plain_spelledTokens)
    (fun window => by simp [SpelledWindow.spelledTokens]) fun window named => ?_
  have proper := fun token mem =>
    (SpelledWindow.plain_spelledTokens (valid.window window named) token mem).proper
  refine EachPlace.of_ends proper rfl ⟨foreign.not_stands_over, fun ends => ?_, fun ends => ?_,
    trivial⟩
  · exact foreign.not_stands_digits (valid.window window named) List.prefix_rfl
      (proper (' ', window.digits.toList) (by simp [SpelledWindow.spelledTokens])).letters ends
  · exact not_stands_of_more foreign.begins
      (proper (' ', window.unit.toList) (by simp [SpelledWindow.spelledTokens])).letters ends
      (foreign.not_prefix_of_follows (.inl rfl))

theorem absent_compact (foreign : Foreign phrase) (valid : question.Valid) :
    Absent phrase question.word.toList (question.allTokens SpelledWindow.compactTokens) := by
  refine foreign.absent valid (fun _ => SpelledWindow.plain_compactTokens)
    (fun window => by simp [SpelledWindow.compactTokens]) fun window named => ?_
  have proper := fun token mem =>
    (SpelledWindow.plain_compactTokens (valid.window window named) token mem).proper
  refine EachPlace.of_ends proper rfl ⟨foreign.not_stands_over, fun ends => ?_, trivial⟩
  exact foreign.not_stands_digits (valid.window window named) (List.prefix_append _ _)
    (proper (' ', window.compact) (by simp [SpelledWindow.compactTokens])).letters ends

end Foreign

end PromScribe.Question

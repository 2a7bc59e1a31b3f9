import PromScribe.Proofs.Question.RuleCanonical
import PromScribe.Question.Intent

/-!
# The intent of questions for an operation

The canonical wording of such a question names its operation and no other, groups by nothing, and
names no time frame unless it has a window.
-/

namespace PromScribe.Question

open PromScribe.Text Token

variable {question : RuleQuestion} {keyword : String}

/-- Phrases that are absent are not named. -/
theorem namesAny_of_absent {keywords : List String} {word : List Char} {tokens : List Token}
    (letters : ∀ c ∈ word, isWord c = true) (proper : ∀ token ∈ tokens, token.Proper)
    (absent : ∀ keyword ∈ keywords, Absent keyword.toList word tokens) :
    namesAny keywords (word ++ written tokens) = false := by
  have plain := sweep_wholeWords_of_absent letters proper (List.forall_mem_map.mpr absent)
  unfold namesAny anywhere
  rw [valuesOf_of_plain plain]
  rfl

namespace RuleQuestion

/-- A text that is none of the words up to the window is none of the words behind the gaps. -/
theorem ne_of_mem_tokens (fixed : keyword ∉ ["of", "with"]) (metric : keyword ≠ question.metric)
    (labels : ∀ label ∈ question.labels, keyword ≠ label.1 ∧ keyword ≠ label.2) :
    ∀ token ∈ question.tokens, keyword.toList ≠ token.2 := by
  have apart {word : String} (other : keyword ≠ word) : keyword.toList ≠ word.toList := fun same =>
    other (String.toList_inj.mp same)
  simp only [List.mem_cons, List.not_mem_nil, or_false, not_or] at fixed
  simp only [tokens, labelTokens, List.mem_cons, List.mem_flatMap, List.not_mem_nil, or_false]
  rintro token (rfl | rfl | ⟨label, mem, rfl | rfl | rfl⟩)
  · exact apart fixed.1
  · exact apart metric
  · exact apart fixed.2
  · exact apart (labels label mem).1
  · exact apart (labels label mem).2

/-- The words of a question, its window in compact form. -/
theorem proper_canonicalForm (valid : question.Valid) :
    ∀ token ∈ question.allTokens SpelledWindow.compactTokens, token.Proper :=
  fun token mem =>
    (plain_allTokens valid (fun _ => SpelledWindow.plain_compactTokens) token mem).proper

/-- A text that begins with a letter, and that no free text is, is none of the words behind the
gaps. -/
theorem ne_of_mem_allTokens (alpha : keyword.toList.head?.any Char.isAlpha = true)
    (fixed : keyword ∉ ["of", "with", "over"]) (valid : question.Valid)
    (free : ∀ text, IsFree text → keyword ≠ text) :
    ∀ token ∈ question.allTokens SpelledWindow.compactTokens, keyword.toList ≠ token.2 := by
  simp only [List.mem_cons, List.not_mem_nil, or_false, not_or] at fixed
  intro token mem
  rcases List.mem_append.mp mem with early | within
  · exact ne_of_mem_tokens (by simp [fixed]) (free _ valid.metric.2)
      (fun label mem => ⟨free _ (valid.keys label mem).2, free _ (valid.values label mem).2.1⟩)
      token early
  cases named : question.window with
  | none =>
      rw [named] at within
      cases within
  | some window =>
      rw [named] at within
      simp only [Option.elim_some, SpelledWindow.compactTokens, List.mem_cons, List.not_mem_nil,
        or_false] at within
      rcases within with rfl | rfl
      · exact fun same => fixed.2.2 (String.toList_inj.mp same)
      · obtain ⟨c, digits, split, digit, -⟩ := SpelledWindow.exists_digit (valid.window window named)
        intro same
        unfold SpelledWindow.compact at same
        rw [same, split] at alpha
        have range := toNat_of_isDigit digit
        have letter := toNat_of_isAlpha (c := c) alpha
        omega

/-- A keyword is foreign, or it is a single word that no word of another operation is. -/
theorem keyword_apart : ∀ operation ∈ Operation.all, ∀ keyword ∈ operation.keywords,
    (Foreign keyword.toList ∨ keyword.toList.takeWhile isWord = keyword.toList) ∧
      keyword.toList.head?.any Char.isAlpha = true ∧ keyword ∉ ["of", "with", "over"] ∧
        ∀ entry ∈ operationWords, entry.2 ≠ operation → keyword ≠ entry.1 := by
  decide

/-- Of the operations just that of the question is named. -/
theorem namesAny_operation (valid : question.Valid) {operation : Operation}
    (mem : operation ∈ Operation.all) :
    namesAny operation.keywords question.canonicalForm.toList =
      decide (operation = question.operation) := by
  by_cases same : operation = question.operation
  · have all : ∀ entry ∈ operationWords, entry.1.toList ∈ entry.2.keywords.map String.toList := by
      decide
    have named := all _ valid.word
    rw [decide_eq_true same, same, toList_canonicalForm]
    exact anywhere_wholeWords named (isLabelText_word valid).1 (isLabelText_word valid).isWord
      (wordBeside_written (proper_canonicalForm valid))
  · rw [decide_eq_false same]
    rw [toList_canonicalForm]
    refine namesAny_of_absent (isLabelText_word valid).isWord (proper_canonicalForm valid)
      fun keyword member => ?_
    obtain ⟨shape, alpha, fixed, others⟩ := keyword_apart operation mem keyword member
    rcases shape with foreign | single
    · exact foreign.absent_compact valid
    · have nonempty : keyword.toList ≠ [] := fun empty => by
        rw [empty] at alpha
        cases alpha
      refine Absent.of_ne single nonempty (isLabelText_word valid).isWord (proper_canonicalForm valid) ?_ ?_
      · have other := others _ valid.word fun equal => same equal.symm
        exact fun equal => other (String.toList_inj.mp equal)
      · refine ne_of_mem_allTokens alpha fixed valid ?_
        rintro text free rfl
        exact free.2 operation mem member

/-- A time frame is named by foreign phrases and by numbers with a unit. -/
theorem timeFrame_apart : ∀ frame ∈ TimeFrame.all, ∀ keyword ∈ frame.keywords,
    Foreign keyword.toList ∨
      keyword.toList.takeWhile isWord = keyword.toList ∧
        keyword.toList.takeWhile Char.isDigit ≠ [] ∧
          ∃ unit ∈ compactUnits ++ unitWords,
            keyword.toList.dropWhile Char.isDigit = unit.toList := by
  decide

/-- Without a window no time frame is named. -/
theorem namesAny_timeFrame (valid : question.Valid) (unframed : question.window = none)
    {frame : TimeFrame} (mem : frame ∈ TimeFrame.all) :
    namesAny frame.keywords question.canonicalForm.toList = false := by
  rw [toList_canonicalForm]
  refine namesAny_of_absent (isLabelText_word valid).isWord (proper_canonicalForm valid)
    fun keyword member => ?_
  rcases timeFrame_apart frame mem keyword member with foreign | ⟨single, number, unit, known, split⟩
  · exact foreign.absent_compact valid
  have timed : NamesTime keyword := namesTime_iff.mpr ⟨number, unit, known, split⟩
  have apart {text : String} (headless : text.toList.takeWhile Char.isDigit = []) :
      keyword ≠ text := by
    rintro rfl
    exact number headless
  have operation : ∀ entry ∈ operationWords, entry.1.toList.takeWhile Char.isDigit = [] := by decide
  have nonempty : keyword.toList ≠ [] := fun empty => number (by rw [empty]; rfl)
  refine Absent.of_ne single nonempty (isLabelText_word valid).isWord (proper_canonicalForm valid)
    (fun same => apart (operation _ valid.word) (String.toList_inj.mp same)) ?_
  simp only [allTokens, unframed, Option.elim_none, List.append_nil]
  refine ne_of_mem_tokens ?_ (apart (takeWhile_of_isIdentifier valid.metric.1)) fun label mem =>
    ⟨apart (takeWhile_of_isIdentifier (valid.keys label mem).1), ?_⟩
  · simp only [List.mem_cons, List.not_mem_nil, or_false, not_or]
    exact ⟨apart (by decide), apart (by decide)⟩
  · rintro rfl
    exact (valid.values label mem).2.2 timed

theorem startsWords_byClause : StartsWords byClause := by
  intro before text hit found
  unfold byClause at found
  split at found
  · next first rest =>
      dsimp only at found
      split at found
      · next here =>
          simp only [Bool.and_eq_true, Bool.not_eq_true'] at here
          exact ⟨here.1.1, rfl⟩
      · cases found
  · cases found

/-- Only the word `by` begins a grouping. -/
theorem misses_byClause {word rest : List Char} (letters : ∀ c ∈ word, isWord c = true)
    (ends : wordBeside rest.head? = false) (apart : "by".toList ≠ word) :
    Misses byClause word rest := by
  intro before _
  unfold byClause
  split
  · next first after split =>
      have same := takeWhile_run letters ends
      rw [split] at same
      exact absurd same apart
  · rfl

/-- Nothing is grouped by. -/
theorem groupLabel?_canonicalForm (valid : question.Valid) :
    groupLabel? question.canonicalForm.toList = none := by
  have proper := proper_canonicalForm valid
  have others : ∀ token ∈ question.allTokens SpelledWindow.compactTokens,
      "by".toList ≠ token.2 :=
    ne_of_mem_allTokens (by decide) (by decide) valid fun text free => free.1.symm
  have operation : ∀ entry ∈ operationWords, "by".toList ≠ entry.1.toList := by decide
  have plain := sweep_plain startsWords_byClause (isLabelText_word valid).isWord proper
    (misses_byClause (isLabelText_word valid).isWord (wordBeside_written proper) (operation _ valid.word))
    (EachPlace.of_ends proper rfl (EachPlace.of_forall fun token mem rest ends =>
      misses_byClause (proper token mem).letters ends (others token mem)))
  unfold groupLabel?
  rw [toList_canonicalForm, valuesOf_of_plain plain]
  rfl

theorem lower_canonicalForm (valid : question.Valid) :
    lower question.canonicalForm.toList = question.canonicalForm.toList := by
  rw [toList_canonicalForm]
  exact lower_written (plain_allTokens valid fun _ => SpelledWindow.plain_compactTokens)
    (isLabelText_word valid).2

/-- The intent of the question is its operation alone, unless it has a window. -/
theorem intent_canonicalForm (valid : question.Valid) :
    (Intent.ofText question.canonicalForm).operation = some question.operation ∧
      (Intent.ofText question.canonicalForm).groupLabel = none ∧
        (question.window = none → (Intent.ofText question.canonicalForm).timeFrame = none) := by
  unfold Intent.ofText
  dsimp only
  rw [lower_canonicalForm valid]
  refine ⟨?_, groupLabel?_canonicalForm valid, fun unframed => ?_⟩
  · have named := fun operation mem => @namesAny_operation question valid operation mem
    have known : question.operation ∈ Operation.all := by
      cases question.operation <;> decide
    cases found : Operation.all.find? fun operation =>
        namesAny operation.keywords question.canonicalForm.toList with
    | none =>
        have unnamed := List.find?_eq_none.mp found question.operation known
        rw [named _ known, decide_eq_true rfl] at unnamed
        exact absurd rfl unnamed
    | some operation =>
        have chosen := List.find?_some found
        rw [named _ (List.mem_of_find?_eq_some found)] at chosen
        rw [of_decide_eq_true chosen]
  · rw [List.find?_eq_none]
    intro frame mem
    rw [namesAny_timeFrame valid unframed mem]
    exact Bool.false_ne_true

end RuleQuestion

end PromScribe.Question

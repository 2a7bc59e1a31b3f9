import PromScribe.Proofs.Question.Duration
import PromScribe.Proofs.Text.Lower
import PromScribe.Proofs.Text.Spacing
import PromScribe.Question.Reading

/-!
# The canonical wording of questions for an operation

Such a question is in lower case, has none of the fixed phrases and single spaces between its words.
All that its canonical wording changes is the form of the window.
-/

namespace PromScribe.Question

open PromScribe.Text Token RuleQuestion

variable {α : Type} {recognise : Recogniser α} {question : RuleQuestion} {window : SpelledWindow}
variable {text tail word : List Char} {tokens : List Token}

/-- Plain words have no capital letters. -/
theorem lower_written (plain : ∀ token ∈ tokens, PlainToken token)
    (letters : ∀ c ∈ word, continuesLabel c = true) :
    lower (word ++ written tokens) = word ++ written tokens := by
  have small (c : Char) (label : continuesLabel c = true) : c.val < 128 ∧ c.isUpper = false :=
    ⟨val_lt_of_continuesLabel label, isUpper_of_continuesLabel label⟩
  refine lower_of_small fun c mem => ?_
  rcases List.mem_append.mp mem with first | later
  · exact small c (letters c first)
  · obtain ⟨token, member, within⟩ := List.mem_flatMap.mp later
    rcases List.mem_cons.mp within with rfl | inWord
    · rcases (plain token member).gap with gap | gap <;> rw [gap] <;> decide
    · exact small c ((plain token member).letters c inWord)

/-- Runs with single spaces between them are the words behind their gaps. -/
theorem intercalate_wordsFrom (plain : ∀ token ∈ tokens, PlainToken token) (nonempty : word ≠ []) :
    wordsFrom word.reverse (written tokens) ≠ [] ∧
      List.intercalate [' '] (wordsFrom word.reverse (written tokens)) = word ++ written tokens := by
  induction tokens generalizing word with
  | nil => simp [wordsFrom, nonempty]
  | cons token tokens ih =>
      obtain ⟨gap, next⟩ := token
      obtain ⟨gaps, begins, letters⟩ := plain (gap, next) List.mem_cons_self
      have unbroken : ∀ c ∈ next, isBlank c = false := fun c mem =>
        isBlank_of_continuesLabel (letters c mem)
      have more := fun token mem => plain token (List.mem_cons_of_mem _ mem)
      rw [written_cons]
      rcases gaps with rfl | rfl
      · -- The blank closes the run, and the next word opens another one.
        obtain ⟨full, same⟩ := ih more begins
        have closed : wordsFrom word.reverse (' ' :: (next ++ written tokens)) =
            word :: wordsFrom next.reverse (written tokens) := by
          rw [wordsFrom, if_pos (by decide), if_neg (by simpa using nonempty),
            wordsFrom_append [] _ unbroken, List.append_nil, List.reverse_reverse]
        rw [closed, List.intercalate_cons_of_ne_nil full, same]
        exact ⟨List.cons_ne_nil _ _, by simp⟩
      · -- The equals sign goes on with the run.
        have longer : wordsFrom word.reverse ('=' :: (next ++ written tokens)) =
            wordsFrom (word ++ '=' :: next).reverse (written tokens) := by
          rw [wordsFrom, if_neg (by decide), wordsFrom_append _ _ unbroken]
          simp
        have joined := ih more (List.append_ne_nil_of_left_ne_nil nonempty ('=' :: next))
        rw [longer]
        simpa using joined

/-- Single spaces between words stay as they are. -/
theorem singleSpaced_written (plain : ∀ token ∈ tokens, PlainToken token) (nonempty : word ≠ [])
    (letters : ∀ c ∈ word, continuesLabel c = true) :
    singleSpaced (word ++ written tokens) = word ++ written tokens := by
  unfold singleSpaced words
  rw [wordsFrom_append [] _ fun c mem => isBlank_of_continuesLabel (letters c mem),
    List.append_nil]
  exact (intercalate_wordsFrom plain nonempty).2

/-- Every phrase that is replaced is foreign to such questions. -/
theorem foreign_phrases : ∀ phrase ∈ phrases, Foreign phrase.1.toList := by
  decide

/-- A text where none of the replaced phrases stands is left as it is. -/
theorem foldPhrases_written (letters : ∀ c ∈ word, isWord c = true)
    (proper : ∀ token ∈ tokens, token.Proper)
    (absent : ∀ phrase ∈ phrases, Absent phrase.1.toList word tokens) :
    foldPhrases (word ++ written tokens) = word ++ written tokens := by
  have kept (phrase : String × String) (gone : Absent phrase.1.toList word tokens) :
      foldPhrase (word ++ written tokens) phrase = word ++ written tokens := by
    unfold foldPhrase
    refine rewriteWith_of_plain (sweep_wholeWords_of_absent letters proper fun only mem => ?_)
    rwa [List.mem_singleton.mp mem]
  have all (folded : List (String × String))
      (gone : ∀ phrase ∈ folded, Absent phrase.1.toList word tokens) :
      folded.foldl foldPhrase (word ++ written tokens) = word ++ written tokens := by
    induction folded with
    | nil => rfl
    | cons phrase others ih =>
        rw [List.foldl_cons, kept phrase (gone phrase List.mem_cons_self)]
        exact ih fun other mem => gone other (List.mem_cons_of_mem phrase mem)
  exact all phrases absent

namespace RuleQuestion

theorem foldPhrases_text (valid : question.Valid) :
    foldPhrases question.text.toList = question.text.toList := by
  rw [toList_text]
  exact foldPhrases_written (isLabelText_word valid).isWord
    (fun token mem =>
      (plain_allTokens valid (fun _ => SpelledWindow.plain_spelledTokens) token mem).proper)
    fun phrase mem => (foreign_phrases phrase mem).absent_spelled valid

/-- The window is put into its compact form, and nothing else is a duration. -/
theorem foldDurations_text (valid : question.Valid) :
    foldDurations question.text.toList = question.canonicalForm.toList := by
  unfold foldDurations
  rw [toList_text, toList_canonicalForm]
  cases named : question.window with
  | none =>
      have plain := sweep_unframed startsWords_spelledDuration timely_spelledDuration valid
      simp only [allTokens, named, Option.elim_none, List.append_nil]
      exact rewriteWith_of_plain plain
  | some window =>
      have windowValid := valid.window window named
      have nonempty : window.spelled ≠ [] := List.append_ne_nil_of_left_ne_nil windowValid.nonempty _
      have framed := sweep_framed startsWords_spelledDuration timely_spelledDuration valid nonempty
        (SpelledWindow.spelledDuration_spelled windowValid (by decide))
      have split : written (question.allTokens SpelledWindow.spelledTokens) =
          written question.frameTokens ++ ' ' :: window.spelled := by
        simp [allTokens, frameTokens, named, SpelledWindow.spelledTokens, SpelledWindow.spelled]
      rw [split]
      unfold rewriteWith
      rw [framed, List.flatMap_append, flatMap_map_plain fun _ => rfl]
      simp [allTokens, frameTokens, named, SpelledWindow.compactTokens]

/-- The canonical wording of the question puts its window into the compact form. -/
theorem canonical_text (valid : question.Valid) :
    canonical question.text = question.canonicalForm := by
  obtain ⟨nonempty, letters⟩ := isLabelText_word valid
  have spelled := plain_allTokens valid fun _ => SpelledWindow.plain_spelledTokens
  have compact := plain_allTokens valid fun _ => SpelledWindow.plain_compactTokens
  have small : lower question.text.toList = question.text.toList := by
    rw [toList_text]
    exact lower_written spelled letters
  have spaced : singleSpaced question.canonicalForm.toList = question.canonicalForm.toList := by
    rw [toList_canonicalForm]
    exact singleSpaced_written compact nonempty letters
  unfold canonical canonicalText
  rw [small, foldPhrases_text valid, foldDurations_text valid, spaced, String.ofList_toList]

/-- The canonical wording is not longer than the question. -/
theorem byteCount_canonicalForm_le (question : RuleQuestion) :
    byteCount question.canonicalForm ≤ byteCount question.text := by
  unfold byteCount
  rw [toList_text, toList_canonicalForm]
  cases named : question.window with
  | none => simp [allTokens, named]
  | some window =>
      have shorter : byteLength (window.unit.toList.take 1) ≤ byteLength window.unit.toList := by
        conv => rhs; rw [← List.take_append_drop 1 window.unit.toList, byteLength_append]
        exact Nat.le_add_right _ _
      simp only [allTokens, named, Option.elim_some, SpelledWindow.spelledTokens,
        SpelledWindow.compactTokens, SpelledWindow.compact, written_append, written_cons,
        written_nil, byteLength_append, byteLength]
      omega

theorem isBlankText_of_word {text : String} (valid : question.Valid) {rest : List Char}
    (begins : text.toList = question.word.toList ++ rest) : isBlankText text = false := by
  obtain ⟨nonempty, letters⟩ := isLabelText_word valid
  unfold isBlankText
  rw [begins]
  cases split : question.word.toList with
  | nil => exact absurd split nonempty
  | cons c word =>
      rw [split] at letters
      simp [isBlank_of_continuesLabel (letters c List.mem_cons_self)]

/-- A question that is not too long is accepted, and so is its canonical wording. -/
theorem refusal?_eq_none {reader : Reader} (valid : question.Valid)
    (short : byteCount question.text ≤ reader.limit) :
    reader.refusal? question.text = none ∧ reader.refusal? question.canonicalForm = none := by
  have shorter := Nat.le_trans (byteCount_canonicalForm_le question) short
  unfold Reader.refusal?
  rw [isBlankText_of_word valid (toList_text question),
    isBlankText_of_word valid (toList_canonicalForm question)]
  simp [Nat.not_lt.mpr short, Nat.not_lt.mpr shorter]

end RuleQuestion

end PromScribe.Question

import Mathlib.Data.List.TakeWhile
import PromScribe.Proofs.Text.Lower
import PromScribe.Proofs.Text.Passage
import PromScribe.Proofs.Text.Spacing

/-!
# Neighbouring words

The word that a text begins with behind its blanks, and the one that it ends with in front of its
blanks.
-/

namespace PromScribe.Text

variable {text gap word lead tail front : List Char}

theorem lastOf_none (text : List Char) : lastOf none text = text.getLast? := by
  rcases List.eq_nil_or_concat' text with rfl | ⟨front, c, rfl⟩
  · rfl
  · rw [lastOf_concat, List.getLast?_concat]

/-- A run of a class ends within a text that has another character. -/
theorem takeWhile_append_within {inClass : Char → Bool} {c : Char} (mem : c ∈ text)
    (other : inClass c = false) (rest : List Char) :
    (text ++ rest).takeWhile inClass = text.takeWhile inClass ∧
      (text ++ rest).dropWhile inClass = text.dropWhile inClass ++ rest ∧
        text.dropWhile inClass ≠ [] := by
  induction text with
  | nil => cases mem
  | cons d text ih =>
      by_cases inside : inClass d = true
      · have later : c ∈ text := by
          rcases List.mem_cons.mp mem with rfl | later
          · rw [other] at inside
            cases inside
          · exact later
        obtain ⟨same, left, more⟩ := ih later
        simp [inside, same, left, more]
      · simp [inside]

/-- Behind a word there is no word character. -/
theorem wordBeside_dropWhile (text : List Char) :
    wordBeside (text.dropWhile isWord).head? = false := by
  have outside := List.head?_dropWhile_not isWord text
  unfold wordBeside
  cases behind : (text.dropWhile isWord).head? with
  | none => rfl
  | some c => simpa [behind] using outside

theorem BlankOrNone.wordBeside {place : Option Char} (blank : BlankOrNone place) :
    wordBeside place = false := by
  cases place with
  | none => rfl
  | some c => exact isWord_of_isBlank (blank c rfl)

/-- The word at the head of the text behind its blanks, if there is one. -/
def nextWord (text : List Char) : List Char :=
  (text.dropWhile isBlank).takeWhile isWord

theorem nextWord_cons {blank : Char} (white : isBlank blank = true)
    (begins : text.takeWhile isWord ≠ []) : nextWord (blank :: text) = text.takeWhile isWord := by
  unfold nextWord
  rw [List.dropWhile_cons_of_pos white]
  cases text with
  | nil => rfl
  | cons c text =>
      by_cases word : isWord c = true
      · rw [List.dropWhile_cons_of_neg (by simp [isBlank_of_isWord word])]
      · exact absurd (List.takeWhile_cons_of_neg word) begins

/-- A run of a class that stops behind the text ends where it would at the end of the text. -/
theorem takeWhile_append_stops {inClass : Char → Bool} {rest : List Char} (text : List Char)
    (ends : rest.head?.any inClass = false) :
    (text ++ rest).takeWhile inClass = text.takeWhile inClass := by
  by_cases outside : ∃ c ∈ text, inClass c = false
  · obtain ⟨c, mem, other⟩ := outside
    exact (takeWhile_append_within mem other rest).1
  · have all : ∀ c ∈ text, inClass c = true := fun c mem =>
      eq_true_of_ne_false fun other => outside ⟨c, mem, other⟩
    rw [takeWhile_run all ends, List.takeWhile_eq_self_iff.mpr all]

theorem dropWhile_append_stops {inClass : Char → Bool} {rest : List Char} (text : List Char)
    (ends : rest.head?.any inClass = false) :
    (text ++ rest).dropWhile inClass = text.dropWhile inClass ++ rest := by
  induction text with
  | nil => exact dropWhile_run nofun ends
  | cons c text ih =>
      by_cases inside : inClass c = true
      · rw [List.cons_append, List.dropWhile_cons_of_pos inside, ih,
          List.dropWhile_cons_of_pos inside]
      · rw [List.cons_append, List.dropWhile_cons_of_neg inside,
          List.dropWhile_cons_of_neg inside, List.cons_append]

/-- Without a blank at its head a text begins with its next word. -/
theorem nextWord_append {rest : List Char} (nonempty : text ≠ [])
    (unbroken : ∀ c ∈ text, isBlank c = false) (blank : BlankOrNone rest.head?) :
    (text ++ rest).takeWhile isBlank = [] ∧ nextWord (text ++ rest) = text.takeWhile isWord := by
  have stops : ((text ++ rest).dropWhile isBlank).takeWhile isWord = text.takeWhile isWord := by
    cases text with
    | nil => exact absurd rfl nonempty
    | cons c text =>
        have close := unbroken c List.mem_cons_self
        rw [List.cons_append, List.dropWhile_cons_of_neg (by simp [close]), ← List.cons_append]
        exact takeWhile_append_stops _ blank.wordBeside
  refine ⟨?_, stops⟩
  cases text with
  | nil => exact absurd rfl nonempty
  | cons c text =>
      have close := unbroken c List.mem_cons_self
      rw [List.cons_append, List.takeWhile_cons_of_neg (by simp [close])]

/-- The word at the end of the text in front of its blanks, if there is one. -/
def lastWord (text : List Char) : List Char :=
  (nextWord text.reverse).reverse

/-- The text is blanks, its next word, and what follows that. -/
structure Opening (text gap word tail : List Char) : Prop where
  split : text = gap ++ (word ++ tail)
  blanks : ∀ c ∈ gap, isBlank c = true
  letters : ∀ c ∈ word, isWord c = true
  closed : wordBeside tail.head? = false
  stops : (word ++ tail).head?.any isBlank = false

theorem exists_opening (text : List Char) :
    ∃ gap tail, Opening text gap (nextWord text) tail := by
  have parts : nextWord text ++ (text.dropWhile isBlank).dropWhile isWord =
      text.dropWhile isBlank := List.takeWhile_append_dropWhile
  refine ⟨text.takeWhile isBlank, (text.dropWhile isBlank).dropWhile isWord, ?_, ?_, ?_, ?_, ?_⟩
  · rw [parts, List.takeWhile_append_dropWhile]
  · exact fun c mem => List.mem_takeWhile_imp mem
  · exact fun c mem => List.mem_takeWhile_imp mem
  · exact wordBeside_dropWhile _
  · rw [parts]
    have outside := List.head?_dropWhile_not isBlank text
    cases behind : (text.dropWhile isBlank).head? with
    | none => rfl
    | some c => simpa [behind] using outside

namespace Opening

theorem takeWhile_isBlank (opening : Opening text gap word tail) :
    text.takeWhile isBlank = gap := by
  rw [opening.split]
  exact takeWhile_run opening.blanks opening.stops

theorem dropWhile_isBlank (opening : Opening text gap word tail) :
    text.dropWhile isBlank = word ++ tail := by
  rw [opening.split]
  exact dropWhile_run opening.blanks opening.stops

theorem nextWord_eq (opening : Opening text gap word tail) : nextWord text = word := by
  unfold nextWord
  rw [opening.dropWhile_isBlank]
  exact takeWhile_run opening.letters opening.closed

/-- Another text may follow that begins as the first one did. -/
theorem follow {behind : List Char} (opening : Opening text gap word tail)
    (same : behind.head? = tail.head?) :
    Opening (gap ++ (word ++ behind)) gap word behind where
  split := rfl
  blanks := opening.blanks
  letters := opening.letters
  closed := by rw [same]; exact opening.closed
  stops := by
    have stops := opening.stops
    rw [List.head?_append] at stops ⊢
    rwa [same]

end Opening

/-- The text is what stands before its last word, that word, and blanks. -/
structure Closing (text lead word gap : List Char) : Prop where
  split : text = lead ++ (word ++ gap)
  closed : wordBeside (lastOf none lead) = false
  letters : ∀ c ∈ word, isWord c = true
  blanks : ∀ c ∈ gap, isBlank c = true
  stops : (lastOf none (lead ++ word)).any isBlank = false

/-- A text that ends with a blank has a gap behind its last word. -/
theorem exists_closing (ends : BlankOrNone text.getLast?) :
    ∃ lead gap, Closing text lead (lastWord text) gap ∧ (text = [] ∨ gap ≠ []) := by
  obtain ⟨gap, tail, opening⟩ := exists_opening text.reverse
  have turned : text = tail.reverse ++ (lastWord text ++ gap.reverse) := by
    have reversed := congrArg List.reverse opening.split
    simpa [lastWord] using reversed
  refine ⟨tail.reverse, gap.reverse, ⟨turned, ?_, ?_, ?_, ?_⟩, ?_⟩
  · rw [lastOf_none, List.getLast?_reverse]
    exact opening.closed
  · exact fun c mem => opening.letters c (List.mem_reverse.mp mem)
  · exact fun c mem => opening.blanks c (List.mem_reverse.mp mem)
  · unfold lastWord
    rw [lastOf_none, ← List.reverse_append, List.getLast?_reverse]
    exact opening.stops
  · rcases List.eq_nil_or_concat' text with rfl | ⟨front, blank, rfl⟩
    · exact .inl rfl
    · have white : isBlank blank = true := ends blank List.getLast?_concat
      refine .inr fun none => ?_
      have found := opening.takeWhile_isBlank
      rw [List.reverse_eq_nil_iff.mp none, List.reverse_append, List.reverse_singleton,
        List.singleton_append, List.takeWhile_cons, if_pos white] at found
      cases found

namespace Closing

theorem lastWord_eq (closing : Closing text lead word gap) : lastWord text = word := by
  have opening : Opening text.reverse gap.reverse word.reverse lead.reverse := by
    refine ⟨?_, ?_, ?_, ?_, ?_⟩
    · rw [closing.split]
      simp
    · exact fun c mem => closing.blanks c (List.mem_reverse.mp mem)
    · exact fun c mem => closing.letters c (List.mem_reverse.mp mem)
    · rw [List.head?_reverse, ← lastOf_none]
      exact closing.closed
    · rw [← List.reverse_append, List.head?_reverse, ← lastOf_none]
      exact closing.stops
  unfold lastWord
  rw [opening.nextWord_eq, List.reverse_reverse]

/-- Another text may stand in front that ends as the first one did. -/
theorem follow {other : List Char} (closing : Closing text lead word gap)
    (same : lastOf none other = lastOf none lead) :
    Closing (other ++ (word ++ gap)) other word gap where
  split := rfl
  closed := by rw [same]; exact closing.closed
  letters := closing.letters
  blanks := closing.blanks
  stops := by
    have stops := closing.stops
    rw [lastOf_append] at stops ⊢
    rwa [same]

end Closing

end PromScribe.Text

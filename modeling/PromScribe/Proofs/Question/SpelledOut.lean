import Mathlib.Data.List.Find
import PromScribe.Proofs.Question.Duration
import PromScribe.Proofs.Text.Neighbour

/-!
# Spelled-out durations around a name

A spelled-out duration is a number, blanks and a unit of time. Where no number stands in front of a
name and none with a unit begins in it, what is in front of the name and what is behind it are put
into compact form one by one.
-/

namespace PromScribe.Question

open PromScribe.Text

variable {text rest front back name gap next tail : List Char} {before : Option Char}

/-- Digits of any script. -/
def IsNumber (word : List Char) : Prop :=
  word ≠ [] ∧ ∀ c ∈ word, isDecimal c = true

instance (word : List Char) : Decidable (IsNumber word) :=
  decidable_of_iff (word ≠ [] ∧ word.all isDecimal = true) (by simp [IsNumber])

/-- A name of letters, digits, underscores and colons, that begins with no digit or colon and ends
with no colon. -/
structure IsMetricName (name : List Char) : Prop where
  begins : name.head?.any startsKey = true
  letters : ∀ c ∈ name, continuesMetric c = true
  ends : name.getLast? ≠ some ':'

/-- The unit of time at the head of a text is its first word. -/
theorem wholeWordAhead_eq (text : List Char) :
    spelledDuration.wholeWordAhead text =
      (unitWords.map String.toList).find? (· == text.takeWhile isWord) := by
  unfold spelledDuration.wholeWordAhead
  refine List.find?_congr fun unit mem => ?_
  obtain ⟨nonempty, single, -⟩ := unit_apart unit mem
  have letters : ∀ c ∈ unit, isWord c = true := List.takeWhile_eq_self_iff.mp single
  have parts : text.takeWhile isWord ++ text.dropWhile isWord = text :=
    List.takeWhile_append_dropWhile
  have stops := wordBeside_dropWhile text
  rw [Bool.eq_iff_iff]
  simp only [Bool.and_eq_true, List.isPrefixOf_iff_prefix, beq_iff_eq]
  constructor
  · intro stands
    rw [← parts] at stands
    have same := (eq_of_stands nonempty (fun c mem => List.mem_takeWhile_imp mem) stops stands).1
    rwa [single] at same
  · intro same
    have behind : text.drop unit.length = text.dropWhile isWord := by
      rw [same]
      exact drop_takeWhile isWord text
    refine ⟨⟨text.dropWhile isWord, by rw [same, parts]⟩, ?_⟩
    rw [behind]
    exact (atEdge_of_behind (wordBeside_getLast? nonempty letters)).mpr stops

/-- A spelled-out duration is known from the digits at the head of the text, the gap behind them,
and the word behind the gap. -/
theorem spelledDuration_eq (before : Option Char) (text : List Char) :
    spelledDuration before text =
      if (text.takeWhile isDecimal).isEmpty || wordBeside before then none
      else
        ((unitWords.map String.toList).find? (· == nextWord (text.dropWhile isDecimal))).map
          fun unit =>
            ⟨(text.takeWhile isDecimal).length +
                ((text.dropWhile isDecimal).takeWhile isBlank).length + unit.length - 1,
              text.takeWhile isDecimal ++ unit.take 1⟩ := by
  unfold spelledDuration
  dsimp only
  rw [drop_takeWhile, drop_takeWhile, wholeWordAhead_eq]
  rfl

/-- Texts with the same digits, gap and word at their heads begin the same duration. -/
theorem spelledDuration_congr {other : List Char}
    (digits : text.takeWhile isDecimal = other.takeWhile isDecimal)
    (gaps : (text.dropWhile isDecimal).takeWhile isBlank =
      (other.dropWhile isDecimal).takeWhile isBlank)
    (words : nextWord (text.dropWhile isDecimal) = nextWord (other.dropWhile isDecimal))
    (before : Option Char) : spelledDuration before text = spelledDuration before other := by
  rw [spelledDuration_eq, spelledDuration_eq, digits, gaps, words]

/-- A spelled-out duration is digits, a gap and a unit; its compact form is the digits and the first
letter of the unit. -/
theorem exists_parts_of_spelledDuration {hit : Hit (List Char)}
    (found : spelledDuration before text = some hit) :
    ∃ digits gap unit tail, text = (digits ++ (gap ++ unit)) ++ tail ∧
      IsNumber digits ∧ unit ≠ [] ∧ (∀ c ∈ unit, isWord c = true) ∧
      hit = ⟨(digits ++ (gap ++ unit)).length - 1, digits ++ unit.take 1⟩ := by
  rw [spelledDuration_eq] at found
  split at found
  · cases found
  · next here =>
      simp only [Bool.or_eq_true, List.isEmpty_iff, not_or] at here
      obtain ⟨unit, picked, rfl⟩ := Option.map_eq_some_iff.mp found
      have same : unit = nextWord (text.dropWhile isDecimal) := by
        simpa using List.find?_some picked
      obtain ⟨nonempty, single, -⟩ := unit_apart unit (List.mem_of_find?_eq_some picked)
      obtain ⟨gap, tail, opening⟩ := exists_opening (text.dropWhile isDecimal)
      rw [← same] at opening
      have whole : text = (text.takeWhile isDecimal ++ (gap ++ unit)) ++ tail := by
        have parts : text.takeWhile isDecimal ++ text.dropWhile isDecimal = text :=
          List.takeWhile_append_dropWhile
        rw [List.append_assoc, List.append_assoc, ← opening.split, parts]
      refine ⟨text.takeWhile isDecimal, gap, unit, tail, whole, ⟨here.1, ?_⟩, nonempty,
        List.takeWhile_eq_self_iff.mp single, ?_⟩
      · exact fun c mem => List.mem_takeWhile_imp mem
      · rw [opening.takeWhile_isBlank, List.length_append, List.length_append, Nat.add_assoc]

theorem endsWords_spelledDuration : EndsWords spelledDuration := by
  intro before text hit found
  obtain ⟨digits, gap, unit, tail, whole, number, nonempty, letters, rfl⟩ :=
    exists_parts_of_spelledDuration found
  have length := List.length_pos_of_ne_nil number.1
  refine ⟨_, tail, whole, ?_, ?_⟩
  · dsimp only
    rw [List.length_append]
    omega
  · rw [lastOf_append, lastOf_append, lastOf_of_ne_nil nonempty, lastOf_none]
    exact wordBeside_getLast? nonempty letters

theorem isDecimal_of_isBlank {c : Char} (white : isBlank c = true) : isDecimal c = false := by
  refine eq_false_of_ne_true fun decimal => ?_
  have gap := isWord_of_isBlank white
  rw [isWord_of_isDecimal decimal] at gap
  cases gap

/-- No duration begins in a text that ends with a blank and goes on behind it, unless a number is
the last word of the text. -/
theorem settles_spelledDuration (ends : BlankOrNone front.getLast?)
    (apart : ¬ IsNumber (lastWord front)) : Settles spelledDuration rest none front := by
  refine Settles.of_forall fun early c part split => ?_
  have begins : c :: part ≠ [] := List.cons_ne_nil c part
  have nonempty : front ≠ [] := by simp [split]
  have found := List.getLast?_eq_some_getLast nonempty
  have white := ends (front.getLast nonempty) found
  have mem {text : List Char} (within : text <:+ c :: part) (some_ : text ≠ []) :
      front.getLast nonempty ∈ text := by
    obtain ⟨pre, whole⟩ := within
    have last : lastOf none front = lastOf none text := by
      rw [split, lastOf_append, lastOf_of_ne_nil begins, ← whole, lastOf_append,
        lastOf_of_ne_nil some_]
    rw [lastOf_none, lastOf_none, found] at last
    exact List.mem_of_getLast? last.symm
  obtain ⟨digits, left, -⟩ := takeWhile_append_within (mem List.suffix_rfl begins)
    (isDecimal_of_isBlank white) rest
  change spelledDuration _ ((c :: part) ++ rest) = _
  by_cases worded : ∃ d ∈ (c :: part).dropWhile isDecimal, isBlank d = false
  · obtain ⟨d, member, close⟩ := worded
    obtain ⟨gaps, beyond, word⟩ := takeWhile_append_within member close rest
    have inside := mem ((List.dropWhile_suffix _).trans (List.dropWhile_suffix _)) word
    have ended := (takeWhile_append_within inside (isWord_of_isBlank white) rest).1
    apply spelledDuration_congr digits
    · rw [left, gaps]
    · unfold nextWord
      rw [left, beyond, ended]
  · -- Only blanks follow the digits, so that these would be the last word.
    have blanks : ∀ d ∈ (c :: part).dropWhile isDecimal, isBlank d = true := fun d member =>
      eq_true_of_ne_false fun close => worded ⟨d, member, close⟩
    have refused :
        (((c :: part).takeWhile isDecimal).isEmpty || wordBeside (lastOf none early)) = true := by
      by_contra number
      simp only [Bool.or_eq_true, List.isEmpty_iff, not_or] at number
      have closing : Closing front early ((c :: part).takeWhile isDecimal)
          ((c :: part).dropWhile isDecimal) := by
        refine ⟨?_, eq_false_of_ne_true number.2, fun d member => ?_, blanks, ?_⟩
        · rw [List.takeWhile_append_dropWhile, split]
        · exact isWord_of_isDecimal (List.mem_takeWhile_imp member)
        · rw [lastOf_append, lastOf_of_ne_nil number.1, lastOf_none,
            List.getLast?_eq_some_getLast number.1]
          exact isBlank_of_isWord (isWord_of_isDecimal
            (List.mem_takeWhile_imp (List.getLast_mem number.1)))
      rw [closing.lastWord_eq] at apart
      exact apart ⟨number.1, fun d member => List.mem_takeWhile_imp member⟩
    rw [spelledDuration_eq, spelledDuration_eq, digits, if_pos refused, if_pos refused]

/-- No number with a unit of time begins behind a colon of the name, which stands in front of
`after`. -/
def Untimed (name after : List Char) : Prop :=
  ∀ front back, name = front ++ ':' :: back → spelledDuration (some ':') (back ++ after) = none

theorem passes_spelledDuration (metric : IsMetricName name) (untimed : Untimed name rest) :
    Passes spelledDuration rest before name := by
  refine Passes.of_forall fun front c part split => ?_
  rcases List.eq_nil_or_concat' front with rfl | ⟨early, d, rfl⟩
  · have starts : startsKey c = true := by
      have begins := metric.begins
      rwa [split] at begins
    rw [spelledDuration_eq, List.takeWhile_cons_of_neg (by simp [isDecimal_of_startsKey starts])]
    rfl
  · have letter : continuesMetric d = true := metric.letters d (by simp [split])
    rw [lastOf_concat]
    simp only [continuesMetric, Bool.or_eq_true, beq_iff_eq] at letter
    rcases letter with key | rfl
    · have within : wordBeside (some d) = true := isWord_of_continuesKey key
      exact startsWords_spelledDuration.inside within _
    · have behind := untimed early (c :: part) (by simp [split])
      exact behind

/-- A duration that begins in a text without blanks is known from the gap and the word that follow
the text. -/
theorem spelledDuration_follow {after other otherTail : List Char}
    (unbroken : ∀ c ∈ text, isBlank c = false) (opening : Opening after gap next tail)
    (blank : BlankOrNone after.head?) (again : Opening other gap next otherTail)
    (blankAgain : BlankOrNone other.head?) (before : Option Char) :
    spelledDuration before (text ++ after) = spelledDuration before (text ++ other) := by
  have notDecimal {behind : List Char} (blank : BlankOrNone behind.head?) :
      behind.head?.any isDecimal = false := by
    cases behind with
    | nil => rfl
    | cons c behind => exact isDecimal_of_isBlank (blank c rfl)
  by_cases worded : ∃ c ∈ text, isDecimal c = false
  · -- The digits end within the text, and so do the gap and the word.
    obtain ⟨c, mem, letter⟩ := worded
    obtain ⟨-, -, more⟩ := takeWhile_append_within mem letter []
    have close : ∀ d ∈ text.dropWhile isDecimal, isBlank d = false := fun d member =>
      unbroken d ((List.dropWhile_suffix _).subset member)
    have reads (behind : List Char) (blank : BlankOrNone behind.head?) :
        ((text ++ behind).dropWhile isDecimal).takeWhile isBlank = [] ∧
          nextWord ((text ++ behind).dropWhile isDecimal) =
            (text.dropWhile isDecimal).takeWhile isWord := by
      rw [(takeWhile_append_within mem letter behind).2.1]
      exact nextWord_append more close blank
    apply spelledDuration_congr
    · rw [takeWhile_append_stops text (notDecimal blank),
        takeWhile_append_stops text (notDecimal blankAgain)]
    · rw [(reads after blank).1, (reads other blankAgain).1]
    · rw [(reads after blank).2, (reads other blankAgain).2]
  · have number : ∀ c ∈ text, isDecimal c = true := fun c mem =>
      eq_true_of_ne_false fun other => worded ⟨c, mem, other⟩
    apply spelledDuration_congr
    · rw [takeWhile_run number (notDecimal blank), takeWhile_run number (notDecimal blankAgain)]
    · rw [dropWhile_run number (notDecimal blank), dropWhile_run number (notDecimal blankAgain),
        opening.takeWhile_isBlank, again.takeWhile_isBlank]
    · rw [dropWhile_run number (notDecimal blank), dropWhile_run number (notDecimal blankAgain),
        opening.nextWord_eq, again.nextWord_eq]

/-- What is in front of such a name is put into compact form by itself, and so is what is behind
it. -/
theorem foldDurations_between (metric : IsMetricName name) (untimed : Untimed name back)
    (ends : BlankOrNone front.getLast?) (apart : ¬ IsNumber (lastWord front))
    (blank : BlankOrNone back.head?) :
    foldDurations (front ++ (name ++ back)) = foldDurations front ++ (name ++ foldDurations back) ∧
      (foldDurations front).getLast? = front.getLast? ∧
        (foldDurations back).head? = back.head? := by
  have closed : wordBeside (lastOf none front) = false := by
    rw [lastOf_none]
    exact ends.wordBeside
  have starts := startsWords_spelledDuration
  have settles : Settles spelledDuration (name ++ back) none front :=
    settles_spelledDuration ends apart
  refine ⟨?_, ?_, head?_rewriteWith starts blank.wordBeside⟩
  · exact rewriteWith_parts starts endsWords_spelledDuration settles
      (passes_spelledDuration metric untimed) blank.wordBeside
  · rw [← lastOf_none, ← lastOf_none]
    exact lastOf_rewriteWith endsWords_spelledDuration closed

end PromScribe.Question

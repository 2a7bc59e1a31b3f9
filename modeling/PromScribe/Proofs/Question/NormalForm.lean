import PromScribe.Proofs.Question.Keyword
import PromScribe.Proofs.Question.Mention
import PromScribe.Proofs.Question.Reworded
import PromScribe.Proofs.Text.Small

/-!
# The normal form of questions

The canonical wording of a question has single spaces and no spelled-out duration. What is written
for a duration is no number and no unit of time, so that a number in front of a unit afterwards was
there before, and would have been reworded.

Phrases are replaced before single spaces are made. So a phrase with another gap between its words
than one space is left, and it is only replaced when the wording is put into canonical wording
again. These are the only questions whose wording does not stay as it is then, and the only ones for
which it matters what their gaps are; twice is always enough.
-/

namespace PromScribe.Question

open PromScribe.Text PromScribe.Text.Part

variable {digits first gap second unit word text other : List Char} {parts : List Text.Part}

/-- The text has a number and a unit of time, with blanks between them or nothing, and no word
character on either side. -/
def HasSpelledDuration (text : List Char) : Prop :=
  ∃ digits gap unit front back, StandsAlone text (digits ++ (gap ++ unit)) front back ∧
    IsNumber digits ∧ (∀ c ∈ gap, isBlank c = true) ∧ unit ∈ unitWords.map String.toList

/-- Digits end where a unit or its letter stands behind them. -/
theorem digits_unit (number : IsNumber digits) (starts : unit.head?.any isDecimal = false) :
    (digits ++ unit).takeWhile isDecimal = digits ∧ (digits ++ unit).dropWhile isDecimal = unit :=
  ⟨takeWhile_run number.2 starts, dropWhile_run number.2 starts⟩

theorem letter_of_unit (mem : unit ∈ unitWords.map String.toList) :
    (unit.take 1).head?.any isDecimal = false := by
  obtain ⟨⟨nonempty, -⟩, starts, -⟩ := unit_letter unit mem
  obtain ⟨c, more, rfl⟩ := List.exists_cons_of_ne_nil nonempty
  exact starts

/-- Behind the digits of a compact form a letter stands that is no unit. -/
theorem dropWhile_of_isCompact (compact : IsCompact word) :
    word.dropWhile isDecimal ≠ [] ∧ word.dropWhile isDecimal ∉ unitWords.map String.toList := by
  obtain ⟨digits, number, unit, mem, rfl⟩ := compact
  rw [(digits_unit number (letter_of_unit mem)).2]
  exact (unit_letter unit mem).2.2

/-- No number is written for a duration, nor a unit of time. -/
theorem unwritten_number (number : IsNumber word) : durations.Unwritten word :=
  unwritten_durations fun compact =>
    (dropWhile_of_isCompact compact).1 (List.dropWhile_eq_nil_iff.mpr number.2)

theorem unwritten_unit (mem : word ∈ unitWords.map String.toList) : durations.Unwritten word := by
  obtain ⟨⟨nonempty, -⟩, starts, -⟩ := unit_letter word mem
  obtain ⟨c, more, rfl⟩ := List.exists_cons_of_ne_nil nonempty
  have noDigit : isDecimal c = false := starts
  exact (durations_of_takeWhile (List.takeWhile_cons_of_neg (by simp [noDigit]))).1

/-- No word that is left is a number with a unit. -/
theorem not_isSpelled_of_mem (mem : .word word ∈ durations.apply parts) : ¬ IsSpelled word := by
  intro spelled
  have long (compact : IsCompact word) : False := (dropWhile_of_isCompact compact).2 spelled.1
  rcases Rewording.of_mem_apply mem with ⟨first, gap, second, written⟩ | ⟨other, -, same⟩
  · obtain ⟨number, unit, whole⟩ := of_durations_joint written
    exact long ⟨first, number, second, unit, Part.word.inj whole⟩
  · have written : shortened other = word := same
    by_cases before : IsSpelled other
    · exact long (written ▸ isCompact_shortened before)
    · rw [shortened, if_neg before] at written
      exact before (written ▸ spelled)

/-- No number is left in front of a unit of time. -/
theorem not_joins_durations (number : IsNumber digits) (mem : unit ∈ unitWords.map String.toList) :
    ¬ Joins (durations.apply parts) digits gap unit := by
  intro joins
  have apart := (Rewording.joins_of_apply (unwritten_number number) (unwritten_unit mem) joins).2
  exact durations_joint_eq_none.mp apart number mem

theorem valid_of_isNumber (number : IsNumber digits) : (Part.word digits).Valid :=
  valid_word.mpr ⟨number.1, fun c mem => isWord_of_isDecimal (number.2 c mem)⟩

/-- Single spaces put no number in front of a unit of time. -/
theorem not_hasSpelledDuration (divided : Divided (spaced (durations.apply parts))) :
    ¬ HasSpelledDuration (spell (spaced (durations.apply parts))) := by
  rintro ⟨digits, gap, unit, front, back, alone, number, blanks, mem⟩
  obtain ⟨⟨nonempty, letters⟩, starts, -⟩ := unit_letter unit mem
  by_cases direct : gap = []
  · -- The number and the unit are one word.
    subst direct
    have valid : (Part.word (digits ++ unit)).Valid := by
      refine valid_word.mpr ⟨List.append_ne_nil_of_left_ne_nil number.1 _, fun c within => ?_⟩
      rcases List.mem_append.mp within with digit | letter
      · exact isWord_of_isDecimal (number.2 c digit)
      · exact letters c letter
    have member := (mem_iff divided valid).mpr ⟨front, back, alone.split, alone.behind, alone.ahead⟩
    obtain ⟨run, rest⟩ := digits_unit number starts
    refine not_isSpelled_of_mem (mem_spaced.mp member) ⟨?_, ?_⟩
    · rwa [rest]
    · rw [run]
      exact number.1
  · have joins := (joins_iff divided (valid_of_isNumber number) (valid_gap.mpr ⟨direct, blanks⟩)
      (valid_word.mpr ⟨nonempty, letters⟩)).mpr
        ⟨front, back, alone.split, alone.behind, alone.ahead⟩
    obtain ⟨-, between, there⟩ := joins_spaced.mp joins
    exact not_joins_durations number mem there

/-- The canonical wording of a question has no blanks but single spaces between characters that are
not blank, and no spelled-out duration. -/
theorem canonical_normal (question : String) :
    SinglySpaced (canonical question).toList ∧
      ¬ HasSpelledDuration (canonical question).toList := by
  unfold canonical
  rw [String.toList_ofList]
  constructor
  · exact singlySpaced_singleSpaced _
  · have divided := divided_reworded (lower question.toList)
    rw [reworded_eq] at divided
    rw [canonicalText_eq, reworded_eq]
    exact not_hasSpelledDuration divided

/-- A phrase stands in the text with other blanks than one space between its words. -/
def HasPartedPhrase (text : List Char) : Prop :=
  ∃ first gap second front back, IsPhrase first second ∧
    StandsAlone text (first ++ (gap ++ second)) front back ∧
      (∀ c ∈ gap, isBlank c = true) ∧ gap ≠ [] ∧ gap ≠ [' ']

/-- The words of phrases stand next to each other only with one space between them. -/
def Unparted (parts : List Text.Part) : Prop :=
  ∀ first gap second, IsPhrase first second → Joins parts first gap second → gap = [' ']

theorem valid_words (pair : IsPhrase first second) :
    (Part.word first).Valid ∧ (Part.word second).Valid := by
  obtain ⟨leads, closes⟩ := pair.mem
  exact ⟨(unwritten_words first (List.mem_append_left _ leads)).1,
    (unwritten_words second (List.mem_append_right _ closes)).1⟩

/-- A text has no parted phrase if its parts have none. -/
theorem unparted_iff (text : List Char) : Unparted (partsOf text) ↔ ¬ HasPartedPhrase text := by
  have divided := divided_partsOf text
  have spelled := spell_partsOf text
  constructor
  · rintro unparted ⟨first, gap, second, front, back, pair, alone, blanks, nonempty, parted⟩
    obtain ⟨one, two⟩ := valid_words pair
    refine parted (unparted first gap second pair ?_)
    refine (joins_iff divided one (valid_gap.mpr ⟨nonempty, blanks⟩) two).mpr ⟨front, back, ?_⟩
    exact ⟨spelled.trans alone.split, alone.behind, alone.ahead⟩
  · intro whole first gap second pair joins
    obtain ⟨one, two⟩ := valid_words pair
    have between : (Part.gap gap).Valid := (divided.within joins).valid _ (by simp)
    obtain ⟨nonempty, blanks⟩ := valid_gap.mp between
    obtain ⟨front, back, split, behind, ahead⟩ := (joins_iff divided one between two).mp joins
    by_contra parted
    exact whole ⟨first, gap, second, front, back, pair,
      ⟨spelled.symm.trans split, behind, ahead⟩, blanks, nonempty, parted⟩

theorem unparted_spaced (parts : List Text.Part) : Unparted (spaced parts) :=
  fun _ _ _ _ joins => (joins_spaced.mp joins).1

/-- A phrase is left in the canonical wording just if it was parted. -/
theorem forall_not_joins_reworded_iff :
    (∀ first gap second, IsPhrase first second → ¬ Joins (reworded text) first gap second) ↔
      Unparted (partsOf text) := by
  constructor
  · intro none_left first gap second pair joins
    by_contra parted
    exact none_left first [' '] second pair ((joins_reworded pair).mpr ⟨rfl, gap, joins, parted⟩)
  · intro unparted first gap second pair joins
    obtain ⟨-, blanks, there, parted⟩ := (joins_reworded pair).mp joins
    exact parted (unparted first blanks second pair there)

/-- Where no phrase is left, nothing is to be reworded. -/
theorem applyAll_reworded (none_left : ∀ first gap second, IsPhrase first second →
    ¬ Joins (reworded text) first gap second) :
    Rewording.applyAll rewordings (reworded text) = reworded text := by
  refine Rewording.applyAll_eq_self fun rewording mem => ?_
  rcases List.mem_append.mp mem with known | last
  · obtain ⟨phrase, here, rfl⟩ := List.mem_map.mp known
    refine Rewording.apply_eq_self (fun first gap second joins => ?_) fun word _ => rfl
    refine Option.eq_none_iff_forall_ne_some.mpr fun part written => ?_
    exact none_left first gap second ⟨phrase, here, (of_ofPhrase_joint written).2.1⟩ joins
  · rw [List.mem_singleton.mp last, reworded_eq]
    refine Rewording.apply_eq_self (fun first gap second joins => ?_) fun word mem => ?_
    · obtain ⟨-, between, there⟩ := joins_spaced.mp joins
      exact durations_joint_eq_none.mpr fun number mem => not_joins_durations number mem there
    · exact if_neg (not_isSpelled_of_mem (mem_spaced.mp mem))

/-- The canonical wording is in lower case. -/
theorem lower_canonicalText (text : List Char) :
    lower (canonicalText text) = canonicalText text := by
  have written : ∀ phrase ∈ phrases,
      (phrase.2.toList.all fun c => decide (Small c)) = true := by decide
  refine lower_of_forall_small fun c mem => ?_
  rcases mem_singleSpaced mem with rfl | folded
  · exact ⟨rfl, by decide, by decide⟩
  · rcases mem_foldPhrases (mem_foldDurations folded) with own | ⟨phrase, known, within⟩
    · exact small_of_mem_lower own
    · exact of_decide_eq_true (List.all_eq_true.mp (written phrase known) c within)

theorem partsOf_canonicalText (text : List Char) :
    partsOf (lower (canonicalText text)) = reworded (lower text) := by
  rw [lower_canonicalText, canonicalText_eq, partsOf_spell (divided_reworded _)]

/-- Texts with the same canonical wording have the same parts of it. -/
theorem canonicalText_eq_iff :
    canonicalText text = canonicalText other ↔ reworded (lower text) = reworded (lower other) := by
  rw [canonicalText_eq, canonicalText_eq]
  exact ⟨eq_of_spell_eq (divided_reworded _) (divided_reworded _), congrArg spell⟩

/-- A text with single spaces has the canonical wording of another one only if no phrase is parted
in that one. -/
theorem unparted_of_eq (spaces : Unparted (partsOf (lower text)))
    (same : canonicalText text = canonicalText other) : ¬ HasPartedPhrase (lower other) := by
  rw [← unparted_iff, ← forall_not_joins_reworded_iff, ← canonicalText_eq_iff.mp same,
    forall_not_joins_reworded_iff]
  exact spaces

theorem unparted_canonicalText (text : List Char) :
    Unparted (partsOf (lower (canonicalText text))) := by
  rw [partsOf_canonicalText]
  exact unparted_spaced _

/-- The canonical wording is settled just if no phrase is parted. -/
theorem canonicalText_canonicalText_iff (text : List Char) :
    canonicalText (canonicalText text) = canonicalText text ↔ ¬ HasPartedPhrase (lower text) := by
  constructor
  · exact unparted_of_eq (unparted_canonicalText text)
  · intro whole
    rw [← unparted_iff, ← forall_not_joins_reworded_iff] at whole
    rw [canonicalText_eq_iff]
    conv => lhs; unfold reworded
    rw [partsOf_canonicalText, applyAll_reworded whole]
    exact spaced_spaced (Rewording.divided_applyAll (divided_partsOf _))

/-- What is reworded has no parted phrase if it had none, and spaces do as well there. -/
theorem spaceless_of_unparted (unparted : Unparted parts) :
    ∀ rewording ∈ rewordings, rewording.Spaceless parts ∧ Unparted (rewording.apply parts) := by
  intro rewording mem
  constructor
  · intro first gap second joins
    rcases List.mem_append.mp mem with known | last
    · obtain ⟨phrase, here, rfl⟩ := List.mem_map.mp known
      by_cases pair : IsPair phrase first second
      · rw [unparted first gap second ⟨phrase, here, pair⟩ joins]
      · have unjoined (gap : List Char) : (ofPhrase phrase).joint first gap second = none :=
          if_neg fun both => pair both.2.2
        rw [unjoined, unjoined]
    · rw [List.mem_singleton.mp last]
      rfl
  · intro first gap second pair joins
    exact unparted first gap second pair
      ((Rewording.joins_apply_iff (keeps_of_isPhrase pair rewording mem)).mp joins).1

/-- The canonical wording is that of the text with single spaces just if no phrase is parted. -/
theorem canonicalText_singleSpaced_iff (text : List Char) :
    canonicalText (singleSpaced text) = canonicalText text ↔ ¬ HasPartedPhrase (lower text) := by
  have divided := divided_partsOf (lower text)
  have parts : partsOf (lower (singleSpaced text)) = spaced (partsOf (lower text)) := by
    rw [lower_singleSpaced, ← partsOf_spell (divided_spaced divided), spell_spaced divided,
      spell_partsOf]
  constructor
  · refine unparted_of_eq ?_
    rw [parts]
    exact unparted_spaced _
  · intro whole
    rw [← unparted_iff] at whole
    have turned := Rewording.applyAll_spaced
      (fun rewording mem parts unparted => spaceless_of_unparted unparted rewording mem) whole
    rw [canonicalText_eq_iff]
    unfold reworded
    rw [parts, turned]
    exact spaced_spaced (Rewording.divided_applyAll divided)

/-- The question with single spaces. -/
def spacedOnce (question : String) : String :=
  String.ofList (singleSpaced question.toList)

/-- Just where no phrase is parted, the canonical wording of a question stays as it is, and it is
that of the question with single spaces; so questions without parted phrases that differ in their
blanks alone have the same one. The wording of a wording always stays as it is. -/
theorem canonical_settles (question : String) :
    (canonical (canonical question) = canonical question ↔
        ¬ HasPartedPhrase (lower question.toList)) ∧
      (canonical (spacedOnce question) = canonical question ↔
        ¬ HasPartedPhrase (lower question.toList)) ∧
      (∀ other : String, words other.toList = words question.toList →
        ¬ HasPartedPhrase (lower question.toList) → ¬ HasPartedPhrase (lower other.toList) →
          canonical other = canonical question) ∧
      canonical (canonical (canonical question)) = canonical (canonical question) := by
  have texts {one two : List Char} : String.ofList one = String.ofList two ↔ one = two :=
    String.ofList_inj
  unfold canonical spacedOnce
  simp only [String.toList_ofList, texts]
  refine ⟨canonicalText_canonicalText_iff _, canonicalText_singleSpaced_iff _,
    fun other same whole alike => ?_, ?_⟩
  · have spaces : singleSpaced other.toList = singleSpaced question.toList :=
      congrArg (List.intercalate [' ']) same
    rw [← (canonicalText_singleSpaced_iff _).mpr whole, ← spaces,
      (canonicalText_singleSpaced_iff _).mpr alike]
  · rw [canonicalText_canonicalText_iff, ← unparted_iff]
    exact unparted_canonicalText _

/-- A tab in front of a phrase makes no difference. -/
theorem canonical_settles_tabbed :
    words "errors \t last hour".toList = words "errors last hour".toList ∧
      ¬ HasPartedPhrase (lower "errors last hour".toList) ∧
        ¬ HasPartedPhrase (lower "errors \t last hour".toList) ∧
          canonical "errors \t last hour" = canonical "errors last hour" := by
  have same : words "errors \t last hour".toList = words "errors last hour".toList := by
    decide +kernel
  have whole := (canonical_settles "errors last hour").1.mp (by decide +kernel)
  have tabbed := (canonical_settles "errors \t last hour").1.mp (by decide +kernel)
  exact ⟨same, whole, tabbed, (canonical_settles "errors last hour").2.2.1 _ same whole tabbed⟩

/-- Two spaces between the words of a phrase keep it from being replaced, until the wording is made
again; with one space it is replaced at once. -/
theorem exists_unsettled : ∃ question other : String,
    canonical (canonical question) ≠ canonical question ∧
      words other.toList = words question.toList ∧ canonical other ≠ canonical question :=
  ⟨"errors last  hour", "errors last hour", by decide +kernel⟩

end PromScribe.Question

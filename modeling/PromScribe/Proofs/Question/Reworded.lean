import PromScribe.Proofs.Question.Phrase
import PromScribe.Proofs.Question.SpelledOut
import PromScribe.Proofs.Text.Spaced

/-!
# Rewording a question

A fixed phrase is two words with one space between them, and a spelled-out duration is a number and
a unit of time with any gap between them, or with none. So the canonical wording of a question is
known from the parts of its text. No word of a phrase is ever written, so that the words of a phrase
which stand next to each other afterwards stood there before, with another gap.
-/

namespace PromScribe.Question

open PromScribe.Text PromScribe.Text.Part

variable {phrase : String × String} {first second gap word text : List Char}
variable {parts : List Text.Part}

/-- The two words of a phrase. -/
def IsPair (phrase : String × String) (first second : List Char) : Prop :=
  words phrase.1.toList = [first, second]

instance : Decidable (IsPair phrase first second) :=
  inferInstanceAs (Decidable (words phrase.1.toList = [first, second]))

/-- Words that are the two of a phrase. -/
def IsPhrase (first second : List Char) : Prop :=
  ∃ phrase ∈ phrases, IsPair phrase first second

/-- Every phrase is two words, and one part is written for it. -/
theorem exists_pair_of_phrase : ∀ phrase ∈ phrases,
    (single? phrase.2.toList).isSome = true ∧ ∃ first ∈ phraseWords, ∃ second ∈ phraseWords,
      IsPair phrase first second ∧ phrase.1.toList = first ++ ' ' :: second := by
  decide

/-- The words that phrases begin with. -/
def leadingWords : List (List Char) :=
  phrases.flatMap fun phrase => (words phrase.1.toList).take 1

/-- The words that phrases end with. -/
def closingWords : List (List Char) :=
  phrases.flatMap fun phrase => (words phrase.1.toList).drop 1

theorem IsPhrase.mem (pair : IsPhrase first second) :
    first ∈ leadingWords ∧ second ∈ closingWords := by
  obtain ⟨phrase, mem, pair⟩ := pair
  exact ⟨List.mem_flatMap_of_mem mem (by rw [pair]; exact List.mem_cons_self),
    List.mem_flatMap_of_mem mem (by rw [pair]; exact List.mem_cons_self)⟩

/-- No phrase ends with a word that one begins with, and no such word is a unit of time. -/
theorem apart_of_mem_leadingWords : ∀ word ∈ leadingWords,
    word ∉ closingWords ∧ word ∉ unitWords.map String.toList := by
  decide

/-- The words of phrases are single words that begin with no digit, and none is written for one. -/
theorem unwritten_words : ∀ word ∈ leadingWords ++ closingWords,
    IsSingle word ∧ word.takeWhile isDecimal = [] ∧
      ∀ phrase ∈ phrases, single? phrase.2.toList ≠ some (.word word) := by
  decide

/-- The two words of the phrase with one space between them are reworded. -/
def ofPhrase (phrase : String × String) : Rewording where
  joint first gap second :=
    if gap = [' '] ∧ second ≠ [] ∧ IsPair phrase first second then single? phrase.2.toList else none
  alone word := word
  joint_nil first gap := by simp
  joint_valid written := by
    split at written
    · exact (of_single? written).2
    · cases written
  alone_valid valid := valid

theorem of_ofPhrase_joint {part : Text.Part}
    (written : (ofPhrase phrase).joint first gap second = some part) :
    gap = [' '] ∧ IsPair phrase first second ∧ single? phrase.2.toList = some part := by
  unfold ofPhrase at written
  dsimp only at written
  split at written
  · next here => exact ⟨here.1, here.2.2, written⟩
  · cases written

theorem ofPhrase_joint (pair : IsPair phrase first second) (single : IsSingle second) :
    (ofPhrase phrase).joint first [' '] second = single? phrase.2.toList :=
  if_pos ⟨rfl, single.1, pair⟩

/-- A pair of words is accepted where no word character is beside it. -/
theorem wholeWords_pair {before : Option Char} {tail : List Char} (one : IsSingle first)
    (two : IsSingle second) (outside : wordBeside before = false)
    (ends : wordBeside tail.head? = false) :
    wholeWords [first ++ ' ' :: second] before (first ++ ' ' :: second ++ tail) =
      some ⟨(first ++ ' ' :: second).length - 1, first ++ ' ' :: second⟩ := by
  have begins : wordBeside (first ++ ' ' :: second ++ tail).head? = true := by
    rw [List.append_assoc]
    exact wordBeside_head?_append _ one.1 one.2
  have last : wordBeside (first ++ ' ' :: second).getLast? = true := by
    rw [List.getLast?_append_of_ne_nil _ (List.cons_ne_nil ' ' second), List.getLast?_cons,
      List.getLast?_eq_some_getLast two.1]
    exact two.2 _ (List.getLast_mem two.1)
  have edge : ((first ++ ' ' :: second).isPrefixOf (first ++ ' ' :: second ++ tail) &&
      atEdge (first ++ ' ' :: second).getLast?
        ((first ++ ' ' :: second ++ tail).drop (first ++ ' ' :: second).length)) = true := by
    rw [List.drop_left, (atEdge_of_behind last).mpr ends]
    simp
  unfold wholeWords
  rw [if_pos ((atEdge_of_ahead begins).mpr outside), List.find?_singleton, edge]
  rfl

/-- Behind one space stands the word that follows it. -/
theorem takeWhile_isBlank_space (single : IsSingle second) (next : text.takeWhile isWord = second) :
    (' ' :: text).takeWhile isBlank = [' '] ∧ nextWord (' ' :: text) = second := by
  subst next
  refine ⟨?_, nextWord_cons (by decide) single.1⟩
  cases text with
  | nil => exact absurd rfl single.1
  | cons c text =>
      have letter : isWord c = true := by
        refine eq_true_of_ne_false fun close => single.1 ?_
        exact List.takeWhile_cons_of_neg (by simp [close])
      rw [List.takeWhile_cons_of_pos (by decide),
        List.takeWhile_cons_of_neg (by simp [isBlank_of_isWord letter])]

/-- What agrees with a phrase as whole words are its two words with one space between them. -/
theorem agrees_ofPhrase (mem : phrase ∈ phrases) :
    (ofPhrase phrase).Agrees (wholeWords [phrase.1.toList]) fun _ => phrase.2.toList := by
  obtain ⟨known, one, oneMem, two, twoMem, pair, same⟩ := exists_pair_of_phrase phrase mem
  have oneSingle := isSingle_of_mem_phraseWords one oneMem
  have twoSingle := isSingle_of_mem_phraseWords two twoMem
  rw [same]
  refine ⟨startsWords_pair oneSingle two, ?_, ?_⟩
  · intro before word rest part outside valid ends written
    obtain ⟨spaced, words, single⟩ := of_ofPhrase_joint written
    obtain ⟨rfl, next⟩ : word = one ∧ nextWord rest = two := by
      simpa using words.symm.trans pair
    obtain ⟨gap, tail, opening⟩ := exists_opening rest
    have closed := opening.closed
    have behind := opening.split
    rw [← opening.takeWhile_isBlank, spaced, next] at behind
    have whole : word ++ rest = word ++ ' ' :: two ++ tail := by
      rw [behind]
      simp
    refine ⟨word ++ ' ' :: two, (of_single? single).1.symm, ?_⟩
    rw [whole, wholeWords_pair oneSingle twoSingle outside closed, spaced, next]
    rfl
  · intro before word rest outside valid ends unwritten
    refine .inl ⟨misses_wholeWords (fun other mem stands => ?_) before outside, rfl⟩
    rw [List.mem_singleton.mp mem] at stands
    obtain ⟨rfl, behind, rfl, next⟩ :=
      (stands_pair_iff oneSingle twoSingle (valid_word.mp valid).2 ends).mp stands
    obtain ⟨gap, words⟩ := takeWhile_isBlank_space twoSingle next
    rw [gap, words, ofPhrase_joint pair twoSingle] at unwritten
    rw [unwritten] at known
    cases known

/-- Units of time are single words, and neither their letters nor what begins with them are digits
or units. -/
theorem unit_letter : ∀ unit ∈ unitWords.map String.toList, IsSingle unit ∧
    unit.head?.any isDecimal = false ∧ unit.take 1 ≠ [] ∧
      unit.take 1 ∉ unitWords.map String.toList := by
  decide

/-- Digits with the letter of a unit behind them, as they are written for a duration. -/
def IsCompact (word : List Char) : Prop :=
  ∃ digits, IsNumber digits ∧ ∃ unit ∈ unitWords.map String.toList, word = digits ++ unit.take 1

theorem valid_of_isCompact (compact : IsCompact word) : (Part.word word).Valid := by
  obtain ⟨digits, number, unit, mem, rfl⟩ := compact
  refine valid_word.mpr ⟨List.append_ne_nil_of_left_ne_nil number.1 _, fun c within => ?_⟩
  rcases List.mem_append.mp within with digit | letter
  · exact isWord_of_isDecimal (number.2 c digit)
  · exact (unit_letter unit mem).1.2 c (List.mem_of_mem_take letter)

/-- A number with a unit directly behind it. -/
def IsSpelled (word : List Char) : Prop :=
  word.dropWhile isDecimal ∈ unitWords.map String.toList ∧ word.takeWhile isDecimal ≠ []

instance (word : List Char) : Decidable (IsSpelled word) :=
  inferInstanceAs (Decidable (_ ∧ _))

/-- The compact form of a number with a unit, and every other word as it is. -/
def shortened (word : List Char) : List Char :=
  if IsSpelled word then word.takeWhile isDecimal ++ (word.dropWhile isDecimal).take 1 else word

theorem shortened_of_isSpelled (spelled : IsSpelled word) :
    shortened word = word.takeWhile isDecimal ++ (word.dropWhile isDecimal).take 1 :=
  if_pos spelled

theorem isCompact_shortened (spelled : IsSpelled word) : IsCompact (shortened word) :=
  ⟨word.takeWhile isDecimal, ⟨spelled.2, fun _ mem => List.mem_takeWhile_imp mem⟩,
    word.dropWhile isDecimal, spelled.1, shortened_of_isSpelled spelled⟩

/-- A number and a unit of time are reworded, whatever gap is between them. -/
def durations : Rewording where
  joint first _ second :=
    if IsNumber first ∧ second ∈ unitWords.map String.toList then
      some (.word (first ++ second.take 1))
    else none
  alone := shortened
  joint_nil first gap := if_neg fun both => (unit_letter [] both.2).1.1 rfl
  joint_valid {first gap second part} written := by
    split at written
    · next both =>
        cases written
        exact ⟨valid_of_isCompact ⟨first, both.1, second, both.2, rfl⟩, nofun⟩
    · cases written
  alone_valid {word} valid := by
    by_cases spelled : IsSpelled word
    · exact valid_of_isCompact (isCompact_shortened spelled)
    · rwa [shortened, if_neg spelled]

theorem of_durations_joint {part : Text.Part}
    (written : durations.joint first gap second = some part) :
    IsNumber first ∧ second ∈ unitWords.map String.toList ∧
      part = .word (first ++ second.take 1) := by
  unfold durations at written
  dsimp only at written
  split at written
  · next both => exact ⟨both.1, both.2, (Option.some.inj written).symm⟩
  · cases written

theorem durations_joint_eq_none :
    durations.joint first gap second = none ↔
      (IsNumber first → second ∉ unitWords.map String.toList) := by
  unfold durations
  simp

/-- The digits at the head of a number end where no word character follows. -/
theorem digits_of_isNumber {rest : List Char} (digits : ∀ c ∈ word, isDecimal c = true)
    (ends : wordBeside rest.head? = false) :
    (word ++ rest).takeWhile isDecimal = word ∧ (word ++ rest).dropWhile isDecimal = rest := by
  have stops : rest.head?.any isDecimal = false := by
    cases rest with
    | nil => rfl
    | cons c rest =>
        refine eq_false_of_ne_true fun decimal => ?_
        have word : isWord c = false := ends
        rw [isWord_of_isDecimal decimal] at word
        cases word
  exact ⟨takeWhile_run digits stops, dropWhile_run digits stops⟩

/-- The next word is a unit just if one of the units is found to be it. -/
theorem find?_unit (word : List Char) :
    (unitWords.map String.toList).find? (· == word) =
      if word ∈ unitWords.map String.toList then some word else none := by
  cases found : (unitWords.map String.toList).find? (· == word) with
  | none =>
      refine (if_neg fun mem => ?_).symm
      exact List.find?_eq_none.mp found word mem (beq_self_eq_true word)
  | some unit =>
      obtain rfl : unit = word := beq_iff_eq.mp (List.find?_some found :)
      rw [if_pos (List.mem_of_find?_eq_some found)]

/-- What goes on with word characters in front of no other is the next word. -/
theorem nextWord_letters {rest : List Char} (nonempty : word ≠ [])
    (letters : ∀ c ∈ word, isWord c = true) (ends : wordBeside rest.head? = false) :
    (word ++ rest).takeWhile isBlank = [] ∧ nextWord (word ++ rest) = word := by
  have run := takeWhile_run letters ends
  unfold nextWord
  cases word with
  | nil => exact absurd rfl nonempty
  | cons c word =>
      have close := isBlank_of_isWord (letters c List.mem_cons_self)
      refine ⟨List.takeWhile_cons_of_neg (by simp [close]), ?_⟩
      rw [List.cons_append, List.dropWhile_cons_of_neg (by simp [close])]
      exact run

/-- What is read as spelled-out durations are numbers with units of time. -/
theorem agrees_durations : durations.Agrees spelledDuration id := by
  refine ⟨startsWords_spelledDuration, ?_, ?_⟩
  · intro before word rest part outside valid ends written
    obtain ⟨number, unit, rfl⟩ := of_durations_joint written
    obtain ⟨digits, left⟩ := digits_of_isNumber number.2 ends
    refine ⟨_, rfl, ?_⟩
    rw [spelledDuration_eq, digits, left, find?_unit, if_pos unit, outside]
    simp [number.1, Nat.add_assoc]
  · intro before word rest outside valid ends apart
    obtain ⟨nonempty, letters⟩ := valid_word.mp valid
    rw [durations_joint_eq_none] at apart
    by_cases number : ∀ c ∈ word, isDecimal c = true
    · obtain ⟨digits, left⟩ := digits_of_isNumber number ends
      have whole : word.dropWhile isDecimal = [] := List.dropWhile_eq_nil_iff.mpr number
      refine .inl ⟨?_, if_neg fun both => ?_⟩
      · rw [spelledDuration_eq, digits, left, find?_unit, if_neg (apart ⟨nonempty, number⟩)]
        simp
      · obtain ⟨unit, -⟩ := both
        rw [whole] at unit
        exact (unit_letter [] unit).1.1 rfl
    · obtain ⟨c, mem, other⟩ : ∃ c ∈ word, isDecimal c = false := by simpa using number
      obtain ⟨digits, left, more⟩ := takeWhile_append_within mem other rest
      obtain ⟨gap, next⟩ := nextWord_letters more
        (fun d mem => letters d ((List.dropWhile_suffix _).subset mem)) ends
      have whole : (word.takeWhile isDecimal).length + (word.dropWhile isDecimal).length =
          word.length := by
        rw [← List.length_append, List.takeWhile_append_dropWhile]
      rw [spelledDuration_eq, digits, left, gap, next, find?_unit, outside]
      by_cases unit : word.dropWhile isDecimal ∈ unitWords.map String.toList
      · by_cases number : word.takeWhile isDecimal = []
        · exact .inl ⟨by simp [number], if_neg fun spelled => spelled.2 number⟩
        · refine .inr ⟨shortened word, rfl, ?_⟩
          rw [if_pos unit, shortened_of_isSpelled ⟨unit, number⟩]
          simp [number, whole]
      · refine .inl ⟨?_, if_neg fun spelled => unit spelled.1⟩
        rw [if_neg unit]
        simp

/-- The ways in which a question is reworded, in their order. -/
def rewordings : List Rewording :=
  phrases.map ofPhrase ++ [durations]

/-- The parts of the canonical wording of a text in lower case. -/
def reworded (text : List Char) : List Text.Part :=
  spaced (Rewording.applyAll rewordings (partsOf text))

/-- Durations are reworded last. -/
theorem reworded_eq (text : List Char) : reworded text =
    spaced (durations.apply (Rewording.applyAll (phrases.map ofPhrase) (partsOf text))) := by
  unfold reworded rewordings
  rw [Rewording.applyAll_append]
  rfl

theorem foldPhrases_spell (divided : Divided parts) :
    foldPhrases (spell parts) = spell (Rewording.applyAll (phrases.map ofPhrase) parts) := by
  have all (folded : List (String × String)) (known : ∀ phrase ∈ folded, phrase ∈ phrases)
      {parts : List Text.Part} (divided : Divided parts) :
      folded.foldl foldPhrase (spell parts) =
        spell (Rewording.applyAll (folded.map ofPhrase) parts) := by
    induction folded generalizing parts with
    | nil => rfl
    | cons phrase others ih =>
        obtain ⟨here, later⟩ := List.forall_mem_cons.mp known
        have first : foldPhrase (spell parts) phrase = spell ((ofPhrase phrase).apply parts) :=
          (agrees_ofPhrase here).rewriteWith_spell divided
        rw [List.foldl_cons, first]
        exact ih later (Rewording.divided_apply divided)
  exact all phrases (fun _ mem => mem) divided

theorem divided_reworded (text : List Char) : Divided (reworded text) :=
  divided_spaced (Rewording.divided_applyAll (divided_partsOf text))

/-- A question is reworded part by part. -/
theorem canonicalText_eq (text : List Char) :
    canonicalText text = spell (reworded (lower text)) := by
  have whole := divided_partsOf (lower text)
  have phrased : Divided (Rewording.applyAll (phrases.map ofPhrase) (partsOf (lower text))) :=
    Rewording.divided_applyAll whole
  have folded := foldPhrases_spell whole
  rw [spell_partsOf] at folded
  unfold canonicalText foldDurations
  rw [reworded_eq, spell_spaced (Rewording.divided_apply phrased), folded,
    agrees_durations.rewriteWith_spell phrased]

theorem takeWhile_of_isNumber {digits : List Char} (number : IsNumber digits) (rest : List Char) :
    (digits ++ rest).takeWhile isDecimal ≠ [] := by
  obtain ⟨c, more, rfl⟩ := List.exists_cons_of_ne_nil number.1
  have digit := number.2 c List.mem_cons_self
  rw [List.cons_append, List.takeWhile_cons_of_pos digit]
  exact List.cons_ne_nil c _

theorem not_isNumber_of_takeWhile (headless : word.takeWhile isDecimal = []) : ¬ IsNumber word := by
  intro number
  have begins := takeWhile_of_isNumber number []
  rw [List.append_nil] at begins
  exact begins headless

/-- What is written for a duration is a compact form. -/
theorem unwritten_durations (apart : ¬ IsCompact word) : durations.Unwritten word where
  joint first gap second written := by
    obtain ⟨number, unit, same⟩ := of_durations_joint written
    exact apart ⟨first, number, second, unit, Part.word.inj same⟩
  alone other same := by
    by_cases spelled : IsSpelled other
    · have compact := isCompact_shortened spelled
      rw [show shortened other = word from same] at compact
      exact absurd compact apart
    · rw [← same]
      exact (if_neg spelled).symm

/-- A word that begins with no digit has nothing to do with durations, but as a unit. -/
theorem durations_of_takeWhile (headless : word.takeWhile isDecimal = []) :
    durations.Unwritten word ∧ durations.StartsNone word ∧ durations.alone word = word := by
  have alone : durations.alone word = word := if_neg fun spelled => spelled.2 headless
  refine ⟨unwritten_durations ?_, ⟨alone, ?_⟩, alone⟩
  · rintro ⟨digits, number, unit, mem, rfl⟩
    exact takeWhile_of_isNumber number _ headless
  · exact fun gap second => durations_joint_eq_none.mpr fun number =>
      absurd number (not_isNumber_of_takeWhile headless)

/-- A phrase takes no word of a phrase away from its neighbour. -/
theorem keeps_ofPhrase (mem : phrase ∈ phrases) (pair : IsPhrase first second) :
    (ofPhrase phrase).Keeps first second := by
  obtain ⟨leads, closes⟩ := pair.mem
  have apart {one gap two : List Char} (other : one ∉ leadingWords ∨ two ∉ closingWords) :
      (ofPhrase phrase).joint one gap two = none := by
    refine Option.eq_none_iff_forall_ne_some.mpr fun part written => ?_
    have there : IsPhrase one two := ⟨phrase, mem, (of_ofPhrase_joint written).2.1⟩
    exact other.elim (fun absent => absent there.mem.1) fun absent => absent there.mem.2
  have unwritten {word : List Char} (known : word ∈ leadingWords ++ closingWords) :
      (ofPhrase phrase).Unwritten word :=
    ⟨fun _ _ _ written =>
      (unwritten_words word known).2.2 phrase mem (of_ofPhrase_joint written).2.2,
      fun _ same => same⟩
  have noClosing := (apart_of_mem_leadingWords first leads).1
  have noLeading : second ∉ leadingWords := fun leads =>
    (apart_of_mem_leadingWords second leads).1 closes
  exact ⟨⟨rfl, fun _ _ => apart (.inr noClosing)⟩, ⟨rfl, fun _ _ => apart (.inl noLeading)⟩,
    unwritten (List.mem_append_left _ leads), unwritten (List.mem_append_right _ closes)⟩

/-- Nor does a duration, for no phrase begins with a unit of time or with a number. -/
theorem keeps_durations (pair : IsPhrase first second) : durations.Keeps first second := by
  obtain ⟨leads, closes⟩ := pair.mem
  have noUnit := (apart_of_mem_leadingWords first leads).2
  obtain ⟨firstKept, -, alone⟩ :=
    durations_of_takeWhile (unwritten_words first (List.mem_append_left _ leads)).2.1
  obtain ⟨secondKept, starts, -⟩ :=
    durations_of_takeWhile (unwritten_words second (List.mem_append_right _ closes)).2.1
  exact ⟨⟨alone, fun _ _ => durations_joint_eq_none.mpr fun _ => noUnit⟩, starts, firstKept,
    secondKept⟩

/-- The words of a phrase stay next to each other unless one space is between them. -/
theorem keeps_of_isPhrase (pair : IsPhrase first second) :
    ∀ rewording ∈ rewordings, rewording.Keeps first second := by
  intro rewording mem
  rcases List.mem_append.mp mem with known | last
  · obtain ⟨phrase, here, rfl⟩ := List.mem_map.mp known
    exact keeps_ofPhrase here pair
  · rw [List.mem_singleton.mp last]
    exact keeps_durations pair

/-- The words of a phrase are reworded just if one space is between them. -/
theorem forall_joint_eq_none_iff (pair : IsPhrase first second) :
    (∀ rewording ∈ rewordings, rewording.joint first gap second = none) ↔ gap ≠ [' '] := by
  obtain ⟨leads, closes⟩ := pair.mem
  obtain ⟨phrase, mem, words⟩ := pair
  have single := (unwritten_words second (List.mem_append_right _ closes)).1
  constructor
  · rintro none_joined rfl
    have unjoined := none_joined (ofPhrase phrase)
      (List.mem_append_left _ (List.mem_map_of_mem mem))
    have known := (exists_pair_of_phrase phrase mem).1
    rw [← ofPhrase_joint words single, unjoined] at known
    cases known
  · intro parted rewording mem
    rcases List.mem_append.mp mem with known | last
    · obtain ⟨phrase, -, rfl⟩ := List.mem_map.mp known
      exact if_neg fun both => parted both.1
    · rw [List.mem_singleton.mp last]
      have headless := (unwritten_words first (List.mem_append_left _ leads)).2.1
      exact durations_joint_eq_none.mpr fun number =>
        absurd number (not_isNumber_of_takeWhile headless)

/-- The words of a phrase stand next to each other in the canonical wording where they did so in the
text with another gap than one space. -/
theorem joins_reworded (pair : IsPhrase first second) :
    Joins (reworded text) first gap second ↔
      gap = [' '] ∧ ∃ blanks, Joins (partsOf text) first blanks second ∧ blanks ≠ [' '] := by
  unfold reworded
  rw [joins_spaced]
  simp only [Rewording.joins_applyAll_iff (keeps_of_isPhrase pair), forall_joint_eq_none_iff pair]

end PromScribe.Question

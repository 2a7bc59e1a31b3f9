import PromScribe.Proofs.Question.Label
import PromScribe.Proofs.Text.Literal
import PromScribe.Proofs.Text.Neighbour
import PromScribe.Question.Wording

/-!
# Fixed phrases around a name

A phrase of two words stands where the one follows the other, one space between them. A name that
has no word of a phrase beside it is left as it is, whatever phrases are replaced on both sides.
-/

namespace PromScribe.Question

open PromScribe.Text

variable {first second word rest text kept front back lead gap name : List Char}
variable {before : Option Char}

/-- One word. -/
def IsSingle (word : List Char) : Prop :=
  word ≠ [] ∧ ∀ c ∈ word, isWord c = true

instance (word : List Char) : Decidable (IsSingle word) :=
  decidable_of_iff (word ≠ [] ∧ word.all isWord = true) (by simp [IsSingle])

/-- The words of the fixed phrases. -/
def phraseWords : List (List Char) :=
  phrases.flatMap fun phrase => words phrase.1.toList

theorem isSingle_of_mem_phraseWords : ∀ word ∈ phraseWords, IsSingle word := by
  decide

/-- Every fixed phrase is two words with a space between them. -/
theorem exists_words_of_phrase : ∀ phrase ∈ phrases, ∃ first ∈ phraseWords,
    ∃ second ∈ phraseWords, phrase.1.toList = first ++ ' ' :: second := by
  decide

/-- A phrase of two words stands where the one follows the other. -/
theorem stands_pair_iff (one : IsSingle first) (two : IsSingle second)
    (letters : ∀ c ∈ word, isWord c = true) (ends : wordBeside rest.head? = false) :
    Stands (first ++ ' ' :: second) (word ++ rest) ↔
      word = first ∧ ∃ behind, rest = ' ' :: behind ∧ behind.takeWhile isWord = second := by
  have begins : first ++ ' ' :: second ≠ [] := by simp
  have head : (first ++ ' ' :: second).takeWhile isWord = first := takeWhile_run one.2 rfl
  have more : (first ++ ' ' :: second).dropWhile isWord = ' ' :: second := dropWhile_run one.2 rfl
  have last : (first ++ ' ' :: second).getLast? = second.getLast? := by
    simp [List.getLast?_append, List.getLast?_cons, List.getLast?_eq_some_getLast two.1]
  constructor
  · intro stands
    obtain ⟨same, goesOn⟩ := eq_of_stands begins letters ends stands
    rw [head] at same
    rw [more] at goesOn
    obtain ⟨after, rfl⟩ := goesOn
    subst same
    refine ⟨rfl, second ++ after, rfl, takeWhile_run two.2 ?_⟩
    have edge := stands.2
    rw [last, ← List.append_assoc, List.drop_left] at edge
    exact (atEdge_of_behind (wordBeside_getLast? two.1 two.2)).mp edge
  · rintro ⟨rfl, behind, rfl, rfl⟩
    have parts : behind.takeWhile isWord ++ behind.dropWhile isWord = behind :=
      List.takeWhile_append_dropWhile
    have whole : (word ++ ' ' :: behind.takeWhile isWord) ++ behind.dropWhile isWord =
        word ++ ' ' :: behind := by
      rw [List.append_assoc, List.cons_append, parts]
    refine ⟨⟨_, whole⟩, ?_⟩
    rw [last, ← whole, List.drop_left]
    exact (atEdge_of_behind (wordBeside_getLast? two.1 two.2)).mpr (wordBeside_dropWhile behind)

/-- A phrase is accepted at places alike where it stands in front of both or of none. -/
theorem wholeWords_congr {phrase : List Char} (heads : text.head? = rest.head?)
    (same : Stands phrase text ↔ Stands phrase rest) (before : Option Char) :
    wholeWords [phrase] before text = wholeWords [phrase] before rest := by
  have edges : atEdge before text = atEdge before rest := by
    unfold atEdge
    rw [heads]
  have stands : (phrase.isPrefixOf text && atEdge phrase.getLast? (text.drop phrase.length)) =
      (phrase.isPrefixOf rest && atEdge phrase.getLast? (rest.drop phrase.length)) := by
    rw [Bool.eq_iff_iff]
    simp only [Bool.and_eq_true, List.isPrefixOf_iff_prefix]
    exact same
  unfold wholeWords
  rw [edges, List.find?_singleton, List.find?_singleton, stands]

theorem startsWords_pair (one : IsSingle first) (second : List Char) :
    StartsWords (wholeWords [first ++ ' ' :: second]) := by
  refine startsWords_wholeWords fun phrase mem => ?_
  rw [List.mem_singleton.mp mem]
  exact wordBeside_head?_append _ one.1 one.2

theorem endsWords_pair (first : List Char) (two : IsSingle second) :
    EndsWords (wholeWords [first ++ ' ' :: second]) := by
  intro before text hit found
  unfold wholeWords at found
  split at found
  · obtain ⟨phrase, picked, rfl⟩ := Option.map_eq_some_iff.mp found
    obtain rfl := List.mem_singleton.mp (List.mem_of_find?_eq_some picked)
    have stands := List.find?_some picked
    simp only [Bool.and_eq_true, List.isPrefixOf_iff_prefix] at stands
    obtain ⟨after, rfl⟩ := stands.1
    refine ⟨_, after, rfl, ?_, ?_⟩
    · simp
      omega
    · rw [lastOf_append, lastOf_cons, lastOf_of_ne_nil two.1, lastOf_none]
      exact wordBeside_getLast? two.1 two.2
  · cases found

theorem exists_gap_of_closed (nonempty : text ≠ [])
    (closed : wordBeside (lastOf none text) = false) : ∃ c ∈ text, isWord c = false := by
  rcases List.eq_nil_or_concat' text with rfl | ⟨front, c, rfl⟩
  · exact absurd rfl nonempty
  · rw [lastOf_concat] at closed
    exact ⟨c, by simp, closed⟩

/-- Where a text ends with no word, a phrase that stands in front of it does not go on behind it,
unless its second word follows the text. -/
theorem stands_pair_append (one : IsSingle first) (two : IsSingle second) (nonempty : text ≠ [])
    (closed : wordBeside (lastOf none text) = false) (apart : rest.takeWhile isWord ≠ second) :
    Stands (first ++ ' ' :: second) (text ++ rest) ↔ Stands (first ++ ' ' :: second) text := by
  obtain ⟨last, mem, gap⟩ := exists_gap_of_closed nonempty closed
  obtain ⟨-, -, more⟩ := takeWhile_append_within mem gap rest
  have parts : text.takeWhile isWord ++ text.dropWhile isWord = text :=
    List.takeWhile_append_dropWhile
  have letters : ∀ c ∈ text.takeWhile isWord, isWord c = true := fun c mem =>
    List.mem_takeWhile_imp mem
  have stops := wordBeside_dropWhile text
  cases behind : text.dropWhile isWord with
  | nil => exact absurd behind more
  | cons d beyond =>
      rw [behind] at parts stops
      have ahead : wordBeside (d :: beyond ++ rest).head? = false := stops
      have ended : wordBeside (lastOf (some d) beyond) = false := by
        rwa [← parts, lastOf_append, lastOf_cons] at closed
      -- Behind the gap a word ends within the text, or there is none.
      have second_iff : (beyond ++ rest).takeWhile isWord = second ↔
          beyond.takeWhile isWord = second := by
        cases beyond with
        | nil => exact ⟨fun same => absurd same apart, fun none => absurd none.symm two.1⟩
        | cons e others =>
            obtain ⟨final, within, edge⟩ := exists_gap_of_closed (List.cons_ne_nil e others) ended
            rw [(takeWhile_append_within within edge rest).1]
      rw [← parts, List.append_assoc, stands_pair_iff one two letters ahead,
        stands_pair_iff one two letters stops]
      simp only [List.cons_append, List.cons.injEq, and_assoc, exists_and_left, exists_eq_left',
        second_iff]

theorem settles_pair (one : IsSingle first) (two : IsSingle second)
    (closed : wordBeside (lastOf none text) = false)
    (apart : text ≠ [] → rest.takeWhile isWord ≠ second) :
    Settles (wholeWords [first ++ ' ' :: second]) rest none text := by
  refine Settles.of_forall fun front c part split => ?_
  have nonempty : text ≠ [] := by simp [split]
  have begins : c :: part ≠ [] := List.cons_ne_nil c part
  rw [split, lastOf_append, lastOf_of_ne_nil begins] at closed
  apply wholeWords_congr
  · rfl
  · exact stands_pair_append one two begins closed (apart nonempty)

/-- The name is followed by no second word of the phrase, as a single gap would make it. -/
theorem passes_pair_name (one : IsSingle first) (two : IsSingle second)
    (unbroken : ∀ c ∈ name, c ≠ ' ') (ends : wordBeside rest.head? = false)
    (apart : nextWord rest ≠ second) :
    Passes (wholeWords [first ++ ' ' :: second]) rest before name := by
  have starts := startsWords_pair one second
  refine Passes.of_forall fun front c part split => ?_
  cases within : wordBeside (lastOf before front) with
  | true => exact starts.inside within _
  | false =>
      have parts : (c :: part).takeWhile isWord ++ (c :: part).dropWhile isWord = c :: part :=
        List.takeWhile_append_dropWhile
      have whole : c :: (part ++ rest) =
          (c :: part).takeWhile isWord ++ ((c :: part).dropWhile isWord ++ rest) := by
        rw [← List.append_assoc, parts, List.cons_append]
      rw [whole]
      refine misses_wholeWords (fun phrase mem stands => ?_) _ within
      rw [List.mem_singleton.mp mem] at stands
      have letters : ∀ d ∈ (c :: part).takeWhile isWord, isWord d = true := fun d mem =>
        List.mem_takeWhile_imp mem
      have outside := wordBeside_dropWhile (c :: part)
      cases more : (c :: part).dropWhile isWord with
      | nil =>
          rw [more] at stands
          obtain ⟨-, behind, rfl, rfl⟩ := (stands_pair_iff one two letters ends).mp stands
          exact apart (nextWord_cons (by decide) two.1)
      | cons d beyond =>
          rw [more] at stands outside
          have ahead : wordBeside ((d :: beyond) ++ rest).head? = false := outside
          obtain ⟨-, behind, same, -⟩ := (stands_pair_iff one two letters ahead).mp stands
          refine unbroken d ?_ (List.cons.inj same).1
          rw [split]
          have member := (List.dropWhile_suffix isWord).subset (more ▸ List.mem_cons_self)
          exact List.mem_append_right _ member

/-- A word that is not the first one of the phrase is left as it is. -/
theorem passes_pair_word (one : IsSingle first) (two : IsSingle second)
    (letters : ∀ c ∈ word, isWord c = true) (ends : word ≠ [] → wordBeside rest.head? = false)
    (apart : word ≠ first) : Passes (wholeWords [first ++ ' ' :: second]) rest before word := by
  by_cases nonempty : word = []
  · subst nonempty
    trivial
  · have starts := startsWords_pair one second
    refine passes_word starts letters ?_
    cases within : wordBeside before with
    | true => exact starts.inside within _
    | false =>
        refine misses_wholeWords (fun phrase mem stands => ?_) before within
        rw [List.mem_singleton.mp mem] at stands
        exact apart ((stands_pair_iff one two letters (ends nonempty)).mp stands).1

/-- Every phrase leaves the text as it is, whatever is in front of it, and whatever is behind it
that begins with `ahead`. -/
def Unphrased (kept : List Char) (ahead : Option Char) : Prop :=
  ∀ phrase ∈ phrases, ∀ before back, back.head? = ahead →
    Passes (wholeWords [phrase.1.toList]) back before kept

/-- The text does not begin with a word of a phrase. -/
def Unphrasing (kept : List Char) : Prop :=
  ∀ back, (kept ++ back).takeWhile isWord ∉ phraseWords

theorem foldPhrase_kept {phrase : String × String} (mem : phrase ∈ phrases)
    (unphrased : Unphrased kept back.head?) (apart : front ≠ [] → Unphrasing kept)
    (closed : wordBeside (lastOf none front) = false) (ends : wordBeside back.head? = false) :
    foldPhrase (front ++ (kept ++ back)) phrase =
        foldPhrase front phrase ++ (kept ++ foldPhrase back phrase) ∧
      lastOf none (foldPhrase front phrase) = lastOf none front ∧
        (foldPhrase back phrase).head? = back.head? := by
  obtain ⟨first, one, second, two, same⟩ := exists_words_of_phrase phrase mem
  have passes := unphrased phrase mem (lastOf none front) back rfl
  have single := isSingle_of_mem_phraseWords second two
  have starts := startsWords_pair (isSingle_of_mem_phraseWords first one) second
  have words := endsWords_pair first single
  have settles : Settles (wholeWords [first ++ ' ' :: second]) (kept ++ back) none front :=
    settles_pair (isSingle_of_mem_phraseWords first one) single closed fun nonempty same =>
      apart nonempty back (same ▸ two)
  unfold foldPhrase
  rw [same] at passes ⊢
  exact ⟨rewriteWith_parts starts words settles passes ends, lastOf_rewriteWith words closed,
    head?_rewriteWith starts ends⟩

/-- What is in front of such a text is replaced by itself, and so is what is behind it. -/
theorem foldPhrases_kept (unphrased : Unphrased kept back.head?)
    (apart : front ≠ [] → Unphrasing kept) (closed : wordBeside (lastOf none front) = false)
    (ends : wordBeside back.head? = false) :
    foldPhrases (front ++ (kept ++ back)) = foldPhrases front ++ (kept ++ foldPhrases back) ∧
      lastOf none (foldPhrases front) = lastOf none front ∧
        (foldPhrases back).head? = back.head? := by
  have all (folded : List (String × String)) (known : ∀ phrase ∈ folded, phrase ∈ phrases) :
      folded.foldl foldPhrase (front ++ (kept ++ back)) =
          folded.foldl foldPhrase front ++ (kept ++ folded.foldl foldPhrase back) ∧
        lastOf none (folded.foldl foldPhrase front) = lastOf none front ∧
          (folded.foldl foldPhrase back).head? = back.head? := by
    induction folded generalizing front back with
    | nil => exact ⟨rfl, rfl, rfl⟩
    | cons phrase others ih =>
        obtain ⟨parts, last, head⟩ := foldPhrase_kept (known phrase List.mem_cons_self) unphrased
          apart closed ends
        have still : foldPhrase front phrase ≠ [] → Unphrasing kept := fun nonempty =>
          apart fun none => nonempty (by rw [none]; rfl)
        obtain ⟨more, lastMore, headMore⟩ := ih (by rwa [head]) still (by rwa [last])
          (by rwa [head]) fun other mem => known other (List.mem_cons_of_mem phrase mem)
        rw [List.foldl_cons, List.foldl_cons, List.foldl_cons, parts, more]
        exact ⟨rfl, lastMore.trans last, headMore.trans head⟩
  exact all phrases fun phrase mem => mem

/-- A word that is none of a phrase may stand in front, with a gap behind it. -/
theorem Unphrased.behind {ahead : Option Char} (unphrased : Unphrased kept ahead)
    (letters : ∀ c ∈ word, isWord c = true) (apart : word ∉ phraseWords)
    (blanks : ∀ c ∈ gap, isBlank c = true) (detached : word ≠ [] → gap ≠ []) :
    Unphrased (word ++ (gap ++ kept)) ahead := by
  intro phrase mem before back begins
  have later := unphrased phrase mem
  obtain ⟨first, one, second, two, same⟩ := exists_words_of_phrase phrase mem
  have oneSingle := isSingle_of_mem_phraseWords first one
  rw [same] at later ⊢
  refine passes_append.mpr ⟨?_, passes_append.mpr ⟨?_, later _ back begins⟩⟩
  · refine passes_pair_word oneSingle (isSingle_of_mem_phraseWords second two) letters ?_ ?_
    · intro nonempty
      cases gap with
      | nil => exact absurd rfl (detached nonempty)
      | cons blank gap => exact isWord_of_isBlank (blanks blank List.mem_cons_self)
    · rintro rfl
      exact apart one
  · exact passes_gap (startsWords_pair oneSingle second) fun c mem =>
      isWord_of_isBlank (blanks c mem)

theorem unphrasing_behind (letters : ∀ c ∈ word, isWord c = true) (apart : word ∉ phraseWords)
    (blanks : ∀ c ∈ gap, isBlank c = true) (nonempty : gap ≠ []) :
    Unphrasing (word ++ (gap ++ kept)) := by
  intro back
  have ends : (gap ++ kept ++ back).head?.any isWord = false := by
    cases gap with
    | nil => exact absurd rfl nonempty
    | cons blank gap => exact isWord_of_isBlank (blanks blank List.mem_cons_self)
  rw [List.append_assoc, takeWhile_run letters ends]
  exact apart

/-- A name is left as it is where no word of a phrase follows it. -/
theorem unphrased_name {next tail : List Char} (unbroken : ∀ c ∈ name, c ≠ ' ')
    (opening : Opening text gap next tail) (blank : BlankOrNone text.head?)
    (apart : next ∉ phraseWords) : Unphrased (name ++ (gap ++ next)) tail.head? := by
  intro phrase mem before back begins
  obtain ⟨first, one, second, two, same⟩ := exists_words_of_phrase phrase mem
  have oneSingle := isSingle_of_mem_phraseWords first one
  have twoSingle := isSingle_of_mem_phraseWords second two
  have follow := opening.follow begins
  have closed : wordBeside back.head? = false := follow.closed
  rw [same]
  refine passes_append.mpr ⟨?_, passes_append.mpr ⟨?_, ?_⟩⟩
  · rw [List.append_assoc]
    refine passes_pair_name oneSingle twoSingle unbroken ?_ ?_
    · rw [opening.split] at blank
      have heads : (gap ++ (next ++ back)).head? = (gap ++ (next ++ tail)).head? := by
        simp only [List.head?_append, begins]
      rw [heads]
      exact blank.wordBeside
    · rw [follow.nextWord_eq]
      rintro rfl
      exact apart two
  · exact passes_gap (startsWords_pair oneSingle second) fun c mem =>
      isWord_of_isBlank (opening.blanks c mem)
  · refine passes_pair_word oneSingle twoSingle opening.letters (fun _ => closed) ?_
    rintro rfl
    exact apart one

theorem foldPhrases_nil : foldPhrases [] = [] := by
  have all (folded : List (String × String)) : folded.foldl foldPhrase [] = [] := by
    induction folded with
    | nil => rfl
    | cons phrase others ih => exact ih
  exact all phrases

section Around

variable {nextGap next tail : List Char}

theorem detached_of_closing (closing : Closing front lead word gap)
    (bounded : front = [] ∨ gap ≠ []) (nonempty : word ≠ [] ∨ lead ≠ []) : gap ≠ [] := by
  refine bounded.resolve_left fun none => ?_
  have split := closing.split
  rw [none] at split
  obtain ⟨noLead, noMore⟩ := List.append_eq_nil_iff.mp split.symm
  obtain ⟨noWord, -⟩ := List.append_eq_nil_iff.mp noMore
  rcases nonempty with some_ | some_
  · exact some_ noWord
  · exact some_ noLead

/-- A text that ends with blanks keeps its last word if that is none of a phrase. -/
theorem closing_foldPhrases (closing : Closing front lead word gap)
    (bounded : front = [] ∨ gap ≠ []) (apart : word ∉ phraseWords) :
    Closing (foldPhrases front) (foldPhrases lead) word gap := by
  have bare : Unphrased [] none := fun _ _ _ _ _ => trivial
  have unphrased := bare.behind closing.letters apart closing.blanks fun nonempty =>
    detached_of_closing closing bounded (.inl nonempty)
  have unphrasing : lead ≠ [] → Unphrasing (word ++ (gap ++ [])) := fun nonempty =>
    unphrasing_behind closing.letters apart closing.blanks
      (detached_of_closing closing bounded (.inr nonempty))
  have nothing : wordBeside ([] : List Char).head? = false := rfl
  obtain ⟨parts, last, -⟩ := foldPhrases_kept unphrased unphrasing closing.closed nothing
  rw [foldPhrases_nil, List.append_nil, List.append_nil, ← closing.split] at parts
  rw [parts]
  exact closing.follow last

theorem blankOrNone_foldPhrases (closing : Closing front lead word gap)
    (bounded : front = [] ∨ gap ≠ []) (apart : word ∉ phraseWords) :
    BlankOrNone (foldPhrases front).getLast? := by
  rcases bounded with none | nonempty
  · rw [none, foldPhrases_nil]
    nofun
  · have last := List.getLast?_eq_some_getLast nonempty
    rw [(closing_foldPhrases closing (.inr nonempty) apart).split, List.getLast?_append,
      List.getLast?_append, last]
    rintro c mem
    cases mem
    exact closing.blanks _ (List.getLast_mem nonempty)

/-- A name between blanks stays where it is, behind what is in front of it with its phrases
replaced, and in front of a text that begins as before. -/
theorem exists_foldPhrases_around (closing : Closing front lead word gap)
    (bounded : front = [] ∨ gap ≠ []) (apart : word ∉ phraseWords)
    (opening : Opening back nextGap next tail) (blank : BlankOrNone back.head?)
    (nextApart : next ∉ phraseWords) (unbroken : ∀ c ∈ name, c ≠ ' ') :
    ∃ more, foldPhrases (front ++ (name ++ back)) =
        foldPhrases front ++ (name ++ (nextGap ++ (next ++ more))) ∧
      more.head? = tail.head? := by
  have unphrased := (unphrased_name unbroken opening blank nextApart).behind closing.letters apart
    closing.blanks fun nonempty => detached_of_closing closing bounded (.inl nonempty)
  have unphrasing : lead ≠ [] → Unphrasing (word ++ (gap ++ (name ++ (nextGap ++ next)))) :=
    fun nonempty => unphrasing_behind closing.letters apart closing.blanks
      (detached_of_closing closing bounded (.inr nonempty))
  obtain ⟨parts, -, head⟩ := foldPhrases_kept unphrased unphrasing closing.closed opening.closed
  refine ⟨foldPhrases tail, ?_, head⟩
  rw [(closing_foldPhrases closing bounded apart).split]
  conv => lhs; rw [closing.split, opening.split]
  simpa only [List.append_assoc] using parts

end Around

end PromScribe.Question

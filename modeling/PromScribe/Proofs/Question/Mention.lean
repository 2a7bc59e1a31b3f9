import PromScribe.Proofs.Question.Phrase
import PromScribe.Proofs.Question.RuleEntities
import PromScribe.Proofs.Question.SpelledOut

/-!
# Names in questions

A question mentions a name that stands between blanks in it, with no number in front of it and no
word of a phrase beside it. Without capitals, and without durations in it, the name stands in the
canonical wording behind that of what is in front of it, and is a metric entity there.
-/

namespace PromScribe.Question

open PromScribe.Text

variable {question name : String} {before after text rest tail : List Char} {c : Char}

/-- The question has the name between `before` and `after`: as a word between blanks, or at an end,
with no word of a phrase beside it and no number in front of it. -/
structure Mention (question name : String) (before after : List Char) : Prop where
  split : question.toList = before ++ (name.toList ++ after)
  metric : IsMetricName name.toList
  behind : BlankOrNone before.getLast?
  ahead : BlankOrNone after.head?
  apart : lastWord (lower before) ∉ phraseWords
  unnumbered : ¬ IsNumber (lastWord (lower before))
  nextApart : nextWord (lower after) ∉ phraseWords

/-- A blank at the end of a text stays there in lower case. -/
theorem getLast?_lower (ends : BlankOrNone text.getLast?) :
    (lower text).getLast? = text.getLast? := by
  rcases List.eq_nil_or_concat' text with rfl | ⟨front, blank, rfl⟩
  · rfl
  · have white : isBlank blank = true := ends blank List.getLast?_concat
    rw [lower_blank white]
    simp [lower, lowerFrom]

theorem head?_lower (begins : BlankOrNone text.head?) : (lower text).head? = text.head? := by
  cases text with
  | nil => rfl
  | cons blank text =>
      rw [lower_cons_blank (begins blank rfl)]
      rfl

/-- A metric does not go past a space. -/
theorem metricLength?_space (text rest : List Char) :
    metricLength? (text ++ ' ' :: rest) = metricLength? text := by
  induction text with
  | nil => rfl
  | cons c text ih =>
      have edge : atEdge (some c) (text ++ ' ' :: rest) = atEdge (some c) text := by
        cases text with
        | nil => rfl
        | cons d text => rfl
      rw [List.cons_append, metricLength?, metricLength?, ih, edge]

theorem within_metricName : Within metricName := by
  intro before text hit found
  unfold metricName at found
  split at found
  · obtain ⟨length, long, rfl⟩ := Option.map_eq_some_iff.mp found
    have bounds := metricLength?_le long
    dsimp only
    omega
  · cases found

/-- No metric in front of a space sees what is behind the space. -/
theorem settles_metricName (text rest : List Char) :
    Settles metricName (' ' :: rest) none text := by
  refine Settles.of_forall fun front c part split => ?_
  have length := metricLength?_space (c :: part) rest
  unfold metricName
  rw [← List.cons_append, length]
  rfl

theorem stops_at_space (space : tail = [] ∨ ∃ more, tail = ' ' :: more) :
    tail.head?.any startsMetric = false ∧ tail.head?.any continuesMetric = false ∧
      wordBeside tail.head? = false := by
  rcases space with rfl | ⟨more, rfl⟩
  · exact ⟨rfl, rfl, rfl⟩
  · exact ⟨rfl, rfl, rfl⟩

theorem metricName_at_space (space : tail = [] ∨ ∃ more, tail = ' ' :: more)
    (before : Option Char) : metricName before tail = none := by
  unfold metricName
  rw [(stops_at_space space).1, Bool.and_false, if_neg Bool.false_ne_true]

theorem IsMetricName.nonempty {name : List Char} (metric : IsMetricName name) : name ≠ [] := by
  rintro rfl
  cases metric.begins

/-- The last character of a name is of a word, as the colon is not. -/
theorem IsMetricName.wordBeside_getLast? {name : List Char} (metric : IsMetricName name) :
    wordBeside name.getLast? = true := by
  have last := List.getLast?_eq_some_getLast metric.nonempty
  have ends := metric.ends
  rw [last] at ends ⊢
  have part := metric.letters _ (List.getLast_mem metric.nonempty)
  exact isWord_of_continuesKey
    ((continuesMetric_iff.mp part).resolve_right fun colon => ends (congrArg some colon))

/-- A name behind a gap is a metric entity where a space follows it. -/
theorem sweepFrom_name {name : List Char} {before : Option Char} (metric : IsMetricName name)
    (outside : wordBeside before = false) (space : tail = [] ∨ ∃ more, tail = ' ' :: more) :
    sweepFrom metricName before 0 (name ++ tail) =
      .hit name () :: sweepFrom metricName none 0 tail := by
  obtain ⟨-, stops, ends⟩ := stops_at_space space
  refine sweepFrom_hit (metricName_at_space space) metric.nonempty ?_
  exact metricName_run outside metric.begins metric.letters metric.wordBeside_getLast? stops ends

/-- The metric entities in front of a name, and the name, are the first ones. -/
theorem exists_hits_name {name lead : List Char} (metric : IsMetricName name)
    (front : lead = [] ∧ text = [] ∨ lead = text ++ [' '])
    (space : tail = [] ∨ ∃ more, tail = ' ' :: more) :
    ∃ others, (hits metricName (lead ++ (name ++ tail))).map Prod.fst =
      (hits metricName text).map Prod.fst ++ name :: others := by
  unfold hits sweep
  rcases front with ⟨rfl, rfl⟩ | rfl
  · rw [List.nil_append, sweepFrom_name metric rfl space]
    exact ⟨_, rfl⟩
  · have gap := metricName_at_space (.inr ⟨name ++ tail, rfl⟩) (lastOf none text)
    have outside : wordBeside (some ' ') = false := rfl
    rw [List.append_assoc, List.singleton_append,
      sweepFrom_settled within_metricName (Nat.zero_le _) (settles_metricName text _),
      sweepFrom_cons gap, sweepFrom_name metric outside space, List.filterMap_append,
      List.map_append]
    exact ⟨_, rfl⟩

namespace Mention

theorem unbroken (mention : Mention question name before after) :
    ∀ c ∈ name.toList, isBlank c = false := fun c mem =>
  isBlank_of_continuesMetric (mention.metric.letters c mem)

/-- Without capitals the name stays as it is in lower case. -/
theorem lower_eq (mention : Mention question name before after)
    (small : ∀ c ∈ name.toList, c.isUpper = false) :
    lower question.toList = lower before ++ (name.toList ++ lower after) := by
  have stays : lower name.toList = name.toList := lower_of_small fun c mem =>
    ⟨val_lt_of_continuesMetric (mention.metric.letters c mem), small c mem⟩
  have alone : lower (name.toList ++ after) = name.toList ++ lower after := by
    have ahead := mention.ahead
    cases after with
    | nil =>
        rw [List.append_nil, stays]
        exact (List.append_nil _).symm
    | cons blank after =>
        have white := ahead blank rfl
        rw [lower_blank white, stays, lower_cons_blank white]
  have behind := mention.behind
  rw [mention.split]
  rcases List.eq_nil_or_concat' before with rfl | ⟨front, blank, rfl⟩
  · exact alone
  · have white : isBlank blank = true := behind blank List.getLast?_concat
    rw [lower_blank white, List.append_assoc, List.singleton_append, lower_blank white, alone]
    simp [lower, lowerFrom]

/-- With single spaces the name stands behind the canonical wording of what is in front of it. -/
theorem exists_canonicalText (mention : Mention question name before after)
    (small : ∀ c ∈ name.toList, c.isUpper = false)
    (untimed : Untimed name.toList (lower after)) :
    ∃ lead tail, canonicalText question.toList = lead ++ (name.toList ++ tail) ∧
      (lead = [] ∧ canonicalText before = [] ∨ lead = canonicalText before ++ [' ']) ∧
        (tail = [] ∨ ∃ more, tail = ' ' :: more) := by
  have behind : BlankOrNone (lower before).getLast? := by
    rw [getLast?_lower mention.behind]
    exact mention.behind
  have ahead : BlankOrNone (lower after).head? := by
    rw [head?_lower mention.ahead]
    exact mention.ahead
  have noSpace : ∀ c ∈ name.toList, c ≠ ' ' := by
    rintro c mem rfl
    have close := mention.unbroken ' ' mem
    cases close
  obtain ⟨lead, gap, closing, bounded⟩ := exists_closing behind
  obtain ⟨nextGap, tail, opening⟩ := exists_opening (lower after)
  obtain ⟨more, folded, head⟩ := exists_foldPhrases_around closing bounded mention.apart opening
    ahead mention.nextApart noSpace
  have closed := closing_foldPhrases closing bounded mention.apart
  have follow := opening.follow head
  -- The texts on both sides still keep the durations apart from the name.
  have front := blankOrNone_foldPhrases closing bounded mention.apart
  have back : BlankOrNone (nextGap ++ (nextWord (lower after) ++ more)).head? := by
    rw [opening.split] at ahead
    simpa only [List.head?_append, head] using ahead
  have unnumbered : ¬ IsNumber (lastWord (foldPhrases (lower before))) := by
    rw [closed.lastWord_eq]
    exact mention.unnumbered
  have stillUntimed : Untimed name.toList (nextGap ++ (nextWord (lower after) ++ more)) := by
    intro early late split
    have close : ∀ c ∈ late, isBlank c = false := fun c mem =>
      mention.unbroken c (by simp [split, mem])
    rw [spelledDuration_follow close follow back opening ahead]
    exact untimed early late split
  obtain ⟨compact, last, first⟩ :=
    foldDurations_between mention.metric stillUntimed front unnumbered back
  rw [← last] at front
  rw [← first] at back
  unfold canonicalText
  rw [mention.lower_eq small, folded, compact]
  exact singleSpaced_between mention.metric.nonempty mention.unbroken front back

end Mention

theorem mem_foldDurations (mem : c ∈ foldDurations text) : c ∈ text := by
  rcases mem_rewriteWith mem with own | ⟨before, place, extra, value, accepted, suffix_, within⟩
  · exact own
  · refine suffix_.subset ?_
    rw [spelledDuration_eq] at accepted
    split at accepted
    · cases accepted
    · obtain ⟨unit, picked, made⟩ := Option.map_eq_some_iff.mp accepted
      cases made
      have same : unit = nextWord (place.dropWhile isDecimal) := by
        simpa using List.find?_some picked
      rcases List.mem_append.mp within with digit | letter
      · exact (List.takeWhile_prefix _).subset digit
      · have inWord := List.mem_of_mem_take letter
        rw [same] at inWord
        have inGap := (List.takeWhile_prefix _).subset inWord
        exact (List.dropWhile_suffix _).subset ((List.dropWhile_suffix _).subset inGap)

theorem mem_foldPhrases (mem : c ∈ foldPhrases text) :
    c ∈ text ∨ ∃ phrase ∈ phrases, c ∈ phrase.2.toList := by
  have all (folded : List (String × String)) (known : ∀ phrase ∈ folded, phrase ∈ phrases)
      {text : List Char} (mem : c ∈ folded.foldl foldPhrase text) :
      c ∈ text ∨ ∃ phrase ∈ phrases, c ∈ phrase.2.toList := by
    induction folded generalizing text with
    | nil => exact .inl mem
    | cons phrase others ih =>
        have here := known phrase List.mem_cons_self
        rcases ih (fun other mem => known other (List.mem_cons_of_mem phrase mem)) mem with
          earlier | written
        · rcases mem_rewriteWith earlier with own | ⟨_, _, _, _, _, _, within⟩
          · exact .inl own
          · exact .inr ⟨phrase, here, within⟩
        · exact .inr written
  exact all phrases (fun phrase mem => mem) mem

/-- The canonical wording has no ASCII capital. -/
theorem isUpper_of_mem_canonicalText (mem : c ∈ canonicalText text) : c.isUpper = false := by
  have small : ∀ phrase ∈ phrases, (phrase.2.toList.all fun d => !d.isUpper) = true := by decide
  rcases mem_singleSpaced mem with rfl | folded
  · rfl
  · rcases mem_foldPhrases (mem_foldDurations folded) with own | ⟨phrase, known, written⟩
    · exact isUpper_of_mem_lower own
    · simpa using List.all_eq_true.mp (small phrase known) c written

end PromScribe.Question

import Mathlib.Data.List.TakeWhile
import PromScribe.Proofs.Text.Sweep
import PromScribe.Text.Literal

/-!
# Phrases as whole words

A phrase stands at a word just if its first word is that word and what it has behind its first word
follows.
-/

namespace PromScribe.Text

open Token

variable {phrase word rest tail : List Char} {phrases : List (List Char)} {before : Option Char}

/-- The phrase stands at the head of the text, up to a word edge. -/
def Stands (phrase text : List Char) : Prop :=
  phrase <+: text ∧ atEdge phrase.getLast? (text.drop phrase.length) = true

theorem wordBeside_getLast? (nonempty : word ≠ []) (letters : ∀ c ∈ word, isWord c = true) :
    wordBeside word.getLast? = true := by
  rw [List.getLast?_eq_some_getLast nonempty]
  exact letters _ (List.getLast_mem nonempty)

theorem atEdge_of_behind (behind : wordBeside before = true) :
    atEdge before rest = true ↔ wordBeside rest.head? = false := by
  unfold atEdge
  rw [behind]
  cases wordBeside rest.head? <;> decide

theorem atEdge_of_ahead (ahead : wordBeside rest.head? = true) :
    atEdge before rest = true ↔ wordBeside before = false := by
  unfold atEdge
  rw [ahead]
  cases wordBeside before <;> decide

/-- A phrase at a word begins with just that word, and goes on with what follows the word. -/
theorem eq_of_stands (begins : phrase ≠ []) (letters : ∀ c ∈ word, isWord c = true)
    (ends : wordBeside rest.head? = false) (stands : Stands phrase (word ++ rest)) :
    phrase.takeWhile isWord = word ∧ phrase.dropWhile isWord <+: rest := by
  obtain ⟨⟨after, whole⟩, edge⟩ := stands
  have first : (phrase ++ after).takeWhile isWord = word := by
    rw [whole]
    exact takeWhile_run letters ends
  have left : (phrase ++ after).dropWhile isWord = rest := by
    rw [whole]
    exact dropWhile_run letters ends
  rw [List.dropWhile_append] at left
  cases behind : phrase.dropWhile isWord with
  | cons c more =>
      have others : (phrase.takeWhile isWord).length ≠ phrase.length := fun same => by
        have parts : phrase.takeWhile isWord ++ c :: more = phrase := by
          rw [← behind]
          exact List.takeWhile_append_dropWhile
        have lengths := congrArg List.length parts
        simp only [List.length_append, List.length_cons] at lengths
        omega
      rw [List.takeWhile_append, if_neg others] at first
      rw [behind] at left
      exact ⟨first, after, by simpa using left⟩
  | nil =>
      -- The phrase is one word; the edge behind it is the end of the word.
      have all : ∀ c ∈ phrase, isWord c = true := List.dropWhile_eq_nil_iff.mp behind
      have stops : after.head?.any isWord = false := by
        rw [← whole, List.drop_left] at edge
        exact (atEdge_of_behind (wordBeside_getLast? begins all)).mp edge
      rw [takeWhile_run all stops] at first
      rw [← first]
      exact ⟨List.takeWhile_eq_self_iff.mpr all, List.nil_prefix⟩

theorem not_stands_of_first (begins : phrase ≠ []) (letters : ∀ c ∈ word, isWord c = true)
    (ends : wordBeside rest.head? = false) (apart : phrase.takeWhile isWord ≠ word) :
    ¬ Stands phrase (word ++ rest) := fun stands =>
  apart (eq_of_stands begins letters ends stands).1

theorem not_stands_of_more (begins : phrase ≠ []) (letters : ∀ c ∈ word, isWord c = true)
    (ends : wordBeside rest.head? = false) (apart : ¬ phrase.dropWhile isWord <+: rest) :
    ¬ Stands phrase (word ++ rest) := fun stands =>
  apart (eq_of_stands begins letters ends stands).2

theorem startsWords_wholeWords (begin : ∀ phrase ∈ phrases, wordBeside phrase.head? = true) :
    StartsWords (wholeWords phrases) := by
  intro before text hit found
  unfold wholeWords at found
  split at found
  · next edge =>
      obtain ⟨phrase, picked, -⟩ := Option.map_eq_some_iff.mp found
      have stands := List.find?_some picked
      have letter := begin phrase (List.mem_of_find?_eq_some picked)
      simp only [Bool.and_eq_true, List.isPrefixOf_iff_prefix] at stands
      obtain ⟨after, rfl⟩ := stands.1
      have ahead : wordBeside (phrase ++ after).head? = true := by
        cases phrase with
        | nil => cases letter
        | cons c phrase => exact letter
      exact ⟨(atEdge_of_ahead ahead).mp edge, ahead⟩
  · cases found

/-- Phrases that begin and end with word characters are accepted where no word character is beside
them. -/
theorem exists_wholeWords_iff (proper : ∀ phrase ∈ phrases,
    wordBeside phrase.head? = true ∧ wordBeside phrase.getLast? = true) {text : List Char} :
    (∃ hit, wholeWords phrases before text = some hit) ↔ ∃ phrase ∈ phrases, ∃ back,
      text = phrase ++ back ∧ wordBeside before = false ∧ wordBeside back.head? = false := by
  constructor
  · rintro ⟨hit, found⟩
    have starts := startsWords_wholeWords (fun phrase mem => (proper phrase mem).1) before text hit
    have outside := (starts found).1
    unfold wholeWords at found
    split at found
    · obtain ⟨phrase, picked, -⟩ := Option.map_eq_some_iff.mp found
      have mem := List.mem_of_find?_eq_some picked
      have stands := List.find?_some picked
      simp only [Bool.and_eq_true, List.isPrefixOf_iff_prefix] at stands
      obtain ⟨⟨back, rfl⟩, edge⟩ := stands
      rw [List.drop_left] at edge
      exact ⟨phrase, mem, back, rfl, outside, (atEdge_of_behind (proper phrase mem).2).mp edge⟩
    · cases found
  · rintro ⟨phrase, mem, back, rfl, outside, ends⟩
    have ahead : wordBeside (phrase ++ back).head? = true := by
      have begins := (proper phrase mem).1
      cases phrase with
      | nil => cases begins
      | cons c phrase => exact begins
    have edge : atEdge phrase.getLast? ((phrase ++ back).drop phrase.length) = true := by
      rw [List.drop_left]
      exact (atEdge_of_behind (proper phrase mem).2).mpr ends
    have found : (wholeWords phrases before (phrase ++ back)).isSome = true := by
      unfold wholeWords
      rw [if_pos ((atEdge_of_ahead ahead).mpr outside), Option.isSome_map, List.find?_isSome]
      refine ⟨phrase, mem, ?_⟩
      simpa using edge
    exact Option.isSome_iff_exists.mp found

theorem misses_wholeWords (apart : ∀ phrase ∈ phrases, ¬ Stands phrase (word ++ rest)) :
    Misses (wholeWords phrases) word rest := by
  intro before _
  unfold wholeWords
  split
  · rw [Option.map_eq_none_iff, List.find?_eq_none]
    intro phrase mem stands
    simp only [Bool.and_eq_true, List.isPrefixOf_iff_prefix] at stands
    exact apart phrase mem stands
  · rfl

/-- Words where none of the phrases stands are not accepted. -/
theorem eachPlace_misses_wholeWords {tokens : List Token}
    (apart : ∀ phrase ∈ phrases,
      EachPlace (fun word rest => ¬ Stands phrase (word ++ rest)) tail tokens) :
    EachPlace (Misses (wholeWords phrases)) tail tokens := by
  induction tokens with
  | nil => trivial
  | cons token tokens ih =>
      obtain ⟨gap, word⟩ := token
      have here := misses_wholeWords fun phrase mem => (apart phrase mem).1
      exact ⟨here, ih fun phrase mem => (apart phrase mem).2⟩

/-- The phrase stands neither at the first word nor at one behind a gap. -/
structure Absent (phrase word : List Char) (tokens : List Token) : Prop where
  begins : wordBeside phrase.head? = true
  first : ¬ Stands phrase (word ++ written tokens)
  places : EachPlace (fun word rest => ¬ Stands phrase (word ++ rest)) [] tokens

/-- A single word is absent if it is none of the words. -/
theorem Absent.of_ne {tokens : List Token} (single : phrase.takeWhile isWord = phrase)
    (nonempty : phrase ≠ []) (letters : ∀ c ∈ word, isWord c = true)
    (proper : ∀ token ∈ tokens, token.Proper) (first : phrase ≠ word)
    (others : ∀ token ∈ tokens, phrase ≠ token.2) : Absent phrase word tokens := by
  have begins := wordBeside_head?_append [] nonempty (List.takeWhile_eq_self_iff.mp single)
  rw [List.append_nil] at begins
  refine ⟨begins, not_stands_of_first nonempty letters (wordBeside_written proper) ?_, ?_⟩
  · rwa [single]
  · refine EachPlace.of_ends proper rfl (EachPlace.of_forall fun token mem rest stops => ?_)
    refine not_stands_of_first nonempty (proper token mem).letters stops ?_
    rw [single]
    exact others token mem

/-- A text where all phrases are absent is left as it is. -/
theorem sweep_wholeWords_of_absent {tokens : List Token} (letters : ∀ c ∈ word, isWord c = true)
    (proper : ∀ token ∈ tokens, token.Proper)
    (absent : ∀ phrase ∈ phrases, Absent phrase word tokens) :
    sweep (wholeWords phrases) (word ++ written tokens) = (word ++ written tokens).map .plain :=
  sweep_plain (startsWords_wholeWords fun phrase mem => (absent phrase mem).begins) letters proper
    (misses_wholeWords fun phrase mem => (absent phrase mem).first)
    (eachPlace_misses_wholeWords fun phrase mem => (absent phrase mem).places)

/-- One of the phrases is the first word of the text. -/
theorem anywhere_wholeWords (mem : word ∈ phrases) (nonempty : word ≠ [])
    (letters : ∀ c ∈ word, isWord c = true) (ends : wordBeside rest.head? = false) :
    anywhere (wholeWords phrases) (word ++ rest) = true := by
  have begins : atEdge none (word ++ rest) = true :=
    (atEdge_of_ahead (wordBeside_head?_append rest nonempty letters)).mpr rfl
  have edge : atEdge word.getLast? ((word ++ rest).drop word.length) = true := by
    rw [List.drop_left]
    exact (atEdge_of_behind (wordBeside_getLast? nonempty letters)).mpr ends
  have found : (wholeWords phrases none (word ++ rest)).isSome = true := by
    unfold wholeWords
    rw [if_pos begins, Option.isSome_map, List.find?_isSome]
    refine ⟨word, mem, ?_⟩
    simpa using edge
  obtain ⟨hit, found⟩ := Option.isSome_iff_exists.mp found
  cases word with
  | nil => exact absurd rfl nonempty
  | cons c word =>
      have accepted : wholeWords phrases none (c :: (word ++ rest)) = some hit := found
      simp [anywhere, valuesOf, sweep, sweepFrom, accepted, Piece.value?]

end PromScribe.Text

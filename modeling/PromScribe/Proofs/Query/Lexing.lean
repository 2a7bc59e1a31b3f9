import PromScribe.Proofs.Query.Grammar
import PromScribe.Query.Assembly

/-!
# Taking queries apart

Words, marks and quoted values are taken apart one in front of the other. A value in quotes is one
lexeme, whatever characters it has: the only quote that is not escaped is the one behind it.
-/

namespace PromScribe.Query

open Question

variable {text piece : List Char} {lexemes : List Lexeme}

/-- The text is taken apart into the lexemes. -/
structure Lexes (text : List Char) (lexemes : List Lexeme) : Prop where
  taken : Scan.between.lexemes? text = some lexemes

/-- A word in front of the text is not continued by it. -/
def Stops (text : List Char) : Prop :=
  text.head?.any continuesMetric = false

/-- In front of any text at which words stop, the piece is taken apart into the lexemes. -/
def Writes (piece : List Char) (lexemes : List Lexeme) : Prop :=
  ∀ ⦃text : List Char⦄ ⦃behind : List Lexeme⦄, Stops text → Lexes text behind →
    Lexes (piece ++ text) (lexemes ++ behind)

namespace Lexes

theorem nil : Lexes [] [] := ⟨rfl⟩

theorem cons_of_start {c : Char} {read : List Lexeme} (starts : Scan.start c = some (read, .between))
    (rest : Lexes text lexemes) : Lexes (c :: text) (read ++ lexemes) := by
  refine ⟨?_⟩
  unfold Scan.lexemes?
  simp only [Scan.advance, starts]
  rw [rest.taken]
  rfl

theorem space (rest : Lexes text lexemes) : Lexes (' ' :: text) lexemes := by
  have starts : Scan.start ' ' = some ([], .between) := rfl
  exact cons_of_start starts rest

theorem mark {c : Char} {mark : Mark} (known : Mark.ofChar? c = some mark)
    (rest : Lexes text lexemes) : Lexes (c :: text) (.mark mark :: lexemes) := by
  have starts : Scan.start c = some ([.mark mark], .between) := by
    unfold Mark.ofChar? at known
    split at known <;> cases known <;> rfl
  exact cons_of_start starts rest

/-- Where a word stops, it is a lexeme in front of what follows. -/
theorem lexemes?_word_of_stops (stops : Stops text) (read : List Char) :
    (Scan.word read).lexemes? text =
      (Scan.between.lexemes? text).map (Scan.wordOf read :: ·) := by
  cases text with
  | nil => rfl
  | cons c text =>
      have other : continuesMetric c = false := stops
      simp only [Scan.lexemes?, Scan.advance, other]
      cases Scan.start c with
      | none => rfl
      | some next =>
          simp [Option.map_map, Function.comp_def]

theorem lexemes?_word (letters : ∀ c ∈ piece, continuesMetric c = true) (stops : Stops text)
    (read : List Char) : (Scan.word read).lexemes? (piece ++ text) =
      (Scan.between.lexemes? text).map (Scan.wordOf (piece.reverse ++ read) :: ·) := by
  -- Each letter moves from the piece to what is read, which is why that is general.
  induction piece generalizing read with
  | nil => exact lexemes?_word_of_stops stops read
  | cons c piece ih =>
      have letter := letters c List.mem_cons_self
      have others := ih (fun c mem => letters c (List.mem_cons_of_mem _ mem)) (c :: read)
      simp only [List.cons_append, Scan.lexemes?, Scan.advance, letter, if_true]
      rw [others]
      simp [Function.comp_def]

theorem word {word : String} (some_char : word.toList ≠ [])
    (letters : ∀ c ∈ word.toList, continuesMetric c = true) (stops : Stops text)
    (rest : Lexes text lexemes) : Lexes (word.toList ++ text) (.word word :: lexemes) := by
  cases chars : word.toList with
  | nil => exact absurd chars some_char
  | cons c piece =>
      rw [chars] at letters
      have letter := letters c List.mem_cons_self
      have starts : Scan.start c = some ([], .word [c]) := by
        have noQuote : c ≠ '"' := by
          rintro rfl
          cases letter
        simp [Scan.start, noQuote, letter]
      have others := lexemes?_word (fun c mem => letters c (List.mem_cons_of_mem _ mem)) stops [c]
      have whole : Scan.wordOf (piece.reverse ++ [c]) = .word word := by
        simp [Scan.wordOf, ← chars]
      refine ⟨?_⟩
      simp only [List.cons_append, Scan.lexemes?, Scan.advance, starts]
      rw [others, whole, rest.taken]
      rfl

/-- However a character is escaped, it is one character of the value. -/
theorem lexemes?_escaped (c : Char) (read text : List Char) :
    (Scan.quoted read).lexemes? (escapedLabelChar c ++ text) =
      (Scan.quoted (c :: read)).lexemes? text := by
  unfold escapedLabelChar
  split
  · next backslash => simp [Scan.lexemes?, Scan.advance, Scan.unescaped?, backslash]
  · split
    · next quote => simp [Scan.lexemes?, Scan.advance, Scan.unescaped?, quote]
    · split
      · next lineBreak => simp [Scan.lexemes?, Scan.advance, Scan.unescaped?, lineBreak]
      · next noBackslash noQuote noLineBreak =>
          simp [Scan.lexemes?, Scan.advance, noBackslash, noQuote, noLineBreak]

theorem lexemes?_quoted (value read text : List Char) :
    (Scan.quoted read).lexemes? (value.flatMap escapedLabelChar ++ '"' :: text) =
      (Scan.between.lexemes? text).map (.text (String.ofList (read.reverse ++ value)) :: ·) := by
  induction value generalizing read with
  | nil => simp [Scan.lexemes?, Scan.advance]
  | cons c value ih =>
      rw [List.flatMap_cons, List.append_assoc, lexemes?_escaped, ih]
      simp

theorem quoted (value : String) (rest : Lexes text lexemes) :
    Lexes (quotedValue value.toList ++ text) (.text value :: lexemes) := by
  have starts : Scan.start '"' = some ([], .quoted []) := rfl
  have inner := lexemes?_quoted value.toList [] text
  rw [rest.taken] at inner
  refine ⟨?_⟩
  unfold quotedValue
  simp only [List.cons_append, List.append_assoc, List.nil_append, Scan.lexemes?, Scan.advance,
    starts]
  rw [inner]
  simp

/-- Parts with a separator between them are lexemes with commas between them. -/
theorem separated {α : Type} {items : List α} {write : α → List Char} {read : α → List Lexeme}
    {separator : List Char}
    (each : ∀ item ∈ items, Writes (write item) (read item))
    (comma : ∀ ⦃text : List Char⦄ ⦃lexemes : List Lexeme⦄, Lexes text lexemes →
      Stops (separator ++ text) ∧ Lexes (separator ++ text) (.mark .comma :: lexemes))
    (stops : Stops text) (rest : Lexes text lexemes) :
    Lexes (List.intercalate separator (items.map write) ++ text)
      (Query.separated (items.map read) ++ lexemes) := by
  induction items with
  | nil => exact rest
  | cons item items ih =>
      have first := each item List.mem_cons_self
      cases items with
      | nil => simpa [Query.separated] using first stops rest
      | cons next items =>
          have others := comma (ih fun item mem => each item (List.mem_cons_of_mem _ mem))
          have whole := first others.1 others.2
          simpa [Query.separated, List.intercalate_cons_cons] using whole

end Lexes

end PromScribe.Query

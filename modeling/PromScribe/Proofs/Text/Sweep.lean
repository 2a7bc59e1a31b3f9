import PromScribe.Text.Sweep
import PromScribe.Text.Word

/-!
# Sweeping words

A text is a word, then words behind gaps. Where runs are accepted only from the beginnings of words,
a sweep is known from what is accepted at each of them: the characters of a word that is not
accepted, and those of the gaps, are left as they are.
-/

namespace PromScribe.Text

variable {α β : Type} {recognise : Recogniser α} {before : Option Char}
variable {word rest tail : List Char} {c : Char} {value : α}

/-- A run of a class ends where the text goes on with another character. -/
theorem takeWhile_run {inClass : Char → Bool} (inside : ∀ c ∈ word, inClass c = true)
    (ends : rest.head?.any inClass = false) : (word ++ rest).takeWhile inClass = word := by
  rw [List.takeWhile_append_of_pos inside]
  cases rest with
  | nil => simp
  | cons c rest =>
      have other : inClass c = false := ends
      simp [other]

theorem dropWhile_run {inClass : Char → Bool} (inside : ∀ c ∈ word, inClass c = true)
    (ends : rest.head?.any inClass = false) : (word ++ rest).dropWhile inClass = rest := by
  rw [List.dropWhile_append_of_pos inside]
  cases rest with
  | nil => rfl
  | cons c rest =>
      have other : inClass c = false := ends
      simp [other]

/-- A text begins with a word character only if its head is one. -/
theorem wordBeside_head?_append (rest : List Char) (nonempty : word ≠ [])
    (letters : ∀ c ∈ word, isWord c = true) : wordBeside (word ++ rest).head? = true := by
  cases word with
  | nil => exact absurd rfl nonempty
  | cons c word => exact letters c List.mem_cons_self

/-- Runs are accepted only from where a word begins. -/
def StartsWords (recognise : Recogniser α) : Prop :=
  ∀ before text hit, recognise before text = some hit →
    wordBeside before = false ∧ wordBeside text.head? = true

theorem StartsWords.inside (starts : StartsWords recognise) (within : wordBeside before = true)
    (text : List Char) : recognise before text = none := by
  cases found : recognise before text with
  | none => rfl
  | some hit =>
      have outside := (starts before text hit found).1
      rw [within] at outside
      cases outside

theorem StartsWords.atGap (starts : StartsWords recognise) (ends : wordBeside rest.head? = false)
    (before : Option Char) : recognise before rest = none := by
  cases found : recognise before rest with
  | none => rfl
  | some hit =>
      have begins := (starts before rest hit found).2
      rw [ends] at begins
      cases begins

theorem sweepFrom_cons (misses : recognise before (c :: rest) = none) :
    sweepFrom recognise before 0 (c :: rest) = .plain c :: sweepFrom recognise (some c) 0 rest := by
  simp only [sweepFrom, misses]

/-- Where nothing is accepted, it does not matter what stands before. -/
theorem sweepFrom_before (blocked : ∀ before, recognise before rest = none)
    (before : Option Char) :
    sweepFrom recognise before 0 rest = sweepFrom recognise none 0 rest := by
  cases rest with
  | nil => rfl
  | cons c rest => rw [sweepFrom_cons (blocked before), sweepFrom_cons (blocked none)]

theorem sweepFrom_skip (blocked : ∀ before, recognise before rest = none) (covered : List Char)
    (before : Option Char) :
    sweepFrom recognise before covered.length (covered ++ rest) =
      sweepFrom recognise none 0 rest := by
  induction covered generalizing before with
  | nil => exact sweepFrom_before blocked before
  | cons c covered ih => exact ih (some c)

/-- An accepted run is one piece, and the sweep goes on behind it. -/
theorem sweepFrom_hit (blocked : ∀ before, recognise before rest = none) (nonempty : word ≠ [])
    (hits : recognise before (word ++ rest) = some ⟨word.length - 1, value⟩) :
    sweepFrom recognise before 0 (word ++ rest) =
      .hit word value :: sweepFrom recognise none 0 rest := by
  cases word with
  | nil => exact absurd rfl nonempty
  | cons c word =>
      have covers : recognise before (c :: (word ++ rest)) = some ⟨word.length, value⟩ := hits
      have taken : (word ++ rest).take word.length = word := by simp
      simp only [List.cons_append, sweepFrom, covers, taken, sweepFrom_skip blocked]

/-- What is accepted behind a gap up to the end of the text is the last piece. -/
theorem sweepFrom_last (starts : StartsWords recognise) {gap : Char} (apart : isWord gap = false)
    (nonempty : word ≠ []) (hits : recognise (some gap) word = some ⟨word.length - 1, value⟩) :
    sweepFrom recognise none 0 (gap :: word) = [.plain gap, .hit word value] := by
  have ahead : wordBeside (gap :: word).head? = false := apart
  have ended : recognise (some gap) (word ++ []) = some ⟨word.length - 1, value⟩ := by
    rwa [List.append_nil]
  have last := sweepFrom_hit (starts.atGap rfl) nonempty ended
  rw [List.append_nil] at last
  rw [sweepFrom_cons (starts.atGap ahead none), last]
  rfl

/-- Inside of a word nothing is accepted. -/
theorem sweepFrom_inside (starts : StartsWords recognise) (within : wordBeside before = true)
    (letters : ∀ c ∈ word, isWord c = true) (ends : wordBeside rest.head? = false) :
    sweepFrom recognise before 0 (word ++ rest) =
      word.map .plain ++ sweepFrom recognise none 0 rest := by
  induction word generalizing before with
  | nil => exact sweepFrom_before (starts.atGap ends) before
  | cons c word ih =>
      have letter : wordBeside (some c) = true := letters c List.mem_cons_self
      have more := ih letter fun d mem => letters d (List.mem_cons_of_mem c mem)
      rw [List.cons_append, sweepFrom_cons (starts.inside within _), more]
      rfl

/-- A word that is not accepted at its beginning is left as it is. -/
theorem sweepFrom_miss (starts : StartsWords recognise) (letters : ∀ c ∈ word, isWord c = true)
    (ends : wordBeside rest.head? = false) (misses : recognise before (word ++ rest) = none) :
    sweepFrom recognise before 0 (word ++ rest) =
      word.map .plain ++ sweepFrom recognise none 0 rest := by
  cases word with
  | nil => exact sweepFrom_before (starts.atGap ends) before
  | cons c word =>
      have letter : wordBeside (some c) = true := letters c List.mem_cons_self
      have more := sweepFrom_inside starts letter
        (fun d mem => letters d (List.mem_cons_of_mem c mem)) ends
      have missed : recognise before (c :: (word ++ rest)) = none := misses
      rw [List.cons_append, sweepFrom_cons missed, more]
      rfl

/-- A gap and the word behind it. -/
abbrev Token := Char × List Char

namespace Token

/-- The gap is no word character, and the word is one word. -/
structure Proper (token : Token) : Prop where
  gap : isWord token.1 = false
  nonempty : token.2 ≠ []
  letters : ∀ c ∈ token.2, isWord c = true

/-- The text of words behind gaps. -/
def written (tokens : List Token) : List Char :=
  tokens.flatMap fun token => token.1 :: token.2

@[simp] theorem written_nil : written [] = [] := rfl

@[simp] theorem written_cons (gap : Char) (word : List Char) (tokens : List Token) :
    written ((gap, word) :: tokens) = gap :: (word ++ written tokens) := by
  simp [written]

@[simp] theorem written_append (tokens more : List Token) :
    written (tokens ++ more) = written tokens ++ written more := by
  simp [written]

/-- No word goes on into words behind gaps. -/
theorem ends_written {tokens : List Token} (proper : ∀ token ∈ tokens, token.Proper)
    (ends : wordBeside tail.head? = false) : wordBeside (written tokens ++ tail).head? = false := by
  cases tokens with
  | nil => exact ends
  | cons token tokens => exact (proper token List.mem_cons_self).gap

theorem wordBeside_written {tokens : List Token} (proper : ∀ token ∈ tokens, token.Proper) :
    wordBeside (written tokens).head? = false := by
  have ends : wordBeside (written tokens ++ []).head? = false := ends_written proper rfl
  rwa [List.append_nil] at ends

/-- At each word, with the text that follows it, the condition holds. -/
def EachPlace (holds : List Char → List Char → Prop) (tail : List Char) : List Token → Prop
  | [] => True
  | (_, word) :: tokens => holds word (written tokens ++ tail) ∧ EachPlace holds tail tokens

theorem eachPlace_append {holds : List Char → List Char → Prop} {tokens more : List Token} :
    EachPlace holds tail (tokens ++ more) ↔
      EachPlace holds (written more ++ tail) tokens ∧ EachPlace holds tail more := by
  induction tokens with
  | nil => simp [EachPlace]
  | cons token tokens ih =>
      obtain ⟨gap, word⟩ := token
      simp [EachPlace, ih, and_assoc]

theorem EachPlace.of_forall {holds : List Char → List Char → Prop} {tokens : List Token}
    (each : ∀ token ∈ tokens, ∀ rest, holds token.2 rest) : EachPlace holds tail tokens := by
  induction tokens with
  | nil => trivial
  | cons token tokens ih =>
      have there := fun other mem => each other (List.mem_cons_of_mem token mem)
      exact ⟨each token List.mem_cons_self _, ih there⟩

/-- What holds where no word goes on into what follows holds at each place. -/
theorem EachPlace.of_ends {holds : List Char → List Char → Prop} {tokens : List Token}
    (proper : ∀ token ∈ tokens, token.Proper) (ends : wordBeside tail.head? = false)
    (places : EachPlace (fun word rest => wordBeside rest.head? = false → holds word rest) tail
      tokens) : EachPlace holds tail tokens := by
  induction tokens with
  | nil => trivial
  | cons token tokens ih =>
      have there := fun other mem => proper other (List.mem_cons_of_mem token mem)
      exact ⟨places.1 (ends_written there ends), ih there places.2⟩

end Token

open Token

/-- The word is not accepted where it begins. -/
def Misses (recognise : Recogniser α) (word rest : List Char) : Prop :=
  ∀ before, wordBeside before = false → recognise before (word ++ rest) = none

/-- Words that are not accepted are left as they are, and so are the gaps before them. -/
theorem sweepFrom_written (starts : StartsWords recognise) {tokens : List Token}
    (proper : ∀ token ∈ tokens, token.Proper) (ends : wordBeside tail.head? = false)
    (misses : EachPlace (Misses recognise) tail tokens) :
    sweepFrom recognise none 0 (written tokens ++ tail) =
      (written tokens).map .plain ++ sweepFrom recognise none 0 tail := by
  induction tokens with
  | nil => rfl
  | cons token tokens ih =>
      obtain ⟨gap, word⟩ := token
      have here := proper (gap, word) List.mem_cons_self
      have there := fun token mem => proper token (List.mem_cons_of_mem _ mem)
      have outside : wordBeside (some gap) = false := here.gap
      have missed := sweepFrom_miss starts here.letters (ends_written there ends)
        (misses.1 (some gap) outside)
      have gapAhead : wordBeside (gap :: (word ++ (written tokens ++ tail))).head? = false :=
        here.gap
      have atGap := starts.atGap gapAhead none
      have stays := sweepFrom_cons atGap
      rw [written_cons, List.cons_append, List.append_assoc, stays, missed, ih there misses.2]
      simp

/-- A text whose words are not accepted is left as it is, up to its tail. -/
theorem sweep_written (starts : StartsWords recognise) {tokens : List Token}
    (letters : ∀ c ∈ word, isWord c = true) (proper : ∀ token ∈ tokens, token.Proper)
    (ends : wordBeside tail.head? = false) (first : Misses recognise word (written tokens ++ tail))
    (misses : EachPlace (Misses recognise) tail tokens) :
    sweep recognise (word ++ (written tokens ++ tail)) =
      (word ++ written tokens).map .plain ++ sweepFrom recognise none 0 tail := by
  unfold sweep
  rw [sweepFrom_miss starts letters (ends_written proper ends) (first none rfl),
    sweepFrom_written starts proper ends misses, List.map_append, List.append_assoc]

/-- A text none of whose words is accepted is left as it is. -/
theorem sweep_plain (starts : StartsWords recognise) {tokens : List Token}
    (letters : ∀ c ∈ word, isWord c = true) (proper : ∀ token ∈ tokens, token.Proper)
    (first : Misses recognise word (written tokens))
    (misses : EachPlace (Misses recognise) [] tokens) :
    sweep recognise (word ++ written tokens) = (word ++ written tokens).map .plain := by
  have begins : Misses recognise word (written tokens ++ []) := by rwa [List.append_nil]
  have swept := sweep_written starts letters proper rfl begins misses
  simpa [sweepFrom] using swept

theorem flatMap_map_plain {written : Piece α → List Char} (plain : ∀ c, written (.plain c) = [c])
    (text : List Char) : (text.map Piece.plain).flatMap written = text := by
  induction text with
  | nil => rfl
  | cons c text ih => rw [List.map_cons, List.flatMap_cons, ih, plain, List.singleton_append]

theorem rewriteWith_of_plain {written : α → List Char} {text : List Char}
    (plain : sweep recognise text = text.map .plain) : rewriteWith recognise written text = text := by
  unfold rewriteWith
  rw [plain]
  exact flatMap_map_plain (fun _ => rfl) text

theorem filterMap_value?_plain (text : List Char) :
    (text.map Piece.plain).filterMap (Piece.value? (α := α)) = [] := by
  induction text with
  | nil => rfl
  | cons c text ih => simp only [List.map_cons, List.filterMap_cons, Piece.value?, ih]

theorem valuesOf_of_plain {text : List Char} (plain : sweep recognise text = text.map .plain) :
    valuesOf recognise text = [] := by
  unfold valuesOf
  rw [plain, filterMap_value?_plain]

/-- The accepted run of the piece with what it stands for. -/
def Piece.hit? : Piece α → Option (List Char × α)
  | .plain _ => none
  | .hit text value => some (text, value)

theorem filterMap_hit?_plain (text : List Char) :
    (text.map Piece.plain).filterMap (Piece.hit? (α := α)) = [] := by
  induction text with
  | nil => rfl
  | cons c text ih => simp only [List.map_cons, List.filterMap_cons, Piece.hit?, ih]

/-- The accepted runs of the text, in order. -/
def hits (recognise : Recogniser α) (text : List Char) : List (List Char × α) :=
  (sweep recognise text).filterMap Piece.hit?

/-- Every accepted run was accepted at some place, and begins the text from there on. -/
theorem exists_of_mem_sweepFrom {text run : List Char} {skip : Nat}
    (mem : Piece.hit run value ∈ sweepFrom recognise before skip text) :
    ∃ before place extra, recognise before place = some ⟨extra, value⟩ ∧ place <:+ text ∧
      run = place.take (extra + 1) := by
  induction text generalizing before skip with
  | nil => cases mem
  | cons c rest ih =>
      have later {skip : Nat} (mem : Piece.hit run value ∈ sweepFrom recognise (some c) skip rest) :
          ∃ before place extra, recognise before place = some ⟨extra, value⟩ ∧
            place <:+ c :: rest ∧ run = place.take (extra + 1) := by
        obtain ⟨before, place, extra, accepted, within, covered⟩ := ih mem
        exact ⟨before, place, extra, accepted, within.trans (List.suffix_cons c rest), covered⟩
      cases skip with
      | succ skip => exact later mem
      | zero =>
          simp only [sweepFrom] at mem
          split at mem
          · next hit accepted =>
              rcases List.mem_cons.mp mem with here | there
              · cases here
                exact ⟨before, c :: rest, hit.extra, accepted, List.suffix_rfl, rfl⟩
              · exact later there
          · rcases List.mem_cons.mp mem with here | there
            · cases here
            · exact later there

theorem exists_of_mem_hits {text run : List Char} (mem : (run, value) ∈ hits recognise text) :
    ∃ before place extra, recognise before place = some ⟨extra, value⟩ ∧ place <:+ text ∧
      run = place.take (extra + 1) := by
  obtain ⟨piece, member, named⟩ := List.mem_filterMap.mp mem
  cases piece with
  | plain c => cases named
  | hit text found =>
      cases named
      exact exists_of_mem_sweepFrom member

/-- What is written is of the text, or is written for an accepted run of it. -/
theorem mem_rewriteWith {text : List Char} {written : α → List Char}
    (mem : c ∈ rewriteWith recognise written text) :
    c ∈ text ∨ ∃ before place extra value, recognise before place = some ⟨extra, value⟩ ∧
      place <:+ text ∧ c ∈ written value := by
  obtain ⟨piece, member, within⟩ := List.mem_flatMap.mp mem
  cases piece with
  | plain d =>
      refine .inl ?_
      obtain rfl := List.mem_singleton.mp within
      rw [← sweep_text recognise text]
      exact List.mem_flatMap.mpr ⟨_, member, List.mem_singleton_self c⟩
  | hit run value =>
      obtain ⟨before, place, extra, accepted, suffix_, -⟩ := exists_of_mem_sweepFrom member
      exact .inr ⟨before, place, extra, value, accepted, suffix_, within⟩

theorem map_spansOf (recognise : Recogniser α) (text : List Char) :
    (spansOf recognise text).map (fun span => (span.text, span.value)) = hits recognise text := by
  have kept (offset : Nat) (pieces : List (Piece α)) :
      (spansFrom offset pieces).map (fun span => (span.text, span.value)) =
        pieces.filterMap Piece.hit? := by
    induction pieces generalizing offset with
    | nil => rfl
    | cons piece pieces ih =>
        cases piece with
        | plain c => simp only [spansFrom, List.filterMap_cons, Piece.hit?, ih]
        | hit text value =>
            simp only [spansFrom, List.map_cons, List.filterMap_cons, Piece.hit?, ih]
  exact kept 0 (sweep recognise text)

theorem map_hits (recognise : Recogniser α) (text : List Char) :
    (hits recognise text).map Prod.snd = valuesOf recognise text := by
  unfold hits valuesOf
  induction sweep recognise text with
  | nil => rfl
  | cons piece pieces ih =>
      cases piece with
      | plain c => simp only [List.filterMap_cons, Piece.hit?, Piece.value?, ih]
      | hit text value =>
          simp only [List.filterMap_cons, List.map_cons, Piece.hit?, Piece.value?, ih]

end PromScribe.Text

import Mathlib.Data.List.Basic
import PromScribe.Proofs.Text.Sweep

/-!
# Sweeping a text part by part

A text is swept part by part where no place of the first part sees the second one. A part in which
no place is accepted is left as it is.
-/

namespace PromScribe.Text

variable {α : Type} {recognise : Recogniser α} {before : Option Char} {written : α → List Char}
variable {front text more kept back rest : List Char} {c : Char}

/-- What stands in front of a place behind the text, which itself stands behind `before`. -/
def lastOf (before : Option Char) (text : List Char) : Option Char :=
  text.foldl (fun _ c => some c) before

@[simp] theorem lastOf_nil (before : Option Char) : lastOf before [] = before := rfl

@[simp] theorem lastOf_cons (before : Option Char) (c : Char) (text : List Char) :
    lastOf before (c :: text) = lastOf (some c) text := rfl

theorem lastOf_append (before : Option Char) (text more : List Char) :
    lastOf before (text ++ more) = lastOf (lastOf before text) more :=
  List.foldl_append

theorem lastOf_concat (before : Option Char) (text : List Char) (c : Char) :
    lastOf before (text ++ [c]) = some c :=
  lastOf_append before text [c]

/-- Only an empty text shows what stands in front of it. -/
theorem lastOf_of_ne_nil (nonempty : text ≠ []) : lastOf before text = lastOf none text := by
  cases text with
  | nil => exact absurd rfl nonempty
  | cons c text => rfl

/-- Nothing is accepted at any place of a text that stands behind `before` and in front of
`rest`. -/
def Passes (recognise : Recogniser α) (rest : List Char) : Option Char → List Char → Prop
  | _, [] => True
  | before, c :: text =>
      recognise before (c :: (text ++ rest)) = none ∧ Passes recognise rest (some c) text

theorem passes_append :
    Passes recognise rest before (text ++ more) ↔
      Passes recognise (more ++ rest) before text ∧
        Passes recognise rest (lastOf before text) more := by
  induction text generalizing before with
  | nil => simp [Passes]
  | cons c text ih => simp [Passes, ih, and_assoc]

/-- Places of a text are met one by one, behind what of the text is in front of them. -/
theorem Passes.of_forall
    (each : ∀ front c part, text = front ++ c :: part →
      recognise (lastOf before front) (c :: (part ++ rest)) = none) :
    Passes recognise rest before text := by
  induction text generalizing before with
  | nil => trivial
  | cons c text ih =>
      refine ⟨each [] c text rfl, ih fun front d part split => ?_⟩
      exact each (c :: front) d part (congrArg (c :: ·) split)

theorem sweepFrom_passes (passes : Passes recognise rest before text) :
    sweepFrom recognise before 0 (text ++ rest) =
      text.map .plain ++ sweepFrom recognise (lastOf before text) 0 rest := by
  induction text generalizing before with
  | nil => rfl
  | cons c text ih =>
      rw [List.cons_append, sweepFrom_cons passes.1, ih passes.2]
      rfl

/-- A word is passed if it is not accepted where it begins. -/
theorem passes_word (starts : StartsWords recognise) (letters : ∀ c ∈ text, isWord c = true)
    (misses : recognise before (text ++ rest) = none) : Passes recognise rest before text := by
  refine Passes.of_forall fun front c part split => ?_
  rcases List.eq_nil_or_concat' front with rfl | ⟨earlier, d, rfl⟩
  · subst split
    exact misses
  · have within : wordBeside (lastOf before (earlier ++ [d])) = true := by
      rw [lastOf_concat]
      exact letters d (by simp [split])
    exact starts.inside within _

/-- What is no word is passed. -/
theorem passes_gap (starts : StartsWords recognise) (gaps : ∀ c ∈ text, isWord c = false) :
    Passes recognise rest before text := by
  refine Passes.of_forall fun front c part split => ?_
  have gap : wordBeside (c :: (part ++ rest)).head? = false := gaps c (by simp [split])
  exact starts.atGap gap _

/-- No place of a text that stands behind `before` sees what is behind the text. -/
def Settles (recognise : Recogniser α) (rest : List Char) : Option Char → List Char → Prop
  | _, [] => True
  | before, c :: text =>
      recognise before (c :: (text ++ rest)) = recognise before (c :: text) ∧
        Settles recognise rest (some c) text

theorem Settles.of_forall
    (each : ∀ front c part, text = front ++ c :: part →
      recognise (lastOf before front) (c :: (part ++ rest)) =
        recognise (lastOf before front) (c :: part)) :
    Settles recognise rest before text := by
  induction text generalizing before with
  | nil => trivial
  | cons c text ih =>
      refine ⟨each [] c text rfl, ih fun front d part split => ?_⟩
      exact each (c :: front) d part (congrArg (c :: ·) split)

/-- Accepted runs lie within the text. -/
def Within (recognise : Recogniser α) : Prop :=
  ∀ before text hit, recognise before text = some hit → hit.extra < text.length

/-- Accepted runs lie within the text, and end in a word character. -/
def EndsWords (recognise : Recogniser α) : Prop :=
  ∀ before text hit, recognise before text = some hit →
    ∃ run after, text = run ++ after ∧ run.length = hit.extra + 1 ∧
      wordBeside (lastOf none run) = true

theorem EndsWords.within (ends : EndsWords recognise) : Within recognise := by
  intro before text hit found
  obtain ⟨run, after, rfl, length, -⟩ := ends before text hit found
  rw [List.length_append, length]
  omega

/-- A settled text is swept as if nothing followed, and what follows as if it were alone. -/
theorem sweepFrom_settled (within : Within recognise) {skip : Nat} (covers : skip ≤ text.length)
    (settles : Settles recognise rest before text) :
    sweepFrom recognise before skip (text ++ rest) =
      sweepFrom recognise before skip text ++ sweepFrom recognise (lastOf before text) 0 rest := by
  induction text generalizing before skip with
  | nil =>
      obtain rfl := Nat.le_zero.mp covers
      rfl
  | cons c text ih =>
      cases skip with
      | succ skip => exact ih (Nat.le_of_succ_le_succ covers) settles.2
      | zero =>
          have later := ih (Nat.zero_le _) settles.2
          simp only [List.cons_append, sweepFrom, settles.1, lastOf_cons]
          cases found : recognise before (c :: text) with
          | none => simp only [later, List.cons_append]
          | some hit =>
              have covered : hit.extra ≤ text.length :=
                Nat.le_of_lt_succ (within before (c :: text) hit found)
              simp only [ih covered settles.2, List.take_append_of_le_length covered,
                List.cons_append]

/-- A character that is no word is the last piece where it ends the text. -/
theorem exists_sweepFrom_concat (ends : EndsWords recognise) (gap : isWord c = false)
    (before : Option Char) {skip : Nat} (covers : skip ≤ text.length) :
    ∃ pieces, sweepFrom recognise before skip (text ++ [c]) = pieces ++ [.plain c] := by
  induction text generalizing before skip with
  | nil =>
      obtain rfl := Nat.le_zero.mp covers
      cases found : recognise before [c] with
      | none => exact ⟨[], by simp [sweepFrom, found]⟩
      | some hit =>
          exfalso
          obtain ⟨run, after, split, length, letter⟩ := ends before [c] hit found
          cases run with
          | nil => cases length
          | cons d run =>
              obtain ⟨rfl, left⟩ := List.cons.inj split
              obtain ⟨rfl, -⟩ := List.append_eq_nil_iff.mp left.symm
              have word : isWord c = true := letter
              rw [gap] at word
              cases word
  | cons d text ih =>
      cases skip with
      | succ skip => exact ih (some d) (Nat.le_of_succ_le_succ covers)
      | zero =>
          simp only [List.cons_append, sweepFrom]
          cases found : recognise before (d :: (text ++ [c])) with
          | none =>
              obtain ⟨pieces, same⟩ := ih (some d) (Nat.zero_le _)
              exact ⟨.plain d :: pieces, by simp [same]⟩
          | some hit =>
              obtain ⟨run, after, split, length, letter⟩ := ends before _ hit found
              -- The run is not the whole text, whose last character is no word.
              have covered : hit.extra ≤ text.length := by
                rcases List.eq_nil_or_concat' after with rfl | ⟨behind, last, rfl⟩
                · rw [List.append_nil] at split
                  rw [← split, ← List.cons_append, lastOf_concat] at letter
                  have word : isWord c = true := letter
                  rw [gap] at word
                  cases word
                · have lengths := congrArg List.length split
                  simp only [List.length_cons, List.length_append, List.length_nil] at lengths
                  omega
              obtain ⟨pieces, same⟩ := ih (some d) covered
              let here := Piece.hit (d :: (text ++ [c]).take hit.extra) hit.value
              exact ⟨here :: pieces, by simp [same, here]⟩

/-- A text that is settled, one that is passed and one that begins no word are rewritten one by
one. -/
theorem rewriteWith_parts (starts : StartsWords recognise) (ends : EndsWords recognise)
    (settles : Settles recognise (kept ++ back) none front)
    (passes : Passes recognise back (lastOf none front) kept)
    (gap : wordBeside back.head? = false) :
    rewriteWith recognise written (front ++ (kept ++ back)) =
      rewriteWith recognise written front ++ (kept ++ rewriteWith recognise written back) := by
  unfold rewriteWith sweep
  rw [sweepFrom_settled ends.within (Nat.zero_le _) settles, sweepFrom_passes passes,
    sweepFrom_before (starts.atGap gap), List.flatMap_append, List.flatMap_append,
    flatMap_map_plain fun _ => rfl]

/-- A text that begins with no word begins as before when it is rewritten. -/
theorem head?_rewriteWith (starts : StartsWords recognise) (gap : wordBeside text.head? = false) :
    (rewriteWith recognise written text).head? = text.head? := by
  cases text with
  | nil => rfl
  | cons c text =>
      unfold rewriteWith sweep
      rw [sweepFrom_cons (starts.atGap gap none), List.flatMap_cons]
      rfl

/-- A text that ends with no word ends as before when it is rewritten. -/
theorem lastOf_rewriteWith (ends : EndsWords recognise)
    (gap : wordBeside (lastOf none text) = false) :
    lastOf none (rewriteWith recognise written text) = lastOf none text := by
  rcases List.eq_nil_or_concat' text with rfl | ⟨front, c, rfl⟩
  · rfl
  · rw [lastOf_concat] at gap ⊢
    obtain ⟨pieces, same⟩ := exists_sweepFrom_concat ends gap none (Nat.zero_le front.length)
    unfold rewriteWith sweep
    rw [same, List.flatMap_append]
    exact lastOf_concat _ _ c

end PromScribe.Text

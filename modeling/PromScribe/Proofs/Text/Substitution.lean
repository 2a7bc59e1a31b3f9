import PromScribe.Proofs.Text.Passage
import PromScribe.Proofs.Text.Spacing
import PromScribe.Text.Literal

/-!
# Occurrences and what is put in their place

A recogniser that does not see what stands in front of a place rewrites a text from any of its
places on as if the text began there. So what it leaves alone and what it accepts can be told part
by part.
-/

namespace PromScribe.Text

theorem occurs_iff {pattern text : List Char} : occurs pattern text = true ↔ pattern <:+: text := by
  induction text with
  | nil => simp [occurs]
  | cons c rest ih =>
      rw [occurs, Bool.or_eq_true, List.isPrefixOf_iff_prefix, ih, List.infix_cons_iff]

theorem hasPart_iff {whole part : String} :
    hasPart whole part = true ↔ part.toList <:+: whole.toList :=
  occurs_iff

variable {α : Type} {recognise : Recogniser α} {written : α → List Char} {value : α}
variable {run text rest pattern replacement : List Char}

/-- What stands in front of a place makes no difference. -/
def Forward (recognise : Recogniser α) : Prop :=
  ∀ before text, recognise before text = recognise none text

namespace Forward

theorem sweepFrom_before (forward : Forward recognise) (before : Option Char) (skip : Nat)
    (text : List Char) :
    sweepFrom recognise before skip text = sweepFrom recognise none skip text := by
  cases text with
  | nil => cases skip <;> rfl
  | cons c rest =>
      cases skip with
      | zero => simp only [sweepFrom, forward before]
      | succ skip => rfl

/-- Where nothing is accepted, the text is left as it is. -/
theorem rewriteWith_passes (forward : Forward recognise) {before : Option Char}
    (passes : Passes recognise rest before text) :
    rewriteWith recognise written (text ++ rest) = text ++ rewriteWith recognise written rest := by
  unfold rewriteWith sweep
  rw [← forward.sweepFrom_before before, sweepFrom_passes passes, forward.sweepFrom_before,
    List.flatMap_append, flatMap_map_plain fun _ => rfl]

/-- An accepted run is rewritten, and the text goes on behind it. -/
theorem rewriteWith_hit (forward : Forward recognise) (nonempty : run ≠ [])
    (hits : recognise none (run ++ rest) = some ⟨run.length - 1, value⟩) :
    rewriteWith recognise written (run ++ rest) =
      written value ++ rewriteWith recognise written rest := by
  have skipped (covered : List Char) (before : Option Char) :
      sweepFrom recognise before covered.length (covered ++ rest) =
        sweepFrom recognise none 0 rest := by
    induction covered generalizing before with
    | nil => exact forward.sweepFrom_before before 0 rest
    | cons c covered ih => exact ih (some c)
  cases run with
  | nil => exact absurd rfl nonempty
  | cons c run =>
      have covers : recognise none (c :: (run ++ rest)) = some ⟨run.length, value⟩ := hits
      unfold rewriteWith sweep
      simp only [List.cons_append, sweepFrom, covers, skipped, List.flatMap_cons]

end Forward

/-!
## Patterns that begin with a mark

A pattern whose first character does not come again in it cannot overlap with itself. So each of its
occurrences is replaced, whatever stands beside it, and a text is put together from parts without
the pattern, between which it stands.
-/

variable {front back : List Char} {parts : List (List Char)}

/-- The pattern begins with a character that does not come again in it. -/
inductive Marked : List Char → Prop where
  | cons {mark : Char} {more : List Char} (once : mark ∉ more) : Marked (mark :: more)

theorem forward_literal (pattern : List Char) : Forward (literal pattern) := fun _ _ => rfl

theorem literal_eq_none (apart : ¬ pattern <+: text) (before : Option Char) :
    literal pattern before text = none := by
  unfold literal
  rw [if_neg]
  rwa [List.isPrefixOf_iff_prefix]

/-- A text without the pattern is left as it is. -/
theorem substitute_of_not_infix (apart : ¬ pattern <:+: text) :
    substitute pattern replacement text = text := by
  have passes : Passes (literal pattern) [] none text := by
    refine Passes.of_forall fun front c part split => literal_eq_none (fun starts => apart ?_) _
    rw [List.append_nil] at starts
    exact split ▸ starts.isInfix.trans (List.suffix_append front _).isInfix
  have kept : substitute pattern replacement (text ++ []) =
      text ++ substitute pattern replacement [] :=
    (forward_literal pattern).rewriteWith_passes passes
  have none : substitute pattern replacement [] = [] := rfl
  rwa [none, List.append_nil] at kept

/-- A character at which the pattern does not begin is left as it is. -/
theorem substitute_cons {c : Char} (apart : ¬ pattern <+: c :: text) :
    substitute pattern replacement (c :: text) = c :: substitute pattern replacement text := by
  have passes : Passes (literal pattern) text none [c] := ⟨literal_eq_none apart none, trivial⟩
  exact (forward_literal pattern).rewriteWith_passes passes

namespace Marked

theorem ne_nil (marked : Marked pattern) : pattern ≠ [] := by
  cases marked
  exact List.cons_ne_nil _ _

/-- The pattern at the head of a text is replaced. -/
theorem substitute_head (marked : Marked pattern) (text : List Char) :
    substitute pattern replacement (pattern ++ text) =
      replacement ++ substitute pattern replacement text := by
  have hits : literal pattern none (pattern ++ text) = some ⟨pattern.length - 1, ()⟩ := by
    unfold literal
    rw [if_pos (List.isPrefixOf_iff_prefix.mpr (List.prefix_append _ _))]
  exact (forward_literal pattern).rewriteWith_hit marked.ne_nil hits

/-- A pattern in front of another one has all its characters there. -/
theorem exists_of_begins (marked : Marked pattern) (nonempty : front ≠ [])
    (begins : pattern <+: front ++ (pattern ++ back)) : ∃ rest, front = pattern ++ rest := by
  obtain ⟨left, same⟩ := begins
  rcases List.append_eq_append_iff.mp same with ⟨rest, whole, -⟩ | ⟨rest, split, behind⟩
  · exact ⟨rest, whole⟩
  · -- What of the pattern reaches behind `front` begins with the mark once more.
    cases marked with
    | @cons mark more once =>
        cases front with
        | nil => exact absurd rfl nonempty
        | cons c front =>
            cases rest with
            | nil => exact ⟨[], by simpa using split.symm⟩
            | cons d rest =>
                obtain ⟨rfl, -⟩ := List.cons.inj behind
                have again : more = front ++ mark :: rest := (List.cons.inj split).2
                exact absurd (by simp [again]) once

/-- An occurrence of the pattern is replaced, and the texts on both sides of it by themselves. -/
theorem substitute_occurrence (marked : Marked pattern) (front back : List Char) :
    substitute pattern replacement (front ++ (pattern ++ back)) =
      substitute pattern replacement front ++
        (replacement ++ substitute pattern replacement back) := by
  cases front with
  | nil => exact marked.substitute_head back
  | cons c front =>
      by_cases begins : pattern <+: c :: front ++ (pattern ++ back)
      · obtain ⟨rest, whole⟩ := marked.exists_of_begins (List.cons_ne_nil c front) begins
        have shorter : rest.length < (c :: front).length := by
          have some_char := List.length_pos_iff.mpr marked.ne_nil
          rw [whole, List.length_append]
          omega
        rw [whole, List.append_assoc, marked.substitute_head, marked.substitute_head,
          substitute_occurrence marked rest back, List.append_assoc]
      · have alone : ¬ pattern <+: c :: front := fun starts =>
          begins (starts.trans (List.prefix_append _ _))
        rw [substitute_cons alone, List.cons_append, List.cons_append,
          substitute_cons (by simpa using begins), substitute_occurrence marked front back]
termination_by front.length
decreasing_by
  · exact shorter
  · exact Nat.lt_succ_self _

/-- Between parts without the pattern each occurrence is replaced. -/
theorem substitute_intercalate (marked : Marked pattern)
    (free : ∀ part ∈ parts, ¬ pattern <:+: part) :
    substitute pattern replacement (List.intercalate pattern parts) =
      List.intercalate replacement parts := by
  induction parts with
  | nil => rfl
  | cons part parts ih =>
      obtain ⟨here, later⟩ := List.forall_mem_cons.mp free
      cases parts with
      | nil =>
          rw [List.intercalate_singleton, List.intercalate_singleton]
          exact substitute_of_not_infix here
      | cons next parts =>
          rw [List.intercalate_cons_cons, List.intercalate_cons_cons, List.append_assoc,
            marked.substitute_occurrence, substitute_of_not_infix here, ih later,
            List.append_assoc]

/-- Texts are put together from parts without the pattern. -/
theorem exists_parts (marked : Marked pattern) (text : List Char) :
    ∃ parts, parts ≠ [] ∧ (∀ part ∈ parts, ¬ pattern <:+: part) ∧
      text = List.intercalate pattern parts := by
  by_cases found : pattern <:+: text
  · obtain ⟨front, back, split⟩ := found
    have some_char := List.length_pos_iff.mpr marked.ne_nil
    have lengths := congrArg List.length split
    simp only [List.length_append] at lengths
    have shorter : front.length < text.length ∧ back.length < text.length := by omega
    obtain ⟨left, someLeft, leftFree, frontParts⟩ := exists_parts marked front
    obtain ⟨right, someRight, rightFree, backParts⟩ := exists_parts marked back
    refine ⟨left ++ right, List.append_ne_nil_of_left_ne_nil someLeft right, ?_, ?_⟩
    · exact List.forall_mem_append.mpr ⟨leftFree, rightFree⟩
    · rw [← split, intercalate_append someLeft someRight, ← frontParts, ← backParts,
        List.append_assoc]
  · refine ⟨[text], List.cons_ne_nil text [], ?_, (List.intercalate_singleton).symm⟩
    exact List.forall_mem_singleton.mpr found
termination_by text.length

end Marked

end PromScribe.Text

import PromScribe.Proofs.Query.Words
import PromScribe.Proofs.Question.Label
import PromScribe.Proofs.Text.Place
import PromScribe.Proofs.Text.Substitution
import PromScribe.Series.Chart

/-!
# Grouping clauses in a text

A clause is found behind the operator that takes it, and its labels are counted one by one. Where
labels and what stands behind the clause have no blanks, no other operator takes one.
-/

namespace PromScribe.Chart

open Text Query Question

variable {c mark blank : Char} {text name front part operator inner rest left right : List Char}
variable {parts : List (List Char)} {before : Option Char} {hit : Hit Unit}

/-- A mark that is not in the end of a text is in its front. -/
theorem exists_of_mark (absent : mark ∉ rest) (same : left ++ mark :: right = front ++ rest) :
    ∃ more, front = left ++ mark :: more := by
  rcases List.append_eq_append_iff.mp same with
    ⟨between, longer, behind⟩ | ⟨between, longer, behind⟩
  · cases between with
    | nil =>
        rw [List.nil_append] at behind
        exact absurd (by simp [← behind]) absent
    | cons d between =>
        obtain ⟨rfl, -⟩ := List.cons.inj behind
        exact ⟨between, longer⟩
  · exact absurd (by simp [behind]) absent

/-- A call is one of the names and, further behind, a parenthesis. -/
theorem exists_of_callOf {names : List String} (found : callOf names before text = some hit) :
    ∃ name ∈ names, ∃ gap inner, text = name.toList ++ (gap ++ '(' :: inner) := by
  unfold callOf at found
  split at found
  · cases found
  obtain ⟨chars, known, taken⟩ := List.exists_of_findSome?_eq_some found
  obtain ⟨name, mem, rfl⟩ := List.mem_map.mp known
  split at taken
  · next starts =>
      obtain ⟨behind, rfl⟩ := List.isPrefixOf_iff_prefix.mp starts
      rw [List.drop_left] at taken
      dsimp only at taken
      split at taken
      · next opens =>
          rw [← List.drop_drop, List.drop_left] at opens
          obtain ⟨inner, rest⟩ := List.head?_eq_some_iff.mp opens
          have whole := List.prefix_iff_eq_append.mp (List.takeWhile_prefix (l := behind) isBlank)
          rw [rest] at whole
          exact ⟨name, mem, behind.takeWhile isBlank, inner, by rw [whole]⟩
      · cases taken
  · cases taken

/-- The clause of a partition is one of two names and a blank. -/
theorem exists_of_partitionClause (found : partitionClause before text = some hit) :
    ∃ name ∈ ["count".toList, "sum".toList], ∃ blank rest,
      text = name ++ blank :: rest ∧ isBlank blank = true := by
  unfold partitionClause at found
  split at found
  · cases found
  obtain ⟨name, known, taken⟩ := List.exists_of_findSome?_eq_some found
  split at taken
  · next starts =>
      obtain ⟨behind, rfl⟩ := List.isPrefixOf_iff_prefix.mp starts
      rw [List.drop_left] at taken
      dsimp only at taken
      split at taken
      · split at taken
        · cases taken
        · next apart =>
            cases behind with
            | nil => exact absurd rfl apart
            | cons blank rest =>
                refine ⟨name, known, blank, rest, rfl, eq_true_of_ne_false fun solid => apart ?_⟩
                rw [List.takeWhile_cons, solid]
                rfl
      · cases taken
  · cases taken

/-- The text is a name: it is not empty, and it has but letters, digits, underscores and colons. -/
structure IsName (text : List Char) : Prop where
  nonempty : text ≠ []
  letters : ∀ c ∈ text, continuesMetric c = true

namespace IsName

theorem isBlank_eq_false (name : IsName text) : ∀ c ∈ text, isBlank c = false := fun c mem =>
  isBlank_of_continuesMetric (name.letters c mem)

theorem not_mem (name : IsName text) (other : continuesMetric mark = false) : mark ∉ text :=
  fun mem => by
    rw [name.letters mark mem] at other
    cases other

theorem folded (name : IsName text) : IsName (folded text) := by
  refine ⟨fun nothing => name.nonempty (List.map_eq_nil_iff.mp nothing), fun c mem => ?_⟩
  obtain ⟨d, there, rfl⟩ := List.mem_map.mp mem
  have letter := name.letters d there
  by_cases small : d.toLower.isLower = true
  · have alpha : d.toLower.isAlpha = true := Text.isAlpha_iff.mpr (.inr small)
    have key : continuesKey d.toLower = true := by
      simp [continuesKey, isAsciiWord, Char.isAlphanum, alpha]
    exact continuesMetric_iff.mpr (.inl key)
  · rwa [← eq_of_toLower (eq_false_of_ne_true small) rfl]

end IsName

/-- The list of a grouping has no other marks than commas and spaces. -/
theorem not_mem_list (names : ∀ part ∈ parts, IsName part) (other : continuesMetric mark = false)
    (apart : mark ∉ [',', ' ']) : mark ∉ List.intercalate [',', ' '] parts := fun mem => by
  rcases mem_of_mem_intercalate mem with between | ⟨part, there, within⟩
  · exact apart between
  · exact (names part there).not_mem other within

/-- Parts without the mark between them are taken apart again. -/
theorem partsBetween_append (absent : mark ∉ front) (rest : List Char) :
    partsBetween mark (front ++ mark :: rest) = front :: partsBetween mark rest := by
  induction front with
  | nil => exact if_pos rfl
  | cons c front ih =>
      rw [List.mem_cons, not_or] at absent
      rw [List.cons_append, partsBetween, if_neg (Ne.symm absent.1), ih absent.2]

theorem partsBetween_of_not_mem (absent : mark ∉ text) : partsBetween mark text = [text] := by
  induction text with
  | nil => rfl
  | cons c text ih =>
      rw [List.mem_cons, not_or] at absent
      rw [partsBetween, if_neg (Ne.symm absent.1), ih absent.2]

/-- Behind its commas, the list of a grouping has a space in front of each name. -/
theorem partsBetween_list {front : List Char} (absent : ',' ∉ front)
    (names : ∀ name ∈ part :: parts, ',' ∉ name) :
    partsBetween ',' (front ++ List.intercalate [',', ' '] (part :: parts)) =
      (front ++ part) :: parts.map (' ' :: ·) := by
  induction parts generalizing front part with
  | nil =>
      have alone : ',' ∉ front ++ part := by
        rw [List.mem_append, not_or]
        exact ⟨absent, names part List.mem_cons_self⟩
      rw [List.intercalate_singleton, partsBetween_of_not_mem alone]
      rfl
  | cons next parts ih =>
      obtain ⟨here, later⟩ := List.forall_mem_cons.mp names
      have first : ',' ∉ front ++ part := by
        rw [List.mem_append, not_or]
        exact ⟨absent, here⟩
      have shape : front ++ List.intercalate [',', ' '] (part :: next :: parts) =
          (front ++ part) ++ ',' :: ([' '] ++ List.intercalate [',', ' '] (next :: parts)) := by
        rw [List.intercalate_cons_cons]
        simp
      rw [shape, partsBetween_append first, ih (by decide) later]
      rfl

/-- Each name of a list counts. -/
theorem length_filter_list (listed : parts ≠ []) (names : ∀ part ∈ parts, IsName part) :
    ((partsBetween ',' (List.intercalate [',', ' '] parts)).filter
      fun part => !(trim part).isEmpty).length = parts.length := by
  have worded (front : List Char) {part : List Char} (name : IsName part) :
      (!(trim (front ++ part)).isEmpty) = true := by
    obtain ⟨c, mem⟩ := List.exists_mem_of_ne_nil part name.nonempty
    rw [Bool.not_eq_true', List.isEmpty_eq_false_iff]
    intro nothing
    have white := trim_eq_nil_iff.mp nothing c (List.mem_append_right front mem)
    rw [name.isBlank_eq_false c mem] at white
    cases white
  cases parts with
  | nil => exact absurd rfl listed
  | cons part parts =>
      obtain ⟨here, later⟩ := List.forall_mem_cons.mp names
      have commas : ∀ name ∈ part :: parts, ',' ∉ name := fun name mem =>
        (names name mem).not_mem rfl
      have taken := partsBetween_list (List.not_mem_nil : ',' ∉ []) commas
      rw [List.nil_append, List.nil_append] at taken
      rw [taken, List.filter_eq_self.mpr, List.length_cons, List.length_map, List.length_cons]
      refine List.forall_mem_cons.mpr ⟨worded [] here, fun spaced mem => ?_⟩
      obtain ⟨name, there, rfl⟩ := List.mem_map.mp mem
      exact worded [' '] (later name there)

theorem groupingClause_of_ne (other : c ≠ 'b') : groupingClause before (c :: text) = none := by
  unfold groupingClause
  split
  · next begins => exact absurd (List.cons.inj begins).1 other
  · rfl

/-- A grouping is accepted where it begins, if it does not begin inside of a word. -/
theorem groupingClause_of_list (outside : wordBeside before = false) (closed : ')' ∉ text) :
    groupingClause before ('b' :: 'y' :: ' ' :: '(' :: (text ++ ')' :: rest)) =
      some ⟨4 + text.length, text⟩ := by
  have list : (text ++ ')' :: rest).takeWhile (· != ')') = text := by
    rw [List.takeWhile_append_of_pos, List.takeWhile_cons, if_neg (by decide), List.append_nil]
    intro c mem
    rw [bne_iff_ne]
    rintro rfl
    exact closed mem
  have gap : (' ' :: '(' :: (text ++ ')' :: rest)).takeWhile isBlank = [' '] := rfl
  simp [groupingClause, gap, list, outside]

/-- The labels of the first grouping are counted. -/
theorem groupedLabels_groupedCall (listed : parts ≠ []) (names : ∀ part ∈ parts, IsName part)
    (silent : 'b' ∉ operator) :
    groupedLabels (groupedCall operator parts rest) = parts.length := by
  let list := List.intercalate [',', ' '] parts
  have closed : ')' ∉ list := not_mem_list names rfl (by decide)
  have shape : groupedCall operator parts rest = (operator ++ [' ']) ++
      'b' :: 'y' :: ' ' :: '(' :: (list ++ ')' :: ' ' :: '(' :: rest) := by
    simp [groupedCall, list]
  have passes (rest : List Char) : Passes groupingClause rest none (operator ++ [' ']) := by
    refine Passes.of_forall fun front c part split => groupingClause_of_ne ?_
    rintro rfl
    have mem : 'b' ∈ operator ++ [' '] := by simp [split]
    rcases List.mem_append.mp mem with early | space
    · exact silent early
    · exact absurd space (by decide)
  have first :
      ∃ more, valuesOf groupingClause (groupedCall operator parts rest) = list :: more := by
    unfold valuesOf sweep
    rw [shape, sweepFrom_passes (passes _), lastOf_concat, List.filterMap_append,
      filterMap_value?_plain, List.nil_append, sweepFrom, groupingClause_of_list rfl closed]
    exact ⟨_, rfl⟩
  obtain ⟨more, values⟩ := first
  unfold groupedLabels
  rw [values]
  exact length_filter_list listed names

/-- A count or a sum with a grouping makes a partition. -/
theorem partitionClause_groupedCall (named : name ∈ ["count".toList, "sum".toList]) :
    anywhere partitionClause (groupedCall name parts rest) = true := by
  refine anywhere_iff.mpr ?_
  simp only [List.mem_cons, List.not_mem_nil, or_false] at named
  rcases named with rfl | rfl
  · exact ⟨[], _, _, rfl, _, rfl⟩
  · exact ⟨[], _, _, rfl, _, rfl⟩

/-- What stands in a list, but not across a comma, stands in one of its parts, if it does not begin
with the space in front of one. -/
theorem exists_infix_of_list (other : c ≠ ' ') (apart : ',' ∉ c :: text)
    (inside : c :: text <:+: List.intercalate [',', ' '] parts) :
    ∃ part ∈ parts, c :: text <:+: part := by
  induction parts with
  | nil => cases List.infix_nil.mp inside
  | cons part parts ih =>
      cases parts with
      | nil => exact ⟨part, List.mem_cons_self, by simpa using inside⟩
      | cons next parts =>
          rw [List.intercalate_cons_cons, List.append_assoc] at inside
          rcases infix_beside_mark apart inside with here | behind
          · exact ⟨part, List.mem_cons_self, here⟩
          · rcases List.infix_cons_iff.mp behind with starts | later
            · exact absurd (List.cons_prefix_cons.mp starts).1 other
            · obtain ⟨found, mem, within⟩ := ih later
              exact ⟨found, List.mem_cons_of_mem part mem, within⟩

/-- The head of a partition clause, a name and a blank, has no mark of a grouping. -/
theorem not_mem_head (named : name ∈ ["count".toList, "sum".toList])
    (white : isBlank blank = true) :
    ∀ mark ∈ ['(', ')', ','], mark ∉ name ++ [blank] := by
  have lettered : ∀ name ∈ ["count".toList, "sum".toList], ['(', ')', ','].Forall fun mark =>
      mark ∉ name ∧ isBlank mark = false := by decide
  intro mark listed mem
  obtain ⟨outside, solid⟩ := List.forall_iff_forall_mem.mp (lettered name named) mark listed
  obtain rfl := List.mem_singleton.mp ((List.mem_append.mp mem).resolve_left outside)
  rw [white] at solid
  cases solid

/-- The head of a partition clause is not in another operator and the word `by` behind it. -/
theorem not_head_infix {operator : String} (known : operator ∈ aggregationOperators)
    (other : operator ≠ "sum" ∧ operator ≠ "count")
    (named : name ∈ ["count".toList, "sum".toList]) (white : isBlank blank = true) :
    ¬ name ++ [blank] <:+: operator.toList ++ [' ', 'b', 'y', ' '] := by
  intro inside
  -- The only blanks of an operator and the word `by` are the spaces around the word.
  have space : blank = ' ' := by
    have letters : ∀ operator ∈ aggregationOperators,
        operator.toList.Forall (isBlank · = false) := by decide
    have around : [' ', 'b', 'y', ' '].Forall fun c => isBlank c = true → c = ' ' := by decide
    have mem : blank ∈ operator.toList ++ [' ', 'b', 'y', ' '] :=
      inside.subset (List.mem_append_right name List.mem_cons_self)
    rcases List.mem_append.mp mem with early | late
    · rw [List.forall_iff_forall_mem.mp (letters operator known) blank early] at white
      cases white
    · exact List.forall_iff_forall_mem.mp around blank late white
  have strange : ∀ operator ∈ aggregationOperators, operator ≠ "sum" ∧ operator ≠ "count" →
      ∀ name ∈ ["count".toList, "sum".toList],
        ¬ name ++ [' '] <:+: operator.toList ++ [' ', 'b', 'y', ' '] := by decide +kernel
  exact strange operator known other name named (space ▸ inside)

/-- Another operator with a grouping makes no partition, whatever the names and what is behind. -/
theorem not_partition {operator : String} (known : operator ∈ aggregationOperators)
    (other : operator ≠ "sum" ∧ operator ≠ "count") (names : ∀ part ∈ parts, IsName part)
    (solid : ∀ c ∈ rest, isBlank c = false) :
    anywhere partitionClause (groupedCall operator.toList parts rest) = false := by
  refine eq_false_of_ne_true fun partitions => ?_
  obtain ⟨front, c, behind, place, hit, found⟩ := anywhere_iff.mp partitions
  obtain ⟨name, named, blank, after, begins, white⟩ := exists_of_partitionClause found
  have inside : name ++ [blank] <:+: (operator.toList ++ [' ', 'b', 'y', ' ']) ++ '(' ::
      (List.intercalate [',', ' '] parts ++ ')' :: ([' '] ++ '(' :: rest)) := by
    refine ⟨front, after, ?_⟩
    rw [List.append_assoc, List.append_assoc, List.singleton_append, ← begins, ← place]
    simp [groupedCall]
  have within {part : List Char} (inside : name ++ [blank] <:+: part) : blank ∈ part :=
    inside.subset (List.mem_append_right name List.mem_cons_self)
  have apart := not_mem_head named white
  have strange := not_head_infix known other named white
  obtain ⟨first, more, rfl, letter⟩ : ∃ first more, name = first :: more ∧ first ≠ ' ' := by
    simp only [List.mem_cons, List.not_mem_nil, or_false] at named
    rcases named with rfl | rfl
    · exact ⟨_, _, rfl, by decide⟩
    · exact ⟨_, _, rfl, by decide⟩
  rcases infix_beside_mark (apart '(' (by decide)) inside with clause | applied
  · exact strange clause
  rcases infix_beside_mark (apart ')' (by decide)) applied with listed | applied
  · obtain ⟨part, mem, found⟩ := exists_infix_of_list letter (apart ',' (by decide)) listed
    rw [(names part mem).isBlank_eq_false blank (within found)] at white
    cases white
  rcases infix_beside_mark (apart '(' (by decide)) applied with space | inner
  · have mem : first ∈ [' '] := space.subset List.mem_cons_self
    exact letter (List.mem_singleton.mp mem)
  · rw [solid blank (within inner)] at white
    cases white

end PromScribe.Chart

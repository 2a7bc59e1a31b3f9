import PromScribe.Proofs.Query.Braces
import PromScribe.Proofs.Text.AnyCase

/-!
# Words in built queries

A word stands in a built query only where it stands in a name or a label value of the context, for
nothing else in a query is as long, and what stands between two of these is no part of a word.
-/

namespace PromScribe.Query

open Text

variable {context : Context} {mark : Char} {word text front rest : List Char}
variable {parts : List (List Char)}

/-- What is in a text, but across none of its marks, is on one side of each. -/
theorem infix_beside_mark (apart : mark ∉ word) (inside : word <:+: front ++ mark :: rest) :
    word <:+: front ∨ word <:+: rest := by
  rcases List.infix_append_iff.mp inside with before | behind | ⟨left, right, split, ends, starts⟩
  · exact .inl before
  · rcases List.infix_cons_iff.mp behind with starts | later
    · cases word with
      | nil => exact .inr List.nil_infix
      | cons c word =>
          obtain ⟨rfl, -⟩ := List.cons_prefix_cons.mp starts
          exact absurd List.mem_cons_self apart
    · exact .inr later
  · cases right with
    | nil =>
        rw [List.append_nil] at split
        exact .inl (split ▸ ends.isInfix)
    | cons c right =>
        obtain ⟨rfl, -⟩ := List.cons_prefix_cons.mp starts
        exact absurd (by simp [split]) apart

/-- The word is not in the text, in whatever case. -/
def Lacks (word text : List Char) : Prop := ¬ HasInAnyCase word text

/-- The text is empty or begins with a mark that is no part of the word. -/
def Apart (word text : List Char) : Prop := ∀ c ∈ text.head?, c.toLower ∉ word

theorem apart_append (first : Apart word front) (second : Apart word rest) :
    Apart word (front ++ rest) := by
  intro c head
  rw [List.head?_append] at head
  cases front with
  | nil => exact second c head
  | cons d front => exact first c head

theorem Lacks.append (apart : Apart word rest) (first : Lacks word front)
    (second : Lacks word rest) : Lacks word (front ++ rest) := by
  cases rest with
  | nil => rwa [List.append_nil]
  | cons c rest =>
      intro inside
      rw [HasInAnyCase, folded, List.map_append, List.map_cons] at inside
      rcases infix_beside_mark (apart c rfl) inside with before | behind
      · exact first before
      · exact second (List.infix_cons behind)

/-- A mark in front of a text adds no word. -/
theorem Lacks.cons (apart : mark.toLower ∉ word) (full : word ≠ []) (lacks : Lacks word text) :
    Lacks word (mark :: text) := by
  intro inside
  have inside : word <:+: [] ++ mark.toLower :: folded text := inside
  rcases infix_beside_mark apart inside with before | behind
  · exact full (List.infix_nil.mp before)
  · exact lacks behind

theorem Lacks.of_part (lacks : Lacks word text) {part : List Char} (inside : part <:+: text) :
    Lacks word part :=
  fun found => lacks (found.trans (inside.map Char.toLower))

/-- Marks between texts add no word. -/
theorem Lacks.intercalate {marks : List Char} (full : word ≠ []) (some_mark : marks ≠ [])
    (apart : ∀ mark ∈ marks, mark.toLower ∉ word) (each : ∀ part ∈ parts, Lacks word part) :
    Lacks word (List.intercalate marks parts) := by
  have after {text : List Char} (lacks : Lacks word text) : Lacks word (marks ++ text) := by
    clear some_mark
    induction marks with
    | nil => exact lacks
    | cons mark marks ih =>
        obtain ⟨here, later⟩ := List.forall_mem_cons.mp apart
        exact (ih later).cons here full
  induction parts with
  | nil => exact fun inside => full (List.infix_nil.mp inside)
  | cons part parts ih =>
      obtain ⟨here, later⟩ := List.forall_mem_cons.mp each
      cases parts with
      | nil => simpa using here
      | cons next parts =>
          have begins : Apart word (marks ++ List.intercalate marks (next :: parts)) := by
            intro c head
            obtain ⟨mark, marks, rfl⟩ := List.exists_cons_of_ne_nil some_mark
            cases head
            exact apart _ List.mem_cons_self
          rw [List.intercalate_cons_cons, List.append_assoc]
          exact here.append begins (after (ih later))

/-- The character is neither an ASCII letter nor an underscore. -/
def breaksWords (c : Char) : Bool :=
  !(c.toLower.isLower || c.toLower == '_')

/-- A word of small letters and underscores with the letter o in it, which spans and what else is
fixed in queries have not, but for operators. -/
structure IsTelling (word : List Char) : Prop where
  letters : ∀ c ∈ word, c.isLower = true ∨ c = '_'
  round : 'o' ∈ word
  strange : ∀ operator ∈ aggregationOperators, Lacks word operator.toList

namespace IsTelling

theorem ne_nil (telling : IsTelling word) : word ≠ [] :=
  List.ne_nil_of_mem telling.round

theorem apart (telling : IsTelling word) (breaks : breaksWords mark = true) :
    mark.toLower ∉ word := by
  intro mem
  simp only [breaksWords, Bool.not_eq_true', Bool.or_eq_false_iff, beq_eq_false_iff_ne] at breaks
  rcases telling.letters _ mem with small | underscore
  · rw [breaks.1] at small
    cases small
  · exact breaks.2 underscore

theorem lacks_of_flat (telling : IsTelling word) (flat : ∀ c ∈ text, c.toLower ≠ 'o') :
    Lacks word text := by
  intro inside
  obtain ⟨c, mem, same⟩ := List.mem_map.mp (inside.subset telling.round)
  exact flat c mem same

theorem cons_mark (telling : IsTelling word) (breaks : breaksWords mark = true)
    (lacks : Lacks word text) : Lacks word (mark :: text) :=
  lacks.cons (telling.apart breaks) telling.ne_nil

theorem apart_cons (telling : IsTelling word) (breaks : breaksWords mark = true) :
    Apart word (mark :: text) := by
  rintro c ⟨⟩
  exact telling.apart breaks

theorem lacks_nil (telling : IsTelling word) : Lacks word [] :=
  telling.lacks_of_flat nofun

/-- Escapes add no word to a text without line breaks. -/
theorem lacks_escaped (telling : IsTelling word) (unbroken : '\n' ∉ text)
    (lacks : Lacks word (front ++ text)) :
    Lacks word (front ++ text.flatMap escapedLabelChar) := by
  induction text generalizing front with
  | nil => exact lacks
  | cons c text ih =>
      rw [List.mem_cons, not_or] at unbroken
      obtain ⟨other, unbroken⟩ := unbroken
      have before : Lacks word front := lacks.of_part (List.prefix_append _ _).isInfix
      have behind : Lacks word ([] ++ text) :=
        lacks.of_part ((List.suffix_cons c text).trans (List.suffix_append _ _)).isInfix
      rw [List.flatMap_cons, escapedLabelChar]
      split_ifs with slash quote line
      · have escaped : Lacks word ('\\' :: '\\' :: text.flatMap escapedLabelChar) :=
          telling.cons_mark rfl (telling.cons_mark rfl (ih unbroken behind))
        exact before.append (telling.apart_cons rfl) escaped
      · have escaped : Lacks word ('\\' :: '"' :: text.flatMap escapedLabelChar) :=
          telling.cons_mark rfl (telling.cons_mark rfl (ih unbroken behind))
        exact before.append (telling.apart_cons rfl) escaped
      · exact absurd line.symm other
      · rw [← List.append_assoc]
        refine ih unbroken ?_
        rwa [List.append_assoc]

theorem lacks_matcherChars (telling : IsTelling word) {label : String × String}
    (key : Lacks word label.1.toList) (value : Lacks word label.2.toList)
    (unbroken : '\n' ∉ label.2.toList) : Lacks word (matcherChars label) := by
  have escaped : Lacks word ([] ++ label.2.toList.flatMap escapedLabelChar) :=
    telling.lacks_escaped unbroken value
  have inner : Lacks word (label.2.toList.flatMap escapedLabelChar ++ ['"']) :=
    escaped.append (telling.apart_cons rfl) (telling.cons_mark rfl telling.lacks_nil)
  have quoted : Lacks word ('=' :: quotedValue label.2.toList) :=
    telling.cons_mark rfl (telling.cons_mark rfl inner)
  exact key.append (telling.apart_cons rfl) quoted

theorem lacks_closing (telling : IsTelling word) (context : Context) :
    Apart word (closing context) ∧ Lacks word (closing context) := by
  have single : Lacks word [')'] := telling.cons_mark rfl telling.lacks_nil
  unfold closing
  dsimp only
  split_ifs
  · exact ⟨nofun, telling.lacks_nil⟩
  · exact ⟨telling.apart_cons rfl, single⟩
  · exact ⟨telling.apart_cons rfl, telling.cons_mark rfl single⟩

theorem lacks_windowChars (telling : IsTelling word) (span : TimeSpan) :
    Apart word (windowChars span) ∧ Lacks word (windowChars span) := by
  unfold windowChars
  split
  · exact ⟨nofun, telling.lacks_nil⟩
  · have flat : ∀ c ∈ span.queryChars, c.toLower ≠ 'o' := by
      intro c mem
      rcases TimeSpan.mem_queryChars mem with digit | letter
      · have place := toNat_of_isDigit digit
        have noCapital : c.isUpper = false := eq_false_of_ne_true fun upper => by
          have range := isUpper_iff.mp upper
          omega
        rw [toLower_of_small noCapital]
        rintro rfl
        exact absurd digit (by decide)
      · exact List.forall_iff_forall_mem.mp
          (by decide : ['d', 'h', 'm', 's'].Forall (·.toLower ≠ 'o')) c letter
    have bracket : Lacks word [']'] := telling.cons_mark rfl telling.lacks_nil
    have inner := (telling.lacks_of_flat flat).append (telling.apart_cons rfl) bracket
    exact ⟨telling.apart_cons rfl, telling.cons_mark rfl inner⟩

theorem lacks_matchersChars (telling : IsTelling word) {labels : Labels}
    (keys : ∀ label ∈ labels.entries, Lacks word label.1.toList)
    (values : ∀ label ∈ labels.entries, Lacks word label.2.toList ∧ '\n' ∉ label.2.toList) :
    Apart word (matchersChars labels) ∧ Lacks word (matchersChars labels) := by
  unfold matchersChars
  split
  · exact ⟨nofun, telling.lacks_nil⟩
  · have listed : Lacks word (List.intercalate [','] (labels.entries.map matcherChars)) := by
      refine Lacks.intercalate telling.ne_nil (List.cons_ne_nil _ _)
        (List.forall_mem_singleton.mpr (telling.apart rfl)) fun part mem => ?_
      obtain ⟨label, there, rfl⟩ := List.mem_map.mp mem
      exact telling.lacks_matcherChars (keys label there) (values label there).1
        (values label there).2
    exact ⟨telling.apart_cons rfl, telling.cons_mark rfl (listed.append (telling.apart_cons rfl)
      (telling.cons_mark rfl telling.lacks_nil))⟩

/-- Labels and range add no word to what stands in front of them. -/
theorem lacks_behind (telling : IsTelling word)
    (keys : ∀ label ∈ context.labels.entries, Lacks word label.1.toList)
    (values : ∀ label ∈ context.labels.entries,
      Lacks word label.2.toList ∧ '\n' ∉ label.2.toList)
    (first : Lacks word text) :
    Lacks word (text ++ (matchersChars context.labels ++
      (windowChars context.timeRange.span ++ closing context))) := by
  have matched := telling.lacks_matchersChars keys values
  have ranged := telling.lacks_windowChars context.timeRange.span
  have closed := telling.lacks_closing context
  have behind := ranged.2.append closed.1 closed.2
  exact first.append (apart_append matched.1 (apart_append ranged.1 closed.1))
    (matched.2.append (apart_append ranged.1 closed.1) behind)

end IsTelling

/-- The operator that takes the grouping. -/
def groupingOperator (context : Context) : String :=
  if isAggregation (trimString context.aggregation) then trimString context.aggregation else "sum"

/-- The call of a function that takes no grouping, up to its parenthesis. -/
def innerCall (context : Context) : List Char :=
  if isAggregation (trimString context.aggregation) then []
  else trim context.aggregation.toList ++ ['(']

/-- An operator with a grouping by labels, up to the parenthesis of what it is applied to. -/
def groupedCall (operator : List Char) (labels : List (List Char)) (inner : List Char) :
    List Char :=
  operator ++ ' ' :: 'b' :: 'y' :: ' ' :: '(' ::
    (List.intercalate [',', ' '] labels ++ ')' :: ' ' :: '(' :: inner)

/-- A grouping stands between its operator and the metric. -/
theorem opening_of_grouped (called : trim context.aggregation.toList ≠ [])
    (grouped : context.groupBy ≠ []) :
    opening context = groupedCall (groupingOperator context).toList
      (context.groupBy.map String.toList) (innerCall context) := by
  have clause : groupingChars context.groupBy = ' ' :: 'b' :: 'y' :: ' ' :: '(' ::
      (List.intercalate [',', ' '] (context.groupBy.map String.toList) ++ [')', ' ']) := rfl
  unfold opening groupingOperator innerCall trimString groupedCall
  dsimp only
  rw [List.isEmpty_eq_false_iff.mpr called, List.isEmpty_eq_false_iff.mpr grouped,
    if_neg Bool.false_ne_true, if_neg Bool.false_ne_true, clause]
  split <;> simp

theorem exists_opening_concat (called : trim context.aggregation.toList ≠ [])
    (grouped : context.groupBy ≠ []) : ∃ outer, opening context = outer ++ ['('] := by
  let clause := (groupingOperator context).toList ++ ' ' :: 'b' :: 'y' :: ' ' :: '(' ::
    List.intercalate [',', ' '] (context.groupBy.map String.toList)
  rw [opening_of_grouped called grouped, groupedCall, innerCall]
  split
  · exact ⟨clause ++ [')', ' '], by simp [clause]⟩
  · exact ⟨clause ++ ')' :: ' ' :: '(' :: trim context.aggregation.toList, by simp [clause]⟩

theorem groupedCall_append (operator : List Char) (labels : List (List Char))
    (inner rest : List Char) :
    groupedCall operator labels inner ++ rest = groupedCall operator labels (inner ++ rest) := by
  simp [groupedCall]

theorem folded_intercalate (marks : List Char) (parts : List (List Char)) :
    folded (List.intercalate marks parts) =
      List.intercalate (folded marks) (parts.map folded) := by
  induction parts with
  | nil => rfl
  | cons part parts ih =>
      cases parts with
      | nil => simp
      | cons next parts =>
          rw [List.intercalate_cons_cons, folded, List.map_append, List.map_append]
          change folded part ++ folded marks ++ folded (List.intercalate marks (next :: parts)) = _
          rw [ih, List.map_cons, List.map_cons, List.map_cons, List.intercalate_cons_cons]

theorem folded_groupedCall (operator : List Char) (labels : List (List Char))
    (inner : List Char) :
    folded (groupedCall operator labels inner) =
      groupedCall (folded operator) (labels.map folded) (folded inner) := by
  have list := folded_intercalate [',', ' '] labels
  unfold folded at list
  simp only [groupedCall, folded, List.map_append, List.map_cons, list]
  rfl

theorem groupingOperator_mem (context : Context) :
    groupingOperator context ∈ aggregationOperators := by
  unfold groupingOperator
  split
  · next operator => exact List.contains_iff_mem.mp operator
  · decide

namespace IsTelling

theorem lacks_opening (telling : IsTelling word) (called : trim context.aggregation.toList ≠ [])
    (grouped : context.groupBy ≠ []) (aggregation : Lacks word (trim context.aggregation.toList))
    (labels : ∀ label ∈ context.groupBy, Lacks word label.toList) :
    Lacks word (opening context) := by
  have inner : Lacks word (innerCall context) := by
    unfold innerCall
    split
    · exact telling.lacks_nil
    · exact aggregation.append (telling.apart_cons rfl) (telling.cons_mark rfl telling.lacks_nil)
  have listed : Lacks word (List.intercalate [',', ' '] (context.groupBy.map String.toList)) := by
    refine Lacks.intercalate telling.ne_nil (List.cons_ne_nil _ _) ?_ fun part mem => ?_
    · exact List.forall_mem_cons.mpr ⟨telling.apart rfl,
        List.forall_mem_singleton.mpr (telling.apart rfl)⟩
    · obtain ⟨label, there, rfl⟩ := List.mem_map.mp mem
      exact labels label there
  have keyword : Lacks word ['b', 'y'] := telling.lacks_of_flat
    (List.forall_iff_forall_mem.mp (by decide))
  have applied : Lacks word (')' :: ' ' :: '(' :: innerCall context) :=
    telling.cons_mark rfl (telling.cons_mark rfl (telling.cons_mark rfl inner))
  have list : Lacks word ('(' :: (List.intercalate [',', ' '] (context.groupBy.map String.toList) ++
      ')' :: ' ' :: '(' :: innerCall context)) :=
    telling.cons_mark rfl (listed.append (telling.apart_cons rfl) applied)
  rw [opening_of_grouped called grouped]
  refine (telling.strange _ (groupingOperator_mem context)).append (telling.apart_cons rfl) ?_
  exact telling.cons_mark rfl (keyword.append (telling.apart_cons rfl) (telling.cons_mark rfl list))

end IsTelling

end PromScribe.Query

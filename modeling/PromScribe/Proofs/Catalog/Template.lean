import PromScribe.Catalog.Template
import PromScribe.Proofs.Text.Substitution
import PromScribe.Proofs.Time.QueryForm

/-!
# Windows in templates

A rendered template has the window in each of its places, and no place is left. The window brings
none along, and the brackets around it make up none with the text beside them: what follows the
opening one is a digit, and before the closing one there is no other.
-/

namespace PromScribe

open Text

/-- A window in brackets. -/
def bracketed (window : String) : String :=
  "[" ++ window ++ "]"

theorem toList_bracketed (window : String) :
    (bracketed window).toList = '[' :: (window.toList ++ [']']) := by
  simp [bracketed]

/-- The window begins with a digit and has no opening bracket. -/
structure IsWindow (window : List Char) : Prop where
  begins : window.head?.any Char.isDigit = true
  inside : '[' ∉ window

theorem isWindow_queryChars (span : TimeSpan) : IsWindow span.queryChars where
  begins := TimeSpan.head?_queryChars
  inside mem := by
    rcases TimeSpan.mem_queryChars mem with digit | letter
    · exact absurd digit (by decide)
    · exact absurd letter (by decide)

namespace Template

variable {window part rest : List Char} {parts : List (List Char)}

theorem marked_placeholder : Marked placeholder.toList :=
  .cons (by decide)

/-- No place begins with the bracket in front of a window. -/
theorem not_begins_placeholder (proper : IsWindow window) :
    ¬ placeholder.toList <+: '[' :: (window ++ rest) := by
  intro starts
  cases window with
  | nil => exact absurd proper.begins (by decide)
  | cons c window =>
      obtain ⟨-, later⟩ := List.cons_prefix_cons.mp starts
      have letter : 't' = c := (List.cons_prefix_cons.mp later).1
      have digit : c.isDigit = true := proper.begins
      rw [← letter] at digit
      exact absurd digit (by decide)

/-- No place begins within a window. -/
theorem placeholder_infix_of_behind (proper : IsWindow window)
    (found : placeholder.toList <:+: window ++ [']'] ++ rest) : placeholder.toList <:+: rest := by
  have outside : '[' ∉ window ++ [']'] := by
    simpa using proper.inside
  rcases List.infix_append_iff.mp found with within | behind | ⟨left, right, split, ends, starts⟩
  · exact absurd (within.subset (by decide)) outside
  · exact behind
  · cases left with
    | nil => exact split ▸ starts.isInfix
    | cons c left =>
        obtain ⟨rfl, -⟩ := List.cons.inj split
        exact absurd (ends.subset List.mem_cons_self) outside

/-- With a bracketed window between two texts, a place is in one of the texts. -/
theorem placeholder_infix_beside (proper : IsWindow window)
    (found : placeholder.toList <:+: part ++ ('[' :: (window ++ [']']) ++ rest)) :
    placeholder.toList <:+: part ∨ placeholder.toList <:+: rest := by
  rcases List.infix_append_iff.mp found with here | behind | ⟨left, right, split, ends, starts⟩
  · exact .inl here
  · rw [List.cons_append] at behind
    rcases List.infix_cons_iff.mp behind with begins | later
    · rw [List.append_assoc] at begins
      exact absurd begins (not_begins_placeholder proper)
    · exact .inr (placeholder_infix_of_behind proper later)
  · -- A place across the opening bracket would have this as its first character.
    cases right with
    | nil =>
        rw [List.append_nil] at split
        exact .inl (split ▸ ends.isInfix)
    | cons c right =>
        obtain ⟨rfl, -⟩ := List.cons_prefix_cons.mp starts
        cases left with
        | nil =>
            rw [List.nil_append] at split
            rw [← split, List.cons_append, List.append_assoc] at starts
            exact absurd starts (not_begins_placeholder proper)
        | cons d left =>
            have again : "time]".toList = left ++ '[' :: right := (List.cons.inj split).2
            have inside : '[' ∈ "time]".toList := by simp [again]
            exact absurd inside (by decide)

/-- Between parts without places, bracketed windows leave none. -/
theorem not_placeholder_infix_intercalate (proper : IsWindow window)
    (free : ∀ part ∈ parts, ¬ placeholder.toList <:+: part) :
    ¬ placeholder.toList <:+: List.intercalate ('[' :: (window ++ [']'])) parts := by
  induction parts with
  | nil => exact fun found => absurd (List.infix_nil.mp found) (by decide)
  | cons part parts ih =>
      obtain ⟨here, later⟩ := List.forall_mem_cons.mp free
      cases parts with
      | nil =>
          rw [List.intercalate_singleton]
          exact here
      | cons next parts =>
          rw [List.intercalate_cons_cons, List.append_assoc]
          intro found
          exact (placeholder_infix_beside proper found).elim here (ih later)

theorem toList_render (template : Template) (window : String) :
    (template.render window).toList =
      substitute placeholder.toList (bracketed window).toList template.pattern.toList :=
  String.toList_ofList

/-- The window stands in each place of a template between the texts that are rendered on both sides
of it. -/
theorem render_occurrence (template : Template) (window : String) {front back : String}
    (found : template.pattern = front ++ placeholder ++ back) :
    template.render window =
      Template.render { template with pattern := front } window ++ bracketed window ++
        Template.render { template with pattern := back } window := by
  apply String.toList_inj.mp
  rw [String.toList_append, String.toList_append, toList_render, toList_render, toList_render,
    found, String.toList_append, String.toList_append, List.append_assoc,
    marked_placeholder.substitute_occurrence, List.append_assoc]

/-- A template is put together of parts, with a place between every two of them. Rendered, it has
the window in brackets there, each part as it is, and no place. -/
theorem render_exact (template : Template) (span : TimeSpan) :
    (∃ parts : List String, parts ≠ [] ∧ (∀ part ∈ parts, hasPart part placeholder = false) ∧
        template.pattern = joined placeholder parts ∧
        template.render span.queryText = joined (bracketed span.queryText) parts) ∧
      (∀ front back, template.pattern = front ++ placeholder ++ back →
        template.render span.queryText =
          Template.render { template with pattern := front } span.queryText ++
            bracketed span.queryText ++
            Template.render { template with pattern := back } span.queryText) ∧
      hasPart (template.render span.queryText) placeholder = false := by
  obtain ⟨parts, nonempty, free, whole⟩ :=
    marked_placeholder.exists_parts template.pattern.toList
  have shown : (template.render span.queryText).toList =
      List.intercalate (bracketed span.queryText).toList parts := by
    rw [toList_render, whole, marked_placeholder.substitute_intercalate free]
  have window : IsWindow span.queryText.toList := by
    rw [TimeSpan.queryText, String.toList_ofList]
    exact isWindow_queryChars span
  have strings (separator : String) :
      (joined separator (parts.map String.ofList)).toList =
        List.intercalate separator.toList parts := by
    rw [joined, String.toList_intercalate, List.map_map]
    simp [Function.comp_def]
  refine ⟨⟨parts.map String.ofList, by simpa using nonempty, ?_, ?_, ?_⟩, ?_, ?_⟩
  · intro part mem
    obtain ⟨chars, member, rfl⟩ := List.mem_map.mp mem
    rw [Bool.eq_false_iff, Ne, hasPart_iff, String.toList_ofList]
    exact free chars member
  · exact String.toList_inj.mp (whole.trans (strings placeholder).symm)
  · exact String.toList_inj.mp (shown.trans (strings _).symm)
  · exact fun front back found => template.render_occurrence _ found
  · rw [Bool.eq_false_iff, Ne, hasPart_iff, shown, toList_bracketed]
    exact not_placeholder_infix_intercalate window free

/-- Places that are beside each other, or within brackets of the text. -/
example : (Template.mk "[time][time] [[time]time]" [] [] []).render "5m" =
    "[5m][5m] [[5m]time]" := by
  decide

end Template

end PromScribe

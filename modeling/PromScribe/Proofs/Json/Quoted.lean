import PromScribe.Json.Printer

/-!
# Quoted texts

No character inside of quotes begins another one, so a quoted text says which text it is.
-/

namespace PromScribe.Json

variable {c d : Char} {text other rest more : List Char}

/-- The characters that do not stand for themselves inside of quotes. -/
def escapedChars : List Char :=
  '"' :: '\\' :: (List.range 32).map Char.ofNat

/-- A character stands for itself, or is one of those that begin with a backslash. -/
theorem escaped_cases (c : Char) : (c ≠ '\\' ∧ escaped c = [c]) ∨ c ∈ escapedChars := by
  have control (low : c.toNat < 32) : c ∈ escapedChars := by
    have place : Char.ofNat c.toNat ∈ (List.range 32).map Char.ofNat :=
      List.mem_map_of_mem (List.mem_range.mpr low)
    rw [Char.ofNat_toNat] at place
    exact List.mem_cons_of_mem _ (List.mem_cons_of_mem _ place)
  by_cases low : c.toNat < 32
  · exact .inr (control low)
  by_cases quote : c = '"'
  · exact .inr (quote ▸ List.mem_cons_self)
  by_cases slash : c = '\\'
  · exact .inr (slash ▸ List.mem_cons_of_mem _ List.mem_cons_self)
  refine .inl ⟨slash, ?_⟩
  have named {control : Char} (small : control.toNat < 32) : c ≠ control := by
    rintro rfl
    exact low small
  unfold escaped
  rw [if_neg quote, if_neg slash, if_neg (named (by decide)), if_neg (named (by decide)),
    if_neg (named (by decide)), if_neg (named (by decide)), if_neg (named (by decide)), if_neg low]

/-- No character begins another one. -/
theorem eq_of_escaped_begins (begins : escaped c <+: escaped d) : c = d := by
  have slashed : ∀ c ∈ escapedChars, ∃ rest, escaped c = '\\' :: rest := by
    have heads : (escapedChars.all fun c => (escaped c).head? = some '\\') = true := by
      decide +kernel
    intro c mem
    have head := of_decide_eq_true (List.all_eq_true.mp heads c mem)
    cases shape : escaped c with
    | nil =>
        rw [shape] at head
        cases head
    | cons first rest =>
        rw [shape] at head
        exact ⟨rest, congrArg (· :: rest) (Option.some.inj head)⟩
  rcases escaped_cases c with ⟨plain, itself⟩ | special
  · rw [itself] at begins
    rcases escaped_cases d with ⟨-, other⟩ | special
    · rw [other] at begins
      exact (List.cons_prefix_cons.mp begins).1
    · obtain ⟨rest, shape⟩ := slashed d special
      rw [shape] at begins
      exact absurd (List.cons_prefix_cons.mp begins).1 plain
  · rcases escaped_cases d with ⟨plain, other⟩ | also
    · obtain ⟨rest, shape⟩ := slashed c special
      rw [shape, other] at begins
      exact absurd (List.cons_prefix_cons.mp begins).1.symm plain
    · have apart : (escapedChars.all fun c => escapedChars.all fun d =>
          (escaped c).isPrefixOf (escaped d) → c = d) = true := by decide +kernel
      have either := List.all_eq_true.mp (List.all_eq_true.mp apart c special) d also
      exact of_decide_eq_true either (List.isPrefixOf_iff_prefix.mpr begins)

theorem escaped_ne_nil (c : Char) : escaped c ≠ [] := by
  intro none
  have same : ∀ d, c = d := fun d => eq_of_escaped_begins (none ▸ List.nil_prefix)
  exact absurd ((same 'a').symm.trans (same 'b')) (by decide)

theorem escaped_append_inj (same : escaped c ++ rest = escaped d ++ more) :
    c = d ∧ rest = more := by
  have begins : escaped c <+: escaped d ++ more := ⟨rest, same⟩
  have chars : c = d := by
    rcases List.prefix_or_prefix_of_prefix begins (List.prefix_append _ _) with first | second
    · exact eq_of_escaped_begins first
    · exact (eq_of_escaped_begins second).symm
  subst chars
  exact ⟨rfl, List.append_cancel_left same⟩

/-- Texts that are written the same inside of quotes are the same. -/
theorem flatMap_escaped_inj (same : text.flatMap escaped = other.flatMap escaped) :
    text = other := by
  induction text generalizing other with
  | nil =>
      cases other with
      | nil => rfl
      | cons d other =>
          have none := (List.append_eq_nil_iff.mp same.symm).1
          exact absurd none (escaped_ne_nil d)
  | cons c text ih =>
      cases other with
      | nil =>
          have none := (List.append_eq_nil_iff.mp same).1
          exact absurd none (escaped_ne_nil c)
      | cons d other =>
          obtain ⟨chars, rest⟩ := escaped_append_inj same
          rw [chars, ih rest]

theorem quoted_inj (same : quoted text = quoted other) : text = other :=
  flatMap_escaped_inj (List.append_cancel_right (List.cons.inj same).2)

end PromScribe.Json

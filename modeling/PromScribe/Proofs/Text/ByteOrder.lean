import Mathlib.Data.String.Basic
import PromScribe.Text.Bytes

/-!
# The order of bytes

Strings are in the order of their bytes. The bytes of a character that comes first are lower at the
first place where they differ, and that place comes before either of them ends.
-/

namespace PromScribe.Text

/-- A lower character has lower bytes, whatever follows. -/
theorem utf8Bytes_append_lt {c d : Char} (less : c < d) (rest more : List Nat) :
    utf8Bytes c ++ rest < utf8Bytes d ++ more := by
  have below : c.toNat < d.toNat := less
  unfold utf8Bytes
  generalize c.toNat = low at below
  generalize d.toNat = high at below
  dsimp only
  -- A longer form begins with a higher byte; forms of one length differ in their digits to base 64.
  split_ifs <;> simp only [List.cons_append, List.cons_lt_cons_iff] <;> omega

theorem utf8Bytes_ne_nil (c : Char) : utf8Bytes c ≠ [] := by
  unfold utf8Bytes
  dsimp only
  split_ifs <;> exact List.cons_ne_nil _ _

theorem bytes_lt_of_lt {text other : List Char} (less : text < other) :
    bytes text < bytes other := by
  induction text generalizing other with
  | nil =>
      cases other with
      | nil => exact absurd less (List.not_lt_nil _)
      | cons d others =>
          obtain ⟨first, rest, form⟩ := List.exists_cons_of_ne_nil (utf8Bytes_ne_nil d)
          rw [bytes, bytes, List.flatMap_cons, form]
          exact List.nil_lt_cons _ _
  | cons c text ih =>
      cases other with
      | nil => exact absurd less (List.not_lt_nil _)
      | cons d others =>
          rw [bytes, bytes, List.flatMap_cons, List.flatMap_cons]
          rcases List.cons_lt_cons_iff.mp less with lower | ⟨rfl, later⟩
          · exact utf8Bytes_append_lt lower _ _
          · exact List.append_left_lt (ih later)

/-- Strings are in the order of their bytes. -/
theorem lt_iff_bytes_lt {text other : String} :
    text < other ↔ bytes text.toList < bytes other.toList := by
  rw [String.lt_iff_toList_lt]
  constructor
  · exact bytes_lt_of_lt
  · intro less
    rcases lt_trichotomy text.toList other.toList with lower | same | higher
    · exact lower
    · rw [same] at less
      exact absurd less (List.lt_irrefl _)
    · exact absurd less (List.lt_asymm (bytes_lt_of_lt higher))

end PromScribe.Text

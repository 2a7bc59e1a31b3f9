import Mathlib.Data.List.DropRight
import PromScribe.Text.Blank

/-!
# Trimming

What trimming leaves begins with no character of the class, and it leaves nothing just of a text
that is all of that class.
-/

namespace PromScribe.Text

variable {drop : Char → Bool} {text : List Char}

/-- Dropping at the end leaves a beginning of the text. -/
theorem trimEndBy_isPrefix (drop : Char → Bool) (text : List Char) :
    trimEndBy drop text <+: text :=
  List.rdropWhile_prefix drop text

/-- What is left behind the dropped start begins with a character that is not dropped. -/
theorem head_of_trimStartBy {c : Char} {rest : List Char}
    (left : trimStartBy drop text = c :: rest) : drop c = false := by
  have kept := List.head?_dropWhile_not drop text
  rw [trimStartBy] at left
  simpa [left] using kept

theorem head_of_trimBy {c : Char} {rest : List Char} (left : trimBy drop text = c :: rest) :
    drop c = false := by
  obtain ⟨after, whole⟩ := trimEndBy_isPrefix drop (trimStartBy drop text)
  rw [show trimEndBy drop (trimStartBy drop text) = c :: rest from left] at whole
  have left' : trimStartBy drop text = c :: (rest ++ after) := whole.symm
  exact head_of_trimStartBy left'

theorem trimBy_eq_nil_iff : trimBy drop text = [] ↔ ∀ c ∈ text, drop c = true := by
  refine List.rdropWhile_eq_nil_iff.trans ⟨fun all => ?_, fun all c member => ?_⟩
  · cases left : trimStartBy drop text with
    | nil => exact List.dropWhile_eq_nil_iff.mp left
    | cons c rest =>
        have kept := head_of_trimStartBy left
        rw [all c (by simp [left])] at kept
        cases kept
  · exact all c ((List.dropWhile_suffix drop).subset member)

theorem dropWhile_eq_self (keeps : ∀ c ∈ text, drop c = false) : text.dropWhile drop = text := by
  cases text with
  | nil => rfl
  | cons c text => rw [List.dropWhile_cons, keeps c List.mem_cons_self, if_neg Bool.false_ne_true]

/-- A text without characters of the class is left as it is. -/
theorem trimBy_eq_self (keeps : ∀ c ∈ text, drop c = false) : trimBy drop text = text := by
  have reversed : ∀ c ∈ text.reverse, drop c = false := fun c mem =>
    keeps c (List.mem_reverse.mp mem)
  unfold trimBy trimEndBy trimStartBy
  rw [dropWhile_eq_self keeps, dropWhile_eq_self reversed, List.reverse_reverse]

theorem toList_trimString (text : String) : (trimString text).toList = trim text.toList :=
  String.toList_ofList

theorem trim_eq_self (unbroken : ∀ c ∈ text, isBlank c = false) : trim text = text :=
  trimBy_eq_self unbroken

theorem trim_subset {c : Char} (mem : c ∈ trim text) : c ∈ text :=
  (List.dropWhile_suffix isBlank).subset ((trimEndBy_isPrefix isBlank _).subset mem)

theorem trim_isInfix (text : List Char) : trim text <:+: text :=
  (trimEndBy_isPrefix isBlank _).isInfix.trans (List.dropWhile_suffix isBlank).isInfix

theorem trim_eq_nil_iff : trim text = [] ↔ ∀ c ∈ text, isBlank c = true :=
  trimBy_eq_nil_iff

theorem isBlank_of_trim {c : Char} {rest : List Char} (left : trim text = c :: rest) :
    isBlank c = false :=
  head_of_trimBy left

end PromScribe.Text

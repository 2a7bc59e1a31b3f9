import Mathlib.Data.List.Forall2
import PromScribe.Json.Printer
import PromScribe.Proofs.Json.Grammar

/-!
# The compact form

The compact form of a value is of the grammar. Quoted texts stand for themselves, so that all of a
value but its numbers is read as it was.
-/

namespace PromScribe

namespace Json

open Text Token

variable {c : Char} {body : List Char}

/-- How a character stands inside of quotes: as it is, as a letter behind a backslash, or by the
hexadecimal digits of its place. -/
inductive EscapedForm (c : Char) : List Char → Prop where
  | plain (quote : c ≠ '"') (slash : c ≠ '\\') (printed : 0x20 ≤ c.toNat) : EscapedForm c [c]
  | letter {letter : Char} (known : letter ∈ ['"', '\\', '/', 'b', 'f', 'n', 'r', 't'])
      (means : escape? letter = some c) : EscapedForm c ['\\', letter]
  | code {first second : Char} (control : c.toNat < 0x20)
      (high : hexDigit? first = some (c.toNat / 16))
      (low : hexDigit? second = some (c.toNat % 16)) :
      EscapedForm c ['\\', 'u', '0', '0', first, second]

theorem hexDigit?_smallHexDigit {value : Nat} (small : value < 16) :
    hexDigit? (smallHexDigit value) = some value := by
  have each : ∀ value < 16, hexDigit? (smallHexDigit value) = some value := by decide
  exact each value small

theorem escapedForm_escaped (c : Char) : EscapedForm c (escaped c) := by
  unfold escaped
  split
  · next same =>
      subst same
      exact .letter (by decide) rfl
  next quote =>
  split
  · next same =>
      subst same
      exact .letter (by decide) rfl
  next slash =>
  split
  · next same => exact .letter (by decide) (same ▸ rfl)
  split
  · next same => exact .letter (by decide) (same ▸ rfl)
  split
  · next same => exact .letter (by decide) (same ▸ rfl)
  split
  · next same => exact .letter (by decide) (same ▸ rfl)
  split
  · next same => exact .letter (by decide) (same ▸ rfl)
  split
  · next control =>
      exact .code control (hexDigit?_smallHexDigit (by omega)) (hexDigit?_smallHexDigit (by omega))
  · next printed => exact .plain quote slash (Nat.le_of_not_lt printed)

/-- What is written between quotes for a text may stand there. -/
theorem isQuotable_flatMap_escaped (text : List Char) : IsQuotable (text.flatMap escaped) := by
  induction text with
  | nil => exact .done
  | cons c text ih =>
      have shape := escapedForm_escaped c
      rw [List.flatMap_cons]
      generalize escaped c = shown at shape
      cases shape with
      | plain quote slash printed => exact .plain quote slash printed ih
      | letter known means => exact .escape known ih
      | code control high low =>
          refine .code ?_ ih
          have zero : (hexDigit? '0').isSome = true := by decide
          simp [zero, high, low]

/-- What is written between quotes for a text stands for the text. -/
theorem unescaped?_flatMap_escaped (text : List Char) :
    unescaped? (text.flatMap escaped) = some text := by
  induction text with
  | nil => rfl
  | cons c text ih =>
      have shape := escapedForm_escaped c
      rw [List.flatMap_cons]
      generalize escaped c = shown at shape
      cases shape with
      | plain quote slash printed =>
          rw [List.singleton_append, unescaped?, ih]
          · rfl
          · exact fun _ _ _ _ _ same => absurd same slash
          · exact fun _ _ same => absurd same slash
      | @letter letter known means =>
          have apart : letter ≠ 'u' := by
            rintro rfl
            cases means
          rw [List.cons_append, List.singleton_append, unescaped?, ih, means]
          · rfl
          · exact fun _ _ _ _ _ same => absurd same apart
      | @code first second control high low =>
          have place : hexWord? '0' '0' first second = some c.toNat := by
            have zero : hexDigit? '0' = some 0 := rfl
            have whole : c.toNat / 16 * 16 + c.toNat % 16 = c.toNat := by omega
            rw [hexWord?, zero, high, low]
            simp only [Option.bind_eq_bind, Option.bind_some, Option.pure_def, Nat.zero_mul,
              Nat.zero_add, whole]
          have noHigh : isHighHalf c.toNat = false := by
            simp only [isHighHalf, Bool.and_eq_false_iff, decide_eq_false_iff_not]
            omega
          have noLow : isLowHalf c.toNat = false := by
            simp only [isLowHalf, Bool.and_eq_false_iff, decide_eq_false_iff_not]
            omega
          simp only [List.cons_append, List.nil_append]
          rw [unescaped?, place]
          simp only [Option.bind_eq_bind, Option.bind_some, noHigh, noLow, ih, Option.pure_def,
            Char.ofNat_toNat]
          rfl

theorem quotedValue?_flatMap_escaped (text : String) :
    quotedValue? (text.toList.flatMap escaped) = some text := by
  rw [quotedValue?, unescaped?_flatMap_escaped, Option.map_some, String.ofList_toList]

end Json

/-- A number is written in a way that is read as the other number. -/
def JsonNumber.ReadsAs (number other : JsonNumber) : Prop :=
  ∃ literal : NumberLiteral, literal.Writes (Json.numberChars number) ∧ literal.value? = some other

namespace Json

open Document

variable {items others : List Json} {members pairs : List (String × Json)} {value other : Json}

/-- The compact form of a value is read as the other value. -/
def ReadsAs (value other : Json) : Prop :=
  Writes (.value (Document.ofJson other)) value.render

/-- A member is read as one of the same key. -/
def MemberReadsAs (member other : String × Json) : Prop :=
  other.1 = member.1 ∧ ReadsAs member.2 other.2

theorem isGap_nil : IsGap [] := List.forall_mem_nil _

/-- Blanks may be left out. -/
theorem Writes.unspaced {document : Document} {text : List Char}
    (written : Writes (.value document) text) : Writes (.spaced document) text := by
  have spaced := Writes.spaced isGap_nil written isGap_nil
  rwa [List.nil_append, List.append_nil] at spaced

theorem writesKey_quoted (key : String) : WritesKey (some key) (quoted key.toList) := by
  have named := WritesKey.spaced isGap_nil (isQuotable_flatMap_escaped key.toList) isGap_nil
  rwa [List.nil_append, List.append_nil, quotedValue?_flatMap_escaped] at named

theorem readsAs_bool (value : Bool) : ReadsAs (.bool value) (.bool value) := by
  cases value with
  | true => exact .yes
  | false => exact .no

theorem readsAs_number {number other : JsonNumber} (reads : number.ReadsAs other) :
    ReadsAs (.number number) (.number other) := by
  obtain ⟨literal, written, value⟩ := reads
  have shown := Writes.number written
  rwa [value] at shown

theorem readsAs_string (text : String) : ReadsAs (.string text) (.string text) := by
  have shown := Writes.string (isQuotable_flatMap_escaped text.toList)
  rwa [quotedValue?_flatMap_escaped] at shown

theorem writes_renderItems (each : List.Forall₂ ReadsAs items others) :
    Writes (.items (ofItems others)) (renderItems items) := by
  induction each with
  | nil => exact .noItem isGap_nil
  | cons first rest ih =>
      cases rest with
      | nil => exact .lastItem first.unspaced
      | cons next more => exact .moreItems first.unspaced ih

theorem writes_renderMembers (each : List.Forall₂ MemberReadsAs members pairs) :
    Writes (.members (ofMembers pairs)) (renderMembers members) := by
  induction each with
  | nil => exact .noMember isGap_nil
  | @cons member pair members pairs first rest ih =>
      obtain ⟨key, value⟩ := member
      obtain ⟨_, other⟩ := pair
      obtain ⟨rfl, read⟩ := first
      cases rest with
      | nil => exact .lastMember (writesKey_quoted _) read.unspaced
      | cons next more => exact .moreMembers (writesKey_quoted _) read.unspaced ih

theorem readsAs_array (each : List.Forall₂ ReadsAs items others) :
    ReadsAs (.array items) (.array others) :=
  .array (writes_renderItems each)

theorem readsAs_object (each : List.Forall₂ MemberReadsAs members pairs) :
    ReadsAs (.object members) (.object pairs) :=
  .object (writes_renderMembers each)

/-- A list is read as it was if each of its items is. -/
theorem readsAs_array_self (each : ∀ item ∈ items, ReadsAs item item) :
    ReadsAs (.array items) (.array items) :=
  readsAs_array (List.forall₂_same.mpr each)

/-- An object is read as it was if the value of each member is. -/
theorem readsAs_object_self (each : ∀ member ∈ members, ReadsAs member.2 member.2) :
    ReadsAs (.object members) (.object members) :=
  readsAs_object (List.forall₂_same.mpr fun member mem => ⟨rfl, each member mem⟩)

theorem readsAs_strings (texts : List String) : ReadsAs (strings texts) (strings texts) := by
  refine readsAs_array_self fun item mem => ?_
  obtain ⟨text, -, rfl⟩ := List.mem_map.mp mem
  exact readsAs_string text

theorem readsAs_keyed (labels : Labels) :
    ReadsAs (keyed .string labels) (keyed .string labels) := by
  refine readsAs_object_self fun member mem => ?_
  obtain ⟨label, -, rfl⟩ := List.mem_map.mp mem
  exact readsAs_string label.2

end Json

end PromScribe

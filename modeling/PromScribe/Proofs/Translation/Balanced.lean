import PromScribe.Proofs.Json.Grammar
import PromScribe.Translation.Proposal

/-!
# Balanced spans of written values

A written value closes every brace that it opens outside of quotes, so a scan that comes upon it
leaves it with as many open braces as before. The span at the first opening brace of a text is
therefore the whole object that begins there.
-/

namespace PromScribe

open Text Json Token

namespace Text

variable {c : Char} {text other rest body : List Char} {depth : Nat}

/-- A character that neither opens nor closes anything. -/
def IsNeutral (c : Char) : Prop := c ∉ ['"', '\x7b', '\x7d']

instance (c : Char) : Decidable (IsNeutral c) := inferInstanceAs (Decidable (c ∉ _))

theorem untilClosed_neutral (neutral : IsNeutral c) :
    untilClosed depth .outside (c :: rest) = (untilClosed depth .outside rest).map (c :: ·) := by
  simp only [IsNeutral, List.mem_cons, List.not_mem_nil, or_false, not_or] at neutral
  obtain ⟨quote, opening, closing⟩ := neutral
  cases depth <;> rw [untilClosed, if_neg quote, if_neg opening, if_neg closing]

theorem untilClosed_opening :
    untilClosed depth .outside ('\x7b' :: rest) =
      (untilClosed (depth + 1) .outside rest).map ('\x7b' :: ·) := by
  cases depth <;> rfl

theorem untilClosed_closing :
    untilClosed (depth + 1) .outside ('\x7d' :: rest) =
      (untilClosed depth .outside rest).map ('\x7d' :: ·) := rfl

theorem untilClosed_quote :
    untilClosed depth .outside ('"' :: rest) = (untilClosed depth .inside rest).map ('"' :: ·) := by
  cases depth <;> rfl

theorem untilClosed_endQuote :
    untilClosed depth .inside ('"' :: rest) = (untilClosed depth .outside rest).map ('"' :: ·) := by
  cases depth <;> rfl

theorem untilClosed_quoted (quote : c ≠ '"') (slash : c ≠ '\\') :
    untilClosed depth .inside (c :: rest) = (untilClosed depth .inside rest).map (c :: ·) := by
  cases depth <;> simp only [untilClosed, if_neg slash, if_neg quote]

theorem untilClosed_slash :
    untilClosed depth .inside ('\\' :: rest) =
      (untilClosed depth .escaped rest).map ('\\' :: ·) := by
  cases depth <;> rfl

theorem untilClosed_escaped :
    untilClosed depth .escaped (c :: rest) = (untilClosed depth .inside rest).map (c :: ·) := by
  cases depth <;> rfl

/-- The character behind a backslash is taken whatever it is. -/
theorem untilClosed_escape :
    untilClosed depth .inside ('\\' :: c :: rest) =
      (untilClosed depth .inside rest).map ('\\' :: c :: ·) := by
  rw [untilClosed_slash, untilClosed_escaped, Option.map_map]
  rfl

/-- A scan outside of quotes passes over the text. -/
def IsLevel (text : List Char) : Prop :=
  ∀ (depth : Nat) (rest : List Char),
    untilClosed depth .outside (text ++ rest) = (untilClosed depth .outside rest).map (text ++ ·)

/-- A scan within quotes passes over the text. -/
def IsQuotedLevel (text : List Char) : Prop :=
  ∀ (depth : Nat) (rest : List Char),
    untilClosed depth .inside (text ++ rest) = (untilClosed depth .inside rest).map (text ++ ·)

theorem isLevel_nil : IsLevel [] := by
  intro depth rest
  simp

theorem IsLevel.append (first : IsLevel text) (second : IsLevel other) :
    IsLevel (text ++ other) := by
  intro depth rest
  rw [List.append_assoc, first, second, Option.map_map]
  simp only [Function.comp_def, List.append_assoc]

theorem IsLevel.cons (neutral : IsNeutral c) (level : IsLevel text) : IsLevel (c :: text) := by
  intro depth rest
  rw [List.cons_append, untilClosed_neutral neutral, level, Option.map_map]
  rfl

theorem isLevel_of_forall (neutral : ∀ c ∈ text, IsNeutral c) : IsLevel text := by
  induction text with
  | nil => exact isLevel_nil
  | cons c text ih =>
      have behind := ih fun d mem => neutral d (List.mem_cons_of_mem c mem)
      exact behind.cons (neutral c List.mem_cons_self)

theorem isLevel_of_all (neutral : (text.all fun c => decide (IsNeutral c)) = true) :
    IsLevel text :=
  isLevel_of_forall fun c mem => of_decide_eq_true (List.all_eq_true.mp neutral c mem)

/-- Braces around what is passed over are opened and closed. -/
theorem IsLevel.braced (level : IsLevel text) : IsLevel ('\x7b' :: (text ++ ['\x7d'])) := by
  intro depth rest
  rw [List.cons_append, List.append_assoc, List.singleton_append, untilClosed_opening, level,
    untilClosed_closing, Option.map_map, Option.map_map]
  simp only [Function.comp_def, List.cons_append, List.append_assoc, List.nil_append]

theorem isQuotedLevel_of_isQuotable (quotable : IsQuotable body) : IsQuotedLevel body := by
  induction quotable with
  | done =>
      intro depth rest
      simp
  | plain quote slash printed more ih =>
      intro depth rest
      rw [List.cons_append, untilClosed_quoted quote slash, ih, Option.map_map]
      rfl
  | escape known more ih =>
      intro depth rest
      rw [List.cons_append, List.cons_append, untilClosed_escape, ih, Option.map_map]
      rfl
  | @code a b c d _ hex more ih =>
      intro depth rest
      have apart {digit : Char} (mem : digit ∈ [a, b, c, d]) : digit ≠ '"' ∧ digit ≠ '\\' := by
        have known := hex digit mem
        constructor
        · rintro rfl
          cases known
        · rintro rfl
          cases known
      have pass {digit : Char} {rest : List Char} (mem : digit ∈ [a, b, c, d]) :
          untilClosed depth .inside (digit :: rest) =
            (untilClosed depth .inside rest).map (digit :: ·) :=
        untilClosed_quoted (apart mem).1 (apart mem).2
      simp only [List.cons_append]
      rw [untilClosed_escape, pass (by simp), pass (by simp), pass (by simp), pass (by simp), ih]
      simp only [Option.map_map, Function.comp_def]

/-- A quoted text is passed over, whatever braces stand in it. -/
theorem isLevel_inQuotes (quotable : IsQuotable body) : IsLevel (inQuotes body) := by
  intro depth rest
  rw [inQuotes, List.cons_append, List.append_assoc, List.singleton_append, untilClosed_quote,
    isQuotedLevel_of_isQuotable quotable, untilClosed_endQuote, Option.map_map, Option.map_map]
  simp only [Function.comp_def, List.cons_append, List.append_assoc, List.nil_append]

/-- The balanced span at an opening brace ends with the brace that closes it. -/
theorem balancedAtHead?_braced (level : IsLevel text) :
    balancedAtHead? ('\x7b' :: (text ++ '\x7d' :: rest)) = some ('\x7b' :: (text ++ ['\x7d'])) := by
  rw [balancedAtHead?, if_pos rfl, level]
  rfl

end Text

namespace Json

variable {text : List Char} {content : Content} {literal : NumberLiteral}

/-- A class of characters without quotes and braces has only neutral ones. -/
theorem isNeutral_of {c : Char} {member : Char → Bool} (holds : member c = true)
    (marks : ['"', '\x7b', '\x7d'].all (!member ·) = true) : IsNeutral c := by
  intro mark
  have outside := List.all_eq_true.mp marks c mark
  rw [holds] at outside
  cases outside

theorem isLevel_of_isGap (gap : IsGap text) : IsLevel text :=
  isLevel_of_forall fun c mem => isNeutral_of (gap c mem) (by decide)

theorem isLevel_of_digits (decimal : ∀ c ∈ text, c.isDigit = true) : IsLevel text :=
  isLevel_of_forall fun c mem => isNeutral_of (decimal c mem) (by decide)

theorem isLevel_of_number (parts : literal.Writes text) : IsLevel text := by
  cases parts with
  | @parts negative whole _ _ _ _ leading behind power =>
      have sign : IsLevel (if negative then ['-'] else []) := by
        cases negative <;> exact isLevel_of_all (by decide)
      have digits : IsLevel whole := by
        rcases leading with rfl | count
        · exact isLevel_of_all (by decide)
        · exact isLevel_of_digits count.decimal
      refine ((sign.append digits).append ?_).append ?_
      · cases behind with
        | absent => exact isLevel_nil
        | present row => exact (isLevel_of_digits row.decimal).cons (by decide)
      · cases power with
        | absent => exact isLevel_nil
        | @present mark negative sign _ marked signed row =>
            have letter : IsNeutral mark := by
              rcases List.mem_pair.mp marked with rfl | rfl
              · decide
              · decide
            have behind : IsLevel sign := by
              simp only [List.mem_cons, Prod.mk.injEq, List.not_mem_nil, or_false] at signed
              rcases signed with ⟨-, rfl⟩ | ⟨-, rfl⟩ | ⟨-, rfl⟩
              · exact isLevel_nil
              · exact isLevel_of_all (by decide)
              · exact isLevel_of_all (by decide)
            exact (behind.append (isLevel_of_digits row.decimal)).cons letter

theorem isLevel_of_writesKey {key : Option String} (named : WritesKey key text) :
    IsLevel text := by
  cases named with
  | spaced gap quotable gapBehind =>
      exact ((isLevel_of_isGap gap).append (isLevel_inQuotes quotable)).append
        (isLevel_of_isGap gapBehind)

/-- Whatever is written is passed over. -/
theorem isLevel_of_writes (written : Writes content text) : IsLevel text := by
  induction written with
  | null => exact isLevel_of_all (by decide)
  | yes => exact isLevel_of_all (by decide)
  | no => exact isLevel_of_all (by decide)
  | number parts => exact isLevel_of_number parts
  | string quotable => exact isLevel_inQuotes quotable
  | array inside ih => exact (ih.append (isLevel_of_all (by decide))).cons (by decide)
  | object inside ih => exact ih.braced
  | spaced gap value gapBehind ih =>
      exact ((isLevel_of_isGap gap).append ih).append (isLevel_of_isGap gapBehind)
  | noItem gap => exact isLevel_of_isGap gap
  | lastItem value ih => exact ih
  | moreItems value others ih ihMore => exact ih.append (ihMore.cons (by decide))
  | noMember gap => exact isLevel_of_isGap gap
  | lastMember named value ih => exact (isLevel_of_writesKey named).append (ih.cons (by decide))
  | moreMembers named value others ih ihMore =>
      exact (isLevel_of_writesKey named).append
        ((ih.append (ihMore.cons (by decide))).cons (by decide))

end Json

namespace Text

/-- Behind a text without an opening brace the balanced span is the whole object that is written
there, whatever follows it. -/
theorem balancedObject_written {front object back : String}
    {members : List (Option String × Document)} (clean : '\x7b' ∉ front.toList)
    (written : Json.Writes (.value (.object members true)) object.toList) :
    balancedObject? (front ++ object ++ back) = some object := by
  have skipped (rest : List Char) : (front.toList ++ '\x7b' :: rest).dropWhile (· != '\x7b') =
      '\x7b' :: rest := by
    rw [List.dropWhile_append_of_pos]
    · rfl
    · intro c mem
      exact bne_iff_ne.mpr fun same => clean (same ▸ mem)
  generalize shape : object.toList = text at written
  cases written with
  | object inside =>
      rw [balancedObject?, balancedSpan?, String.toList_append, String.toList_append, shape,
        List.append_assoc, List.cons_append, skipped, List.append_assoc, List.singleton_append,
        balancedAtHead?_braced (isLevel_of_writes inside), Option.map_some, ← shape,
        String.ofList_toList]

/-- A key with a brace and a quote in it, and an exponent and an empty object within a list. -/
theorem balancedObject_written_nested :
    ∃ object members, object = "\x7b\"\x7d\\\"\" : [1e2, \x7b \x7d]\x7d" ∧
      Json.Writes (.value (.object members true)) object.toList ∧
        balancedObject? ("Sure, \x7d is: " ++ object ++ "\x7d or \x7b\x7d") = some object := by
  have none : IsGap [] := by decide
  have one : IsGap [' '] := by decide
  have key : WritesKey _ "\"\x7d\\\"\" ".toList :=
    .spaced none (.plain (by decide) (by decide) (by decide) (.escape (by decide) .done)) one
  have digits : NumberLiteral.IsDigits ['2'] := ⟨by decide, List.forall_mem_singleton.mpr rfl⟩
  have power : NumberLiteral.WritesExponent (some (false, ['2'])) ['e', '2'] :=
    @NumberLiteral.WritesExponent.present 'e' false [] _ (by decide) (by decide) digits
  have count : IsCount ['1'] := ⟨by decide, List.forall_mem_singleton.mpr rfl, by decide⟩
  have number : Json.Writes (.value _) "1e2".toList :=
    .number (@NumberLiteral.Writes.parts false _ _ _ _ _ (.inr count) .absent power)
  have nested : Json.Writes (.value _) "\x7b \x7d".toList := .object (.noMember one)
  have items : Json.Writes (.items _) "1e2, \x7b \x7d".toList :=
    .moreItems (.spaced none number none) (.lastItem (.spaced one nested none))
  have written : Json.Writes (.value (.object _ true))
      "\x7b\"\x7d\\\"\" : [1e2, \x7b \x7d]\x7d".toList :=
    .object (.lastMember key (.spaced one (.array items) none))
  exact ⟨_, _, rfl, written, balancedObject_written (by decide) written⟩

end Text

end PromScribe

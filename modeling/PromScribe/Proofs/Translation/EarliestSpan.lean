import Mathlib.Data.List.TakeWhile
import PromScribe.Proofs.Translation.Balanced

/-!
# The earliest balanced span

A span is balanced if it is a pair of braces around text whose braces outside of quotes are paired.
A scan that starts at an opening brace finds the balanced span there, if there is one. Only the
first opening brace of a text is tried: the earliest balanced span is found just if no opening brace
stands in front of it, and nothing is found otherwise.
-/

namespace PromScribe.Text

variable {c : Char} {text body more part span other front back rest : List Char} {depth : Nat}

/-- What may stand between two quotes: a backslash takes the next character with it, and no quote
stands alone. -/
inductive IsQuotation : List Char → Prop where
  | nil : IsQuotation []
  | plain {c : Char} {text : List Char} (quote : c ≠ '"') (slash : c ≠ '\\')
      (more : IsQuotation text) : IsQuotation (c :: text)
  | escaped {text : List Char} (c : Char) (more : IsQuotation text) :
      IsQuotation ('\\' :: c :: text)

/-- Every brace outside of quotes has its partner within the text, and every quotation ends. -/
inductive IsPaired : List Char → Prop where
  | nil : IsPaired []
  | plain {c : Char} {text : List Char} (neutral : IsNeutral c) (more : IsPaired text) :
      IsPaired (c :: text)
  | quoted {body text : List Char} (inside : IsQuotation body) (more : IsPaired text) :
      IsPaired ('"' :: (body ++ '"' :: text))
  | braced {body text : List Char} (inside : IsPaired body) (more : IsPaired text) :
      IsPaired ('\x7b' :: (body ++ '\x7d' :: text))

/-- A pair of braces around paired text. -/
inductive IsBalanced : List Char → Prop where
  | braces {body : List Char} (inside : IsPaired body) : IsBalanced ('\x7b' :: (body ++ ['\x7d']))

section Passed

theorem isQuotedLevel_of_isQuotation (quotation : IsQuotation body) : IsQuotedLevel body := by
  induction quotation with
  | nil =>
      intro depth rest
      simp
  | plain quote slash more ih =>
      intro depth rest
      rw [List.cons_append, untilClosed_quoted quote slash, ih, Option.map_map]
      rfl
  | escaped c more ih =>
      intro depth rest
      rw [List.cons_append, List.cons_append, untilClosed_escape, ih, Option.map_map]
      rfl

theorem isLevel_of_isPaired (paired : IsPaired text) : IsLevel text := by
  induction paired with
  | nil => exact isLevel_nil
  | plain neutral more ih => exact ih.cons neutral
  | @quoted body text inside more ih =>
      intro depth rest
      rw [List.cons_append, List.append_assoc, List.cons_append, untilClosed_quote,
        isQuotedLevel_of_isQuotation inside, untilClosed_endQuote, ih, Option.map_map,
        Option.map_map, Option.map_map]
      simp only [Function.comp_def, List.cons_append, List.append_assoc]
  | @braced body text inside more ih ihMore =>
      have split : '\x7b' :: (body ++ '\x7d' :: text) = '\x7b' :: (body ++ ['\x7d']) ++ text := by
        simp
      rw [split]
      exact ih.braced.append ihMore

end Passed

section Scanned

/-- The text closes `depth + 1` open braces, each behind paired text, and ends with the last of
these closing braces. -/
def Closes : Nat → List Char → Prop
  | 0, text => ∃ body, IsPaired body ∧ text = body ++ ['\x7d']
  | depth + 1, text => ∃ body more, IsPaired body ∧ text = body ++ '\x7d' :: more ∧ Closes depth more

/-- The text closes `depth + 1` open braces, seen from where a scan stands as to quotes. -/
def ClosesFrom (depth : Nat) : Quoting → List Char → Prop
  | .outside, text => Closes depth text
  | .inside, text => ∃ body more, IsQuotation body ∧ text = body ++ '"' :: more ∧ Closes depth more
  | .escaped, text => ∃ c body more, IsQuotation body ∧ text = c :: (body ++ '"' :: more) ∧
      Closes depth more

/-- Paired text in front belongs to what stands behind the brace that is opened last. -/
theorem Closes.prepend (front : List Char)
    (paired : ∀ text, IsPaired text → IsPaired (front ++ text))
    (closes : Closes depth part) : Closes depth (front ++ part) := by
  cases depth with
  | zero =>
      obtain ⟨body, inside, rfl⟩ := closes
      exact ⟨front ++ body, paired body inside, (List.append_assoc ..).symm⟩
  | succ depth =>
      obtain ⟨body, more, inside, rfl, closesMore⟩ := closes
      exact ⟨front ++ body, more, paired body inside, (List.append_assoc ..).symm, closesMore⟩

theorem Closes.plain (neutral : IsNeutral c) (closes : Closes depth part) :
    Closes depth (c :: part) :=
  closes.prepend [c] fun _ => .plain neutral

theorem Closes.quoted (inside : IsQuotation body) (closes : Closes depth part) :
    Closes depth ('"' :: (body ++ '"' :: part)) := by
  have whole := closes.prepend ('"' :: (body ++ ['"'])) fun text paired => by
    simpa using IsPaired.quoted inside paired
  simpa using whole

theorem Closes.braced (closes : Closes (depth + 1) part) : Closes depth ('\x7b' :: part) := by
  obtain ⟨body, more, inside, rfl, closesMore⟩ := closes
  have whole := closesMore.prepend ('\x7b' :: (body ++ ['\x7d'])) fun text paired => by
    simpa using IsPaired.braced inside paired
  simpa using whole

theorem Closes.closing (closes : Closes depth part) : Closes (depth + 1) ('\x7d' :: part) :=
  ⟨[], part, .nil, rfl, closes⟩

/-- A scan that ends has closed as many braces as were open, at the head of what it scanned. -/
theorem closesFrom_of_untilClosed {quoting : Quoting}
    (scanned : untilClosed depth quoting text = some part) :
    ClosesFrom depth quoting part ∧ part <+: text := by
  induction text generalizing depth quoting part with
  | nil => cases depth <;> cases quoting <;> cases scanned
  | cons c rest ih =>
      -- What is scanned goes on behind the character.
      have behind {depth : Nat} {quoting : Quoting}
          (scanned : (untilClosed depth quoting rest).map (c :: ·) = some part) :
          ∃ tail, part = c :: tail ∧ ClosesFrom depth quoting tail ∧ part <+: c :: rest := by
        obtain ⟨tail, found, rfl⟩ := Option.map_eq_some_iff.mp scanned
        obtain ⟨closes, begins⟩ := ih found
        exact ⟨tail, rfl, closes, (List.prefix_cons_inj c).mpr begins⟩
      cases quoting with
      | escaped =>
          rw [untilClosed_escaped] at scanned
          obtain ⟨tail, rfl, ⟨body, more, inside, rfl, closes⟩, begins⟩ := behind scanned
          exact ⟨⟨c, body, more, inside, rfl, closes⟩, begins⟩
      | inside =>
          by_cases slash : c = '\\'
          · subst slash
            rw [untilClosed_slash] at scanned
            obtain ⟨tail, rfl, ⟨d, body, more, inside, rfl, closes⟩, begins⟩ := behind scanned
            exact ⟨⟨_, more, inside.escaped d, rfl, closes⟩, begins⟩
          · by_cases quote : c = '"'
            · subst quote
              rw [untilClosed_endQuote] at scanned
              obtain ⟨tail, rfl, closes, begins⟩ := behind scanned
              exact ⟨⟨[], tail, .nil, rfl, closes⟩, begins⟩
            · rw [untilClosed_quoted quote slash] at scanned
              obtain ⟨tail, rfl, ⟨body, more, inside, rfl, closes⟩, begins⟩ := behind scanned
              exact ⟨⟨_, more, inside.plain quote slash, rfl, closes⟩, begins⟩
      | outside =>
          by_cases neutral : IsNeutral c
          · rw [untilClosed_neutral neutral] at scanned
            obtain ⟨tail, rfl, closes, begins⟩ := behind scanned
            exact ⟨closes.plain neutral, begins⟩
          · have mark : c = '"' ∨ c = '\x7b' ∨ c = '\x7d' := by
              simpa [IsNeutral, ← or_iff_not_imp_left] using neutral
            rcases mark with rfl | rfl | rfl
            · rw [untilClosed_quote] at scanned
              obtain ⟨tail, rfl, ⟨body, more, inside, rfl, closes⟩, begins⟩ := behind scanned
              exact ⟨closes.quoted inside, begins⟩
            · rw [untilClosed_opening] at scanned
              obtain ⟨tail, rfl, closes, begins⟩ := behind scanned
              exact ⟨closes.braced, begins⟩
            · cases depth with
              | zero =>
                  obtain rfl : ['\x7d'] = part := Option.some.inj scanned
                  exact ⟨⟨[], .nil, rfl⟩, ⟨rest, rfl⟩⟩
              | succ depth =>
                  rw [untilClosed_closing] at scanned
                  obtain ⟨tail, rfl, closes, begins⟩ := behind scanned
                  exact ⟨closes.closing, begins⟩

/-- A scan that starts at the head of a text finds the balanced span that the text begins with. -/
theorem balancedAtHead?_eq_some_iff :
    balancedAtHead? text = some span ↔ IsBalanced span ∧ span <+: text := by
  constructor
  · intro found
    cases text with
    | nil => cases found
    | cons c rest =>
        unfold balancedAtHead? at found
        dsimp only at found
        split at found
        · next opening =>
            subst opening
            obtain ⟨part, scanned, rfl⟩ := Option.map_eq_some_iff.mp found
            obtain ⟨⟨body, inside, rfl⟩, begins⟩ := closesFrom_of_untilClosed scanned
            exact ⟨.braces inside, (List.prefix_cons_inj _).mpr begins⟩
        · cases found
  · rintro ⟨⟨inside⟩, back, rfl⟩
    simpa using @balancedAtHead?_braced _ back (isLevel_of_isPaired inside)

end Scanned

/-- The span is balanced and stands behind `front`, and no balanced span stands further in front. -/
structure IsEarliest (text front span : List Char) : Prop where
  balanced : IsBalanced span
  stands : front ++ span <+: text
  first : ∀ otherFront other, otherFront ++ other <+: text → IsBalanced other →
    front.length ≤ otherFront.length

theorem IsBalanced.exists_cons (balanced : IsBalanced span) : ∃ rest, span = '\x7b' :: rest := by
  cases balanced with
  | braces inside => exact ⟨_, rfl⟩

/-- A text with an opening brace behind a part without one. -/
theorem dropWhile_clean (clean : '\x7b' ∉ front) :
    (front ++ '\x7b' :: rest).dropWhile (· != '\x7b') = '\x7b' :: rest := by
  have others : ∀ c ∈ front, (c != '\x7b') = true := fun c mem =>
    bne_iff_ne.mpr fun same => clean (same ▸ mem)
  rw [List.dropWhile_append_of_pos others]
  rfl

/-- A balanced span without an opening brace in front of it is the only one that is tried. -/
theorem balancedSpan?_eq_some_iff : balancedSpan? text = some span ↔
    ∃ front, IsBalanced span ∧ front ++ span <+: text ∧ '\x7b' ∉ front := by
  unfold balancedSpan?
  rw [balancedAtHead?_eq_some_iff]
  constructor
  · rintro ⟨balanced, begins⟩
    refine ⟨text.takeWhile (· != '\x7b'), balanced, ?_, fun mem => ?_⟩
    · have whole := (List.prefix_append_right_inj (text.takeWhile (· != '\x7b'))).mpr begins
      rwa [List.takeWhile_append_dropWhile] at whole
    · simpa using List.mem_takeWhile_imp mem
  · rintro ⟨front, balanced, ⟨back, rfl⟩, clean⟩
    obtain ⟨rest, rfl⟩ := balanced.exists_cons
    rw [List.append_assoc, List.cons_append, dropWhile_clean clean, ← List.cons_append]
    exact ⟨balanced, List.prefix_append _ back⟩

/-- No balanced span stands further in front than one without an opening brace in front of it. -/
theorem isEarliest_of_clean (balanced : IsBalanced span) (stands : front ++ span <+: text)
    (clean : '\x7b' ∉ front) : IsEarliest text front span := by
  refine ⟨balanced, stands, fun otherFront other within otherBalanced => ?_⟩
  obtain ⟨tail, rfl⟩ := otherBalanced.exists_cons
  by_contra longer
  have size : (otherFront ++ ['\x7b']).length ≤ front.length := by
    rw [List.length_append, List.length_singleton]
    exact Nat.lt_of_not_le longer
  have brace : otherFront ++ ['\x7b'] <+: text := List.IsPrefix.trans ⟨tail, by simp⟩ within
  have start : front <+: text := (List.prefix_append front span).trans stands
  exact clean ((List.prefix_of_prefix_length_le brace start size).subset (by simp))

/-- What is found is the earliest balanced span, and it is found just if no opening brace stands in
front of it: nothing is found in a text where one stands in front of every balanced span. -/
theorem balancedObject_earliest (text : String) :
    (∀ span, balancedObject? text = some span ↔
      ∃ front, IsEarliest text.toList front span.toList ∧ '\x7b' ∉ front) ∧
    (balancedObject? text = none ↔
      ∀ front span, front ++ span <+: text.toList → IsBalanced span → '\x7b' ∈ front) := by
  constructor
  · intro span
    have found : balancedObject? text = some span ↔
        balancedSpan? text.toList = some span.toList := by
      unfold balancedObject?
      rw [Option.map_eq_some_iff]
      constructor
      · rintro ⟨part, same, rfl⟩
        rw [same, String.toList_ofList]
      · exact fun same => ⟨_, same, String.ofList_toList⟩
    rw [found, balancedSpan?_eq_some_iff]
    refine exists_congr fun front => ⟨?_, ?_⟩
    · rintro ⟨balanced, stands, clean⟩
      exact ⟨isEarliest_of_clean balanced stands clean, clean⟩
    · rintro ⟨earliest, clean⟩
      exact ⟨earliest.balanced, earliest.stands, clean⟩
  · unfold balancedObject?
    rw [Option.map_eq_none_iff, Option.eq_none_iff_forall_ne_some]
    constructor
    · intro nothing front span stands balanced
      by_contra clean
      exact nothing span (balancedSpan?_eq_some_iff.mpr ⟨front, balanced, stands, clean⟩)
    · intro hidden span found
      obtain ⟨front, balanced, stands, clean⟩ := balancedSpan?_eq_some_iff.mp found
      exact clean (hidden front span stands balanced)

/-- The first place from which a scan ends is that of the earliest balanced span. -/
theorem isEarliest_of_scans (place : Nat)
    (here : balancedAtHead? (text.drop place) = some span)
    (others : ∀ other < place, balancedAtHead? (text.drop other) = none) :
    IsEarliest text (text.take place) span := by
  obtain ⟨balanced, begins⟩ := balancedAtHead?_eq_some_iff.mp here
  refine ⟨balanced, ?_, fun otherFront other within otherBalanced => ?_⟩
  · have whole := (List.prefix_append_right_inj (text.take place)).mpr begins
    rwa [List.take_append_drop] at whole
  · by_contra longer
    have earlier : otherFront.length < place :=
      Nat.lt_of_lt_of_le (Nat.lt_of_not_le longer) (List.length_take_le place text)
    obtain ⟨back, rfl⟩ := within
    have found : balancedAtHead? (other ++ back) = some other :=
      balancedAtHead?_eq_some_iff.mpr ⟨otherBalanced, List.prefix_append other back⟩
    have missed := others otherFront.length earlier
    rw [List.append_assoc, List.drop_left, found] at missed
    cases missed

/-- A brace that stands alone hides the object behind it. -/
theorem exists_hidden_object : ∃ text front object : String,
    text = front ++ object ∧ IsEarliest text.toList front.toList object.toList ∧
      balancedObject? text = none := by
  have earliest : IsEarliest "Use \x7b here: \x7b\"metric\": \"up\"\x7d".toList
      "Use \x7b here: ".toList "\x7b\"metric\": \"up\"\x7d".toList :=
    isEarliest_of_scans 12 (by decide) (by decide)
  exact ⟨_, "Use \x7b here: ", "\x7b\"metric\": \"up\"\x7d", rfl, earliest, by decide⟩

end PromScribe.Text

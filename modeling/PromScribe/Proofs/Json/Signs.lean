import PromScribe.Proofs.Json.Grammar
import PromScribe.Proofs.Text.Sweep

/-!
# Signs of written values

A written value that has no parts is one sign, and so is every bracket and separator; blanks between
them are none. A number goes as far as its characters do, so it must not be followed by another one.
-/

namespace PromScribe

open Text

namespace NumberLiteral

variable {digits text rest fractionText exponentText : List Char} {literal : NumberLiteral}
variable {fraction : Option (List Char)} {exponent : Option (Bool × List Char)}

/-- A character that would go on with a number. -/
def continuesNumber (c : Char) : Bool :=
  c.isDigit || c == '.' || c == 'e' || c == 'E'

/-- The text does not go on with a number that stands in front of it. -/
def EndsNumber (text : List Char) : Prop := text.head?.any continuesNumber = false

theorem EndsNumber.isDigit (ends : EndsNumber rest) : rest.head?.any Char.isDigit = false := by
  cases rest with
  | nil => rfl
  | cons c rest =>
      have other : continuesNumber c = false := ends
      simp only [continuesNumber, Bool.or_eq_false_iff] at other
      exact other.1.1.1

theorem exists_first (row : IsDigits digits) :
    ∃ c rest, digits = c :: rest ∧ c.isDigit = true := by
  cases digits with
  | nil => exact absurd rfl row.nonempty
  | cons c rest => exact ⟨c, rest, rfl, row.decimal c List.mem_cons_self⟩

theorem isEmpty_digits (row : IsDigits digits) : digits.isEmpty = false := by
  obtain ⟨c, rest, rfl, -⟩ := exists_first row
  rfl

theorem ne_of_isDigit {c mark : Char} (digit : c.isDigit = true) (other : mark.isDigit = false) :
    c ≠ mark := by
  rintro rfl
  rw [digit] at other
  cases other

/-- A sign in front of digits is told from them by its character. -/
theorem signed_eq {negative : Bool} {sign : List Char} (rest : List Char) (row : IsDigits digits)
    (signed : (negative, sign) ∈ [(false, []), (false, ['+']), (true, ['-'])]) :
    ((sign ++ (digits ++ rest)).head? == some '-') = negative ∧
      ((sign ++ (digits ++ rest)).head? == some '+' ||
        (sign ++ (digits ++ rest)).head? == some '-') = !sign.isEmpty ∧
      sign.length = if sign.isEmpty then 0 else 1 := by
  simp only [List.mem_cons, Prod.mk.injEq, List.not_mem_nil, or_false] at signed
  rcases signed with ⟨rfl, rfl⟩ | ⟨rfl, rfl⟩ | ⟨rfl, rfl⟩
  · obtain ⟨first, more, rfl, digit⟩ := exists_first row
    have plus : first ≠ '+' := ne_of_isDigit digit rfl
    have minus : first ≠ '-' := ne_of_isDigit digit rfl
    simp [plus, minus]
  · exact ⟨rfl, rfl, rfl⟩
  · exact ⟨rfl, rfl, rfl⟩

theorem exponentAtHead?_eq (power : WritesExponent exponent exponentText)
    (ends : EndsNumber rest) : atHead?.exponentAtHead? (exponentText ++ rest) =
      some (exponent.map fun part => (part, exponentText.length)) := by
  cases power with
  | absent =>
      cases rest with
      | nil => rfl
      | cons c rest =>
          have other : continuesNumber c = false := ends
          simp only [continuesNumber, Bool.or_eq_false_iff, beq_eq_false_iff_ne] at other
          simp [atHead?.exponentAtHead?, other]
  | @present mark negative sign digits marked signed row =>
      have known : (mark = 'e' || mark = 'E') = true := by simpa using marked
      have run : (digits ++ rest).takeWhile Char.isDigit = digits :=
        takeWhile_run row.decimal ends.isDigit
      obtain ⟨minus, either, length⟩ := signed_eq rest row signed
      have behind : (if !sign.isEmpty then (sign ++ (digits ++ rest)).drop 1
          else sign ++ (digits ++ rest)) = digits ++ rest := by
        cases sign with
        | nil => rfl
        | cons c sign =>
            obtain rfl : sign = [] := by simpa using length
            rfl
      rw [List.cons_append, atHead?.exponentAtHead?, if_pos known, List.append_assoc, either, minus]
      dsimp only
      rw [behind, run, isEmpty_digits row]
      simp [length]
      omega

theorem fraction_head (behind : WritesFraction fraction fractionText)
    (ends : (rest.head?.any fun c => c.isDigit || c == '.') = false) :
    (fractionText ++ rest).head?.any Char.isDigit = false := by
  cases behind with
  | absent =>
      cases rest with
      | nil => rfl
      | cons c rest => exact (Bool.or_eq_false_iff.mp ends).1
  | present row => rfl

theorem fractionAtHead?_eq (behind : WritesFraction fraction fractionText)
    (ends : (rest.head?.any fun c => c.isDigit || c == '.') = false) :
    atHead?.fractionAtHead? (fractionText ++ rest) = some fraction := by
  cases behind with
  | absent =>
      cases rest with
      | nil => rfl
      | cons c rest =>
          have other : (c.isDigit || c == '.') = false := ends
          simp only [Bool.or_eq_false_iff, beq_eq_false_iff_ne] at other
          unfold atHead?.fractionAtHead?
          split
          · next same => exact absurd (List.cons.inj same).1 other.2
          · rfl
  | @present digits row =>
      have stops : rest.head?.any Char.isDigit = false := fraction_head .absent ends
      have run : (digits ++ rest).takeWhile Char.isDigit = digits := takeWhile_run row.decimal stops
      rw [List.cons_append, atHead?.fractionAtHead?, run, isEmpty_digits row]
      rfl

theorem fraction_length (behind : WritesFraction fraction fractionText) :
    fractionText.length = fraction.elim 0 fun digits => digits.length + 1 := by
  cases behind with
  | absent => rfl
  | present row => rfl

/-- What follows the whole part or the fraction of a number is none of its digits. -/
theorem exponent_head (power : WritesExponent exponent exponentText) (ends : EndsNumber rest) :
    ((exponentText ++ rest).head?.any fun c => c.isDigit || c == '.') = false := by
  cases power with
  | absent =>
      cases rest with
      | nil => rfl
      | cons c rest =>
          have other : continuesNumber c = false := ends
          simp only [continuesNumber, Bool.or_eq_false_iff] at other
          exact Bool.or_eq_false_iff.mpr other.1.1
  | @present mark negative sign digits marked signed row =>
      rcases List.mem_pair.mp marked with rfl | rfl
      · rfl
      · rfl

theorem isDigits_whole {whole : List Char} (leading : whole = ['0'] ∨ IsCount whole) :
    IsDigits whole := by
  rcases leading with rfl | count
  · exact ⟨List.cons_ne_nil _ _, List.forall_mem_singleton.mpr rfl⟩
  · exact ⟨count.nonempty, count.decimal⟩

/-- The whole part of a number has no zeros in front. -/
theorem unpadded_whole {whole : List Char} (leading : whole = ['0'] ∨ IsCount whole) :
    (whole.isEmpty || (whole.head? == some '0' && decide (1 < whole.length))) = false := by
  rcases leading with rfl | count
  · rfl
  · simp [count.nonempty, count.leading]

/-- The whole part of a number does not start with a sign. -/
theorem whole_head {whole : List Char} (row : IsDigits whole) (rest : List Char) :
    ((whole ++ rest).head? == some '-') = false := by
  obtain ⟨first, more, shape, digit⟩ := exists_first row
  have other : first ≠ '-' := ne_of_isDigit digit rfl
  simp [shape, other]

/-- A number is read as far as it goes. -/
theorem atHead?_eq (parts : literal.Writes text) (ends : EndsNumber rest) :
    atHead? (text ++ rest) = some (literal, text.length) := by
  cases parts with
  | @parts negative whole fractionText exponentText fraction exponent leading behind power =>
      have row := isDigits_whole leading
      have apart := exponent_head power ends
      have run : (whole ++ (fractionText ++ (exponentText ++ rest))).takeWhile Char.isDigit =
          whole := takeWhile_run row.decimal (fraction_head behind apart)
      have parts :
          (if negative then ['-'] else []) ++ whole ++ fractionText ++ exponentText ++ rest =
            (if negative then ['-'] else []) ++
              (whole ++ (fractionText ++ (exponentText ++ rest))) := by
        simp only [List.append_assoc]
      have marked : (((if negative then ['-'] else []) ++
          (whole ++ (fractionText ++ (exponentText ++ rest)))).head? == some '-') = negative := by
        cases negative with
        | true => rfl
        | false => exact whole_head row _
      have left : (if negative = true then ((if negative then ['-'] else []) ++
          (whole ++ (fractionText ++ (exponentText ++ rest)))).drop 1 else
            (if negative then ['-'] else []) ++
              (whole ++ (fractionText ++ (exponentText ++ rest)))) =
          whole ++ (fractionText ++ (exponentText ++ rest)) := by
        cases negative <;> rfl
      unfold atHead?
      rw [parts, marked]
      dsimp only
      rw [left, run, unpadded_whole leading, List.drop_left, if_neg Bool.false_ne_true,
        fractionAtHead?_eq behind apart]
      simp only [Option.bind_eq_bind, Option.bind_some]
      rw [← fraction_length behind, List.drop_left, exponentAtHead?_eq power ends]
      have length : (exponent.map fun part => (part, exponentText.length)).elim 0
          (fun part => part.2) = exponentText.length := by
        cases power with
        | absent => rfl
        | present => rfl
      have sign : (if negative then ['-'] else []).length = if negative then 1 else 0 := by
        cases negative <;> rfl
      simp only [Option.bind_some, Option.pure_def, length, List.length_append, sign]
      cases exponent <;> rfl

end NumberLiteral

namespace Json

open Token NumberLiteral

variable {text rest body : List Char} {token : Token} {literal : NumberLiteral} {c : Char}

/-- The text is a sign, whatever follows it that does not go on with a number. -/
structure IsSign (text : List Char) (token : Token) : Prop where
  nonempty : text ≠ []
  accepted : ∀ before rest, EndsNumber rest →
    sign before (text ++ rest) = some ⟨text.length - 1, token⟩

theorem sweepFrom_sign (before other : Option Char) (skip : Nat) (text : List Char) :
    sweepFrom sign before skip text = sweepFrom sign other skip text := by
  cases text with
  | nil => rfl
  | cons c text => cases skip <;> rfl

theorem sweepFrom_skipped (before : Option Char) (covered rest : List Char) :
    sweepFrom sign before covered.length (covered ++ rest) = sweepFrom sign before 0 rest := by
  induction covered generalizing before with
  | nil => rfl
  | cons c covered ih =>
      have behind : sweepFrom sign before (c :: covered).length (c :: covered ++ rest) =
          sweepFrom sign (some c) covered.length (covered ++ rest) := rfl
      rw [behind, ih]
      exact sweepFrom_sign (some c) before 0 rest

theorem ofText_accepted (covered : List Char)
    (accepted : sign none (c :: (covered ++ rest)) = some ⟨covered.length, token⟩) :
    ofText (c :: (covered ++ rest)) = token :: ofText rest := by
  have swept : sweep sign (c :: (covered ++ rest)) =
      .hit (c :: (covered ++ rest).take covered.length) token :: sweep sign rest := by
    unfold sweep
    rw [sweepFrom, accepted]
    dsimp only
    rw [sweepFrom_skipped, sweepFrom_sign (some c) none]
  unfold ofText
  rw [swept]
  rfl

theorem ofText_sign (shown : IsSign text token) (ends : EndsNumber rest) :
    ofText (text ++ rest) = token :: ofText rest := by
  have accepted := shown.accepted none rest ends
  cases text with
  | nil => exact absurd rfl shown.nonempty
  | cons c covered => exact ofText_accepted covered accepted

/-- A bracket or a separator is a sign by itself. -/
theorem ofText_mark (mark : sign none (c :: rest) = some ⟨0, token⟩) :
    ofText (c :: rest) = token :: ofText rest :=
  ofText_accepted [] mark

/-- A blank is no sign. -/
theorem ofText_blank (blank : isSpacing c = true) : ofText (c :: rest) = ofText rest := by
  have refused : sign none (c :: rest) = none := by
    simp only [isSpacing, Bool.or_eq_true, beq_iff_eq] at blank
    rcases blank with ((rfl | rfl) | rfl) | rfl <;> rfl
  unfold ofText sweep
  rw [sweepFrom, refused]
  dsimp only
  rw [sweepFrom_sign (some c) none]
  exact List.filterMap_cons_none (if_pos blank)

theorem ofText_gap (gap : IsGap text) : ofText (text ++ rest) = ofText rest := by
  induction text with
  | nil => rfl
  | cons c text ih =>
      rw [List.cons_append, ofText_blank (gap c List.mem_cons_self)]
      exact ih fun d mem => gap d (List.mem_cons_of_mem c mem)

/-- Blanks do not go on with a number. -/
theorem endsNumber_gap (gap : IsGap text) (ends : EndsNumber rest) : EndsNumber (text ++ rest) := by
  cases text with
  | nil => exact ends
  | cons c text =>
      have blank := gap c List.mem_cons_self
      simp only [isSpacing, Bool.or_eq_true, beq_iff_eq] at blank
      rcases blank with ((rfl | rfl) | rfl) | rfl <;> rfl

theorem isSign_null : IsSign "null".toList (.scalar .null) :=
  ⟨by decide, fun _ _ _ => rfl⟩

theorem isSign_bool (value : Bool) :
    IsSign (if value then "true" else "false").toList (.scalar (.bool value)) := by
  cases value with
  | true => exact ⟨by decide, fun _ _ _ => rfl⟩
  | false => exact ⟨by decide, fun _ _ _ => rfl⟩

/-- What stands between quotes goes as far as the next quote. -/
theorem quotedBody?_eq (quotable : IsQuotable body) (rest : List Char) :
    quotedBody? (body ++ '"' :: rest) = some body := by
  induction quotable with
  | done => rfl
  | @plain c body quote slash printed more ih =>
      have kept : (c = '\\' || c.toNat < 0x20) = false := by
        simp [slash]
        omega
      rw [List.cons_append, quotedBody?, ih, kept]
      · rfl
      · exact quote
      · exact fun _ _ _ _ _ same => absurd same slash
      · exact fun _ _ same => absurd same slash
  | @escape c body known more ih =>
      have each : (['"', '\\', '/', 'b', 'f', 'n', 'r', 't'].all fun c =>
          (escape? c).isSome && c != 'u') = true := by decide
      have read : (escape? c).isSome = true ∧ c ≠ 'u' := by
        simpa using List.all_eq_true.mp each c known
      rw [List.cons_append, List.cons_append, quotedBody?, ih, read.1]
      · rfl
      · exact fun _ _ _ _ _ same => absurd same read.2
  | @code a b c d body hex more ih =>
      have read : (hexWord? a b c d).isSome = true := by
        simp only [List.mem_cons, List.not_mem_nil, or_false, forall_eq_or_imp, forall_eq,
          Option.isSome_iff_exists] at hex
        obtain ⟨⟨a', first⟩, ⟨b', second⟩, ⟨c', third⟩, d', fourth⟩ := hex
        rw [hexWord?, first, second, third, fourth]
        rfl
      simp only [List.cons_append]
      rw [quotedBody?, ih, read]
      rfl

theorem isSign_quoted (quotable : IsQuotable body) :
    IsSign (inQuotes body) (.scalar (.string (quotedValue? body))) := by
  refine ⟨List.cons_ne_nil _ _, fun before rest _ => ?_⟩
  have inside := quotedBody?_eq quotable rest
  rw [inQuotes, List.cons_append, List.append_assoc, List.singleton_append]
  unfold sign
  dsimp only
  rw [inside]
  simp [quotedValue?]

/-- A number begins with a digit or with a minus sign. -/
theorem head_number (parts : literal.Writes text) :
    ∃ c more, text = c :: more ∧ (c.isDigit || c == '-') = true := by
  cases parts with
  | @parts negative whole _ _ _ _ leading behind power =>
      cases negative with
      | true => exact ⟨'-', _, rfl, rfl⟩
      | false =>
          obtain ⟨first, more, rfl, digit⟩ := exists_first (isDigits_whole leading)
          exact ⟨first, _, rfl, Bool.or_eq_true_iff.mpr (.inl digit)⟩

theorem isSign_number (parts : literal.Writes text) :
    IsSign text (.scalar (.number literal.value?)) := by
  obtain ⟨c, more, rfl, numeric⟩ := head_number parts
  refine ⟨List.cons_ne_nil _ _, fun before rest ends => ?_⟩
  have read := atHead?_eq parts ends
  rw [List.cons_append] at read ⊢
  unfold sign
  dsimp only
  split
  case h_11 => rw [read]; rfl
  all_goals exact absurd numeric (by decide)

end Json

end PromScribe

import Mathlib.Data.List.TakeWhile
import PromScribe.Proofs.Text.Digits
import PromScribe.Proofs.Text.Lower
import PromScribe.Settings.Value

/-!
# The spelling of variables

A value of the environment is taken as a truth value or a number where it reads like one, and a
setting that wants a text gets the text of that value. The spelling is kept just where the two texts
are the same: a truth value in small letters, an integer in its plain form, a fraction in its
shortest form, and everything that reads like neither.
-/

namespace PromScribe

open Text

namespace NumberReader

variable {digits text : List Char}

theorem naturalOf_eq (digits : List Char) : naturalOf digits = Nat.ofDigitChars 10 digits 0 := by
  rw [Nat.ofDigitChars_eq_foldl]
  simp only [naturalOf, Nat.mul_comm]

theorem digits?_toDigits (number : Nat) : digits? (Nat.toDigits 10 number) = some number := by
  have all : (Nat.toDigits 10 number).all Char.isDigit = true :=
    List.all_eq_true.mpr fun _ mem => Nat.isDigit_of_mem_toDigits (by decide) (by decide) mem
  have full : (Nat.toDigits 10 number).isEmpty = false := by simp
  unfold digits?
  rw [all, full, naturalOf_eq, Nat.ofDigitChars_ten_toDigits]
  rfl

/-- What does not begin with a sign is taken as a whole. -/
theorem splitSign_unsigned (unsigned : ∀ c ∈ text, c.isDigit = true) :
    splitSign text = (false, text) := by
  cases text with
  | nil => rfl
  | cons c text =>
      have digit := toNat_of_isDigit (unsigned c List.mem_cons_self)
      unfold splitSign
      split
      · next same =>
          obtain rfl := (List.cons.inj same).1
          exact absurd digit (by decide)
      · next same =>
          obtain rfl := (List.cons.inj same).1
          exact absurd digit (by decide)
      · rfl

/-- The text of an integer: a minus sign in front of the negative ones, and its digits. -/
theorem toList_toString (number : Int) : (toString number).toList =
    (if number < 0 then ['-'] else []) ++ Nat.toDigits 10 number.natAbs := by
  cases number with
  | ofNat value => exact Nat.toList_repr
  | negSucc value =>
      change ("-" ++ Nat.repr (value + 1)).toList = _
      rw [String.toList_append, Nat.toList_repr, if_pos (Int.negSucc_lt_zero value)]
      rfl

/-- The text of an integer is read as that integer. -/
theorem integer?_toString (number : Int) : integer? (toString number) = some number := by
  have split : splitSign (toString number).toList =
      (decide (number < 0), Nat.toDigits 10 number.natAbs) := by
    rw [toList_toString]
    by_cases below : number < 0
    · rw [if_pos below, decide_eq_true below]
      rfl
    · rw [if_neg below, decide_eq_false below]
      exact splitSign_unsigned fun _ mem =>
        Nat.isDigit_of_mem_toDigits (by decide) (by decide) mem
  unfold integer?
  rw [split]
  dsimp only
  rw [digits?_toDigits]
  simp only [Option.pure_def, Option.bind_eq_bind, Option.bind_some, Option.map_some,
    decide_eq_true_eq, Option.some.injEq]
  omega

/-- A character that may stand in a written number: digits, signs, the point and the mark of the
exponent, and the letters of the words for infinity and the undefined number. -/
def isNumberChar (c : Char) : Bool :=
  c.isDigit || "+-.einftya".toList.contains c.toLower

theorem isNumberChar_of_isDigit {c : Char} (digit : c.isDigit = true) : isNumberChar c = true := by
  rw [isNumberChar, digit]
  rfl

theorem isNumberChar_of_digits? {number : Nat} (reads : digits? text = some number) :
    ∀ c ∈ text, isNumberChar c = true := by
  unfold digits? at reads
  split at reads
  · cases reads
  · next digits =>
      have all : text.all Char.isDigit = true := by
        cases full : text.all Char.isDigit with
        | true => rfl
        | false => simp [full] at digits
      exact fun c mem => isNumberChar_of_isDigit (List.all_eq_true.mp all c mem)

/-- Nothing but a sign is taken off. -/
theorem isNumberChar_of_splitSign (rest : ∀ c ∈ (splitSign text).2, isNumberChar c = true) :
    ∀ c ∈ text, isNumberChar c = true := by
  unfold splitSign at rest
  split at rest
  · exact List.forall_mem_cons.mpr ⟨by decide, rest⟩
  · exact List.forall_mem_cons.mpr ⟨by decide, rest⟩
  · exact rest

theorem isNumberChar_of_integer? {source : String} {number : Int}
    (reads : integer? source = some number) : ∀ c ∈ source.toList, isNumberChar c = true := by
  unfold integer? at reads
  dsimp only at reads
  obtain ⟨value, taken, -⟩ := Option.map_eq_some_iff.mp reads
  obtain ⟨value, digits, -⟩ := Option.bind_eq_some_iff.mp taken
  exact isNumberChar_of_splitSign (isNumberChar_of_digits? digits)

theorem isNumberChar_of_exponent? {exponent : Int} (reads : exponent? text = some exponent) :
    ∀ c ∈ text, isNumberChar c = true := by
  unfold exponent? at reads
  split at reads
  · simp
  · next mark rest =>
      split at reads
      · next marks =>
          dsimp only at reads
          obtain ⟨value, taken, -⟩ := Option.map_eq_some_iff.mp reads
          obtain ⟨value, digits, -⟩ := Option.bind_eq_some_iff.mp taken
          have first : isNumberChar mark = true := by
            rcases of_decide_eq_true (by simpa using marks) with rfl | rfl
            · decide
            · decide
          exact List.forall_mem_cons.mpr
            ⟨first, isNumberChar_of_splitSign (isNumberChar_of_digits? digits)⟩
      · cases reads

/-- Digits in front of characters of numbers. -/
theorem isNumberChar_of_run
    (rest : ∀ c ∈ text.drop (text.takeWhile Char.isDigit).length, isNumberChar c = true) :
    ∀ c ∈ text, isNumberChar c = true := by
  have parts :
      text.takeWhile Char.isDigit ++ text.drop (text.takeWhile Char.isDigit).length = text :=
    List.prefix_iff_eq_append.mp (List.takeWhile_prefix Char.isDigit)
  intro c mem
  rw [← parts] at mem
  rcases List.mem_append.mp mem with within | beyond
  · exact isNumberChar_of_isDigit (List.mem_takeWhile_imp within)
  · exact rest c beyond

theorem isNumberChar_of_unsigned? {negative : Bool} {number : Scalar Binary.double}
    (reads : unsigned? negative text = some number) : ∀ c ∈ text, isNumberChar c = true := by
  unfold unsigned? at reads
  dsimp only at reads
  refine isNumberChar_of_run ?_
  generalize text.drop (text.takeWhile Char.isDigit).length = after at reads ⊢
  split at reads
  · next point =>
      obtain ⟨fraction, rfl⟩ := List.head?_eq_some_iff.mp point
      rw [List.drop_succ_cons, List.drop_succ_cons, List.drop_zero] at reads
      split at reads
      · cases reads
      · obtain ⟨exponent, taken, -⟩ := Option.map_eq_some_iff.mp reads
        exact List.forall_mem_cons.mpr
          ⟨by decide, isNumberChar_of_run (isNumberChar_of_exponent? taken)⟩
  · split at reads
    · cases reads
    · obtain ⟨exponent, taken, -⟩ := Option.map_eq_some_iff.mp reads
      exact isNumberChar_of_exponent? taken

/-- A word of small letters of the class is read from characters of the class. -/
theorem isNumberChar_of_word {word : String} (same : String.ofList (text.map Char.toLower) = word)
    (known : word.toList.all ("+-.einftya".toList.contains ·) = true) :
    ∀ c ∈ text, isNumberChar c = true := by
  intro c mem
  have chars : text.map Char.toLower = word.toList := by rw [← same, String.toList_ofList]
  have small : c.toLower ∈ word.toList := chars ▸ List.mem_map_of_mem mem
  rw [isNumberChar, List.all_eq_true.mp known c.toLower small, Bool.or_true]

theorem isNumberChar_of_real? {source : String} {number : Scalar Binary.double}
    (reads : real? source = some number) : ∀ c ∈ source.toList, isNumberChar c = true := by
  unfold real? at reads
  dsimp only at reads
  refine isNumberChar_of_splitSign ?_
  split at reads
  · next infinite =>
      rcases of_decide_eq_true (by simpa using infinite) with short | long
      · exact isNumberChar_of_word short (by decide)
      · exact isNumberChar_of_word long (by decide)
  · split at reads
    · next undefined => exact isNumberChar_of_word undefined (by decide)
    · exact isNumberChar_of_unsigned? reads

end NumberReader

namespace SettingValue

variable {text taken : String} {c : Char}

/-- The text stands for a truth value, in any case of its letters. -/
def IsTruthWord (text : String) : Prop :=
  lowerString text = "true" ∨ lowerString text = "false"

/-- The integer of sixty-four bits that a text writes. -/
def writtenInteger? (text : String) : Option Int :=
  (NumberReader.integer? text).filter isInteger

/-- What a setting that wants a text gets for the value of a variable. -/
inductive Respelled (text : String) : String → Prop where
  | yes (word : lowerString text = "true") : Respelled text "true"
  | no (word : lowerString text = "false") : Respelled text "false"
  | integer {number : Int} (noTruth : ¬ IsTruthWord text)
      (reads : writtenInteger? text = some number) : Respelled text (toString number)
  | real {number : Scalar Binary.double} (noTruth : ¬ IsTruthWord text)
      (noInteger : writtenInteger? text = none)
      (reads : NumberReader.real? text = some number) : Respelled text number.text
  | verbatim (noTruth : ¬ IsTruthWord text) (noInteger : writtenInteger? text = none)
      (noReal : NumberReader.real? text = none) : Respelled text text

/-- The value of a variable is spelled as the text that it is taken for is. -/
inductive KeepsSpelling : String → Prop where
  | yes : KeepsSpelling "true"
  | no : KeepsSpelling "false"
  | integer {number : Int} (fits : isInteger number = true) : KeepsSpelling (toString number)
  | real {number : Scalar Binary.double} (noTruth : ¬ IsTruthWord number.text)
      (noInteger : writtenInteger? number.text = none)
      (reads : NumberReader.real? number.text = some number) : KeepsSpelling number.text
  | verbatim {text : String} (noTruth : ¬ IsTruthWord text)
      (noInteger : writtenInteger? text = none)
      (noReal : NumberReader.real? text = none) : KeepsSpelling text

theorem exists_respelled (text : String) :
    ∃ taken, (ofVariable text).text? = some taken ∧ Respelled text taken := by
  unfold ofVariable
  dsimp only
  split
  · next word => exact ⟨_, rfl, .yes word⟩
  · next noYes =>
      split
      · next word => exact ⟨_, rfl, .no word⟩
      · next noNo =>
          have noTruth : ¬ IsTruthWord text := fun truth => truth.elim noYes noNo
          split
          · next number reads => exact ⟨_, rfl, .integer noTruth reads⟩
          · next noInteger =>
              split
              · next number reads => exact ⟨_, rfl, .real noTruth noInteger reads⟩
              · next noReal => exact ⟨_, rfl, .verbatim noTruth noInteger noReal⟩

/-- A value of a variable is never missing, a list or a table, and it has one text. -/
theorem text?_ofVariable_iff : (ofVariable text).text? = some taken ↔ Respelled text taken := by
  constructor
  · intro same
    obtain ⟨other, found, respelled⟩ := exists_respelled text
    obtain rfl : taken = other := Option.some.inj (same.symm.trans found)
    exact respelled
  · intro respelled
    have numeric (noTruth : ¬ IsTruthWord text) : ofVariable text =
        (writtenInteger? text).elim ((NumberReader.real? text).elim (.text text) .real)
          .integer := by
      unfold ofVariable writtenInteger?
      dsimp only
      rw [if_neg fun word => noTruth (.inl word), if_neg fun word => noTruth (.inr word)]
      cases (NumberReader.integer? text).filter isInteger with
      | some value => rfl
      | none => cases NumberReader.real? text <;> rfl
    cases respelled with
    | yes word =>
        unfold ofVariable
        dsimp only
        rw [if_pos word]
        rfl
    | no word =>
        have noYes : lowerString text ≠ "true" := by
          rw [word]
          decide
        unfold ofVariable
        dsimp only
        rw [if_neg noYes, if_pos word]
        rfl
    | integer noTruth reads =>
        rw [numeric noTruth, reads]
        rfl
    | real noTruth noInteger reads =>
        rw [numeric noTruth, noInteger, reads]
        rfl
    | verbatim noTruth noInteger noReal =>
        rw [numeric noTruth, noInteger, noReal]
        rfl

/-- The text of an integer stands for no truth value. -/
theorem not_isTruthWord_toString (number : Int) : ¬ IsTruthWord (toString number) := by
  have small : ∀ c ∈ (toString number).toList, c.val < 128 ∧ c.isUpper = false := by
    intro c mem
    rw [NumberReader.toList_toString, List.mem_append] at mem
    rcases mem with sign | digit
    · split at sign
      · obtain rfl := List.mem_singleton.mp sign
        decide
      · cases sign
    · have place := toNat_of_isDigit (Nat.isDigit_of_mem_toDigits (by decide) (by decide) digit)
      refine ⟨UInt32.lt_iff_toNat_lt.mpr (Nat.lt_of_le_of_lt place.2 (by decide)), ?_⟩
      refine eq_false_of_ne_true fun upper => ?_
      have letter := isUpper_iff.mp upper
      omega
  have lowered : lowerString (toString number) = toString number := by
    unfold lowerString
    rw [lower_of_small small, String.ofList_toList]
  have reads := NumberReader.integer?_toString number
  have words : NumberReader.integer? "true" = none ∧ NumberReader.integer? "false" = none := by
    decide
  unfold IsTruthWord
  rw [lowered]
  rintro (word | word)
  · rw [word, words.1] at reads
    cases reads
  · rw [word, words.2] at reads
    cases reads

theorem writtenInteger?_toString {number : Int} (fits : isInteger number = true) :
    writtenInteger? (toString number) = some number := by
  unfold writtenInteger?
  rw [NumberReader.integer?_toString, Option.filter_some, if_pos fits]

theorem keepsSpelling_iff : KeepsSpelling text ↔ Respelled text text := by
  constructor
  · intro keeps
    cases keeps with
    | yes => exact .yes (by decide +kernel)
    | no => exact .no (by decide +kernel)
    | integer fits =>
        exact .integer (not_isTruthWord_toString _) (writtenInteger?_toString fits)
    | real noTruth noInteger reads => exact .real noTruth noInteger reads
    | verbatim noTruth noInteger noReal => exact .verbatim noTruth noInteger noReal
  · intro respelled
    generalize same : text = taken at respelled
    cases respelled with
    | yes word => exact .yes
    | no word => exact .no
    | integer noTruth reads => exact .integer (Option.filter_eq_some_iff.mp reads).2
    | real noTruth noInteger reads =>
        subst same
        exact .real noTruth noInteger reads
    | verbatim noTruth noInteger noReal => exact .verbatim noTruth noInteger noReal

/-- A text with a character that stands in no number is kept, unless it stands for a truth value. -/
theorem keepsSpelling_of_foreign (noTruth : ¬ IsTruthWord text) (mem : c ∈ text.toList)
    (foreign : NumberReader.isNumberChar c = false) : KeepsSpelling text := by
  have noInteger : writtenInteger? text = none := by
    refine Option.eq_none_iff_forall_ne_some.mpr fun number reads => ?_
    have known :=
      NumberReader.isNumberChar_of_integer? (Option.filter_eq_some_iff.mp reads).1 c mem
    rw [foreign] at known
    cases known
  have noReal : NumberReader.real? text = none := by
    refine Option.eq_none_iff_forall_ne_some.mpr fun number reads => ?_
    have known := NumberReader.isNumberChar_of_real? reads c mem
    rw [foreign] at known
    cases known
  exact .verbatim noTruth noInteger noReal

end SettingValue

end PromScribe

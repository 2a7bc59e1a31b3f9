import PromScribe.Proofs.Text.Digits
import PromScribe.Proofs.Text.Blank
import PromScribe.Time.SpanReader

/-!
# Reading numbers with units

Digits and letters behind them are read as one group. What it is worth is added when the next group
begins or the text ends, if the number and its seconds have no more than 64 bits.
-/

namespace PromScribe.SpanReader

open PromScribe.Text

variable {digits letters rest : List Char} {reading : Reading} {unit : SpanUnit}
variable {total sum number offset nanoseconds : Nat}

/-- The number that the digits go on with. -/
def numeric (number : Nat) (digits : List Char) : Nat :=
  digits.foldl (fun number c => number * 10 + digitValue c) number

/-- A number does not get smaller with more digits. -/
theorem le_numeric (number : Nat) (digits : List Char) : number ≤ numeric number digits := by
  induction digits generalizing number with
  | nil => exact Nat.le_refl number
  | cons c digits ih =>
      have more : number * 10 + digitValue c ≤ numeric number (c :: digits) := ih _
      omega

theorem bounded_of_lt (fits : number < Nat.pow 2 64) : bounded number = .ok number :=
  if_pos fits

/-- Digits go on with the number, which stays within 64 bits if it does in the end. -/
theorem readFrom_digits (all : ∀ c ∈ digits, c.isDigit = true)
    (fits : numeric number digits < Nat.pow 2 64) :
    readFrom total (.whole number) offset (digits ++ rest) =
      readFrom total (.whole (numeric number digits)) (offset + byteLength digits) rest := by
  induction digits generalizing number offset with
  | nil => rfl
  | cons c digits ih =>
      have digit := all c List.mem_cons_self
      have within : number * 10 + digitValue c < Nat.pow 2 64 :=
        Nat.lt_of_le_of_lt (le_numeric _ digits) fits
      have taken : advance total offset c (.whole number) =
          .ok (total, .whole (number * 10 + digitValue c)) := by
        simp only [advance, digit, if_true, bounded_of_lt within]
        rfl
      have more : readFrom total (.whole (number * 10 + digitValue c)) (offset + c.utf8Size)
          (digits ++ rest) = _ := ih (fun d mem => all d (List.mem_cons_of_mem c mem)) fits
      rw [List.cons_append, readFrom, taken]
      dsimp only
      rw [more, Nat.add_assoc]
      rfl

/-- No digit is part of a unit. -/
theorem isUnitLetter_of_isDigit {c : Char} (digit : c.isDigit = true) :
    isUnitLetter c = false := by
  have apart : c ≠ 'µ' := by
    rintro rfl
    cases digit
  simp [isUnitLetter, isAlpha_of_isDigit digit, apart]

/-- A letter of a unit is neither a digit nor blank. -/
structure IsLetter (c : Char) : Prop where
  unit : isUnitLetter c = true
  noDigit : c.isDigit = false
  noBlank : isBlank c = false

instance (c : Char) : Decidable (IsLetter c) :=
  decidable_of_iff (isUnitLetter c = true ∧ c.isDigit = false ∧ isBlank c = false)
    ⟨fun ⟨unit, noDigit, noBlank⟩ => ⟨unit, noDigit, noBlank⟩,
      fun ⟨unit, noDigit, noBlank⟩ => ⟨unit, noDigit, noBlank⟩⟩

theorem isLetter_of_all (all : letters.all (fun c => decide (IsLetter c)) = true) :
    ∀ c ∈ letters, IsLetter c :=
  fun c mem => of_decide_eq_true (List.all_eq_true.mp all c mem)

/-- Letters go on with the unit. -/
theorem readFrom_letters {fraction : Option Fraction} {read : List Char}
    (all : ∀ c ∈ letters, IsLetter c) :
    readFrom total (.unit number fraction read) offset (letters ++ rest) =
      readFrom total (.unit number fraction (letters.reverse ++ read))
        (offset + byteLength letters) rest := by
  induction letters generalizing read offset with
  | nil => rfl
  | cons c letters ih =>
      have taken : advance total offset c (.unit number fraction read) =
          .ok (total, .unit number fraction (c :: read)) := by
        simp [advance, (all c List.mem_cons_self).unit, pure, Except.pure]
      have more : readFrom total (.unit number fraction (c :: read)) (offset + c.utf8Size)
          (letters ++ rest) = _ := ih fun d mem => all d (List.mem_cons_of_mem c mem)
      rw [List.cons_append, readFrom, taken]
      dsimp only
      rw [more, Nat.add_assoc, List.reverse_cons, List.append_assoc]
      rfl

/-- A group may begin, and what is before it comes to the sum. -/
inductive Pending : Nat → Reading → Nat → Prop where
  | start {total since : Nat} : Pending total (.start since) total
  | unit {total number sum : Nat} {read : List Char}
      (adds : addGroup total number none (String.ofList read.reverse) = .ok sum) :
      Pending total (.unit number none read) sum

/-- The text may end where a group may begin. -/
theorem Pending.finish_eq (pending : Pending total reading sum) :
    finish total reading = .ok sum := by
  cases pending with
  | start => rfl
  | unit adds => exact adds

/-- The first digit of a group adds what is before it. -/
theorem Pending.advance_eq {c : Char} (pending : Pending total reading sum)
    (digit : c.isDigit = true) :
    advance total offset c reading = .ok (sum, .whole (digitValue c)) := by
  cases pending with
  | start => simp [advance, digit, pure, Except.pure]
  | unit adds =>
      simp only [advance, isUnitLetter_of_isDigit digit, digit, adds]
      rfl

/-- A group is read on top of what is before it. -/
theorem Pending.readFrom_group (pending : Pending total reading sum) (nonempty : digits ≠ [])
    (all : ∀ c ∈ digits, c.isDigit = true) (fits : numeric 0 digits < Nat.pow 2 64)
    (named : letters ≠ []) (spelled : ∀ c ∈ letters, IsLetter c) :
    readFrom total reading offset (digits ++ (letters ++ rest)) =
      readFrom sum (.unit (numeric 0 digits) none letters.reverse)
        (offset + byteLength digits + byteLength letters) rest := by
  cases digits with
  | nil => exact absurd rfl nonempty
  | cons c digits =>
      cases letters with
      | nil => exact absurd rfl named
      | cons letter letters =>
          have later : ∀ d ∈ digits, d.isDigit = true := fun d mem =>
            all d (List.mem_cons_of_mem c mem)
          have behind : ∀ d ∈ letters, IsLetter d := fun d mem =>
            spelled d (List.mem_cons_of_mem letter mem)
          obtain ⟨isUnit, noDigit, noBlank⟩ := spelled letter List.mem_cons_self
          have same : numeric 0 (c :: digits) = numeric (digitValue c) digits := by simp [numeric]
          rw [same] at fits ⊢
          have turned (place : Nat) :
              advance sum place letter (.whole (numeric (digitValue c) digits)) =
                .ok (sum, .unit (numeric (digitValue c) digits) none [letter]) := by
            simp [advance, isUnit, noDigit, noBlank, pure, Except.pure]
          rw [List.cons_append, readFrom, pending.advance_eq (all c List.mem_cons_self)]
          dsimp only
          rw [readFrom_digits later fits, List.cons_append, readFrom, turned]
          dsimp only
          rw [readFrom_letters behind, List.reverse_cons]
          congr 1
          simp only [byteLength]
          omega

/-- Whole seconds are added as nanoseconds. -/
theorem plusSeconds_eq (fits : total / 1000000000 + number < Nat.pow 2 64) :
    plusSeconds total number = .ok (total + number * 1000000000) := by
  unfold plusSeconds
  rw [bounded_of_lt fits]
  rfl

/-- The unit is of so many seconds. -/
def SpanUnit.HasSeconds (unit : SpanUnit) (size : Nat) : Prop :=
  unit = .seconds size ∨ unit = .minutes ∧ size = 60

theorem addWhole_seconds {size : Nat} (counts : unit.HasSeconds size)
    (fits : total / 1000000000 + number * size < Nat.pow 2 64) :
    addWhole total number unit = .ok (total + number * size * 1000000000) := by
  have within : number * size < Nat.pow 2 64 := Nat.lt_of_le_of_lt (Nat.le_add_left _ _) fits
  rcases counts with rfl | ⟨rfl, rfl⟩
  · simp only [addWhole, bounded_of_lt within]
    exact plusSeconds_eq fits
  · simp only [addWhole, bounded_of_lt within]
    exact plusSeconds_eq fits

theorem plusNanoseconds_eq {amount : Nat}
    (carried : total % 1000000000 + amount < Nat.pow 2 64)
    (fits : (total + amount) / 1000000000 < Nat.pow 2 64) :
    plusNanoseconds total amount = .ok (total + amount) := by
  unfold plusNanoseconds
  rw [bounded_of_lt carried, bounded_of_lt fits]
  rfl

theorem addWhole_nanoseconds {size : Nat} (within : number * size < Nat.pow 2 64)
    (carried : total % 1000000000 + number * size < Nat.pow 2 64)
    (fits : (total + number * size) / 1000000000 < Nat.pow 2 64) :
    addWhole total number (.nanoseconds size) = .ok (total + number * size) := by
  simp only [addWhole, bounded_of_lt within]
  exact plusNanoseconds_eq carried fits

/-- Milliseconds that do not fill a second are added as nanoseconds. -/
theorem addWhole_millis (few : number < 1000)
    (fits : (total + number * 1000000) / 1000000000 < Nat.pow 2 64) :
    addWhole total number (.nanoseconds 1000000) = .ok (total + number * 1000000) := by
  have limit : 2000000000 ≤ Nat.pow 2 64 := by decide
  exact addWhole_nanoseconds (by omega) (by omega) fits

/-- A group with a known unit adds what it is worth. -/
theorem addGroup_eq {spelling : String} (full : spelling ≠ "")
    (known : unitOf? spelling = some unit)
    (adds : addWhole total number unit = .ok sum) :
    addGroup total number none spelling = .ok sum := by
  unfold addGroup
  rw [if_neg (by simpa using full), known]
  dsimp only
  rw [adds]
  rfl

/-- Unbroken characters that are worth something are that span. -/
theorem readChars_eq {text : List Char} (unbroken : ∀ c ∈ text, isBlank c = false)
    (read : readFrom 0 (.start 0) 0 text = .ok nanoseconds) (positive : nanoseconds ≠ 0) :
    TimeSpan.readChars text = .ok ⟨nanoseconds⟩ := by
  unfold TimeSpan.readChars
  rw [trim_eq_self unbroken]
  split
  · next =>
      cases read
      exact absurd rfl positive
  · next => cases read
  · next c rest _ _ =>
      rw [read]
      split
      · next failed => cases failed
      · next zero => exact absurd (Except.ok.inj zero) positive
      · next counted =>
          cases counted
          rfl

/-- Digits and the letters of a unit are that many units. -/
theorem readChars_group (nonempty : digits ≠ []) (all : ∀ c ∈ digits, c.isDigit = true)
    (fits : numeric 0 digits < Nat.pow 2 64) (named : letters ≠ [])
    (spelled : ∀ c ∈ letters, IsLetter c)
    (adds : addGroup 0 (numeric 0 digits) none (String.ofList letters) = .ok nanoseconds)
    (positive : nanoseconds ≠ 0) :
    TimeSpan.readChars (digits ++ letters) = .ok ⟨nanoseconds⟩ := by
  have unbroken : ∀ c ∈ digits ++ letters, isBlank c = false := fun c mem => by
    rcases List.mem_append.mp mem with digit | letter
    · exact isBlank_of_isDigit (all c digit)
    · exact (spelled c letter).noBlank
  have begins : Pending 0 (.start 0) 0 := .start
  have ends : Pending 0 (.unit (numeric 0 digits) none letters.reverse) nanoseconds := by
    refine .unit ?_
    rwa [List.reverse_reverse]
  refine readChars_eq unbroken ?_ positive
  rw [← List.append_nil letters, begins.readFrom_group nonempty all fits named spelled]
  exact ends.finish_eq

end PromScribe.SpanReader

import PromScribe.Proofs.Time.Advance

/-!
# The range of spans that are read

Every sum that is taken while a span is read has at most 64 bits of seconds, so what is read is
within the supported range, and has a length.
-/

namespace PromScribe

namespace SpanReader

variable {total sum number offset : Nat} {reading : Reading} {unit : SpanUnit}
variable {fraction : Fraction}

/-- The nanoseconds have at most 64 bits of seconds. -/
def Supported (nanoseconds : Nat) : Prop := nanoseconds / 1000000000 < Nat.pow 2 64

theorem eq_of_bounded {bound : Nat} (fits : bounded number = .ok bound) :
    bound = number ∧ number < Nat.pow 2 64 := by
  unfold bounded at fits
  split at fits
  · next small =>
      cases fits
      exact ⟨rfl, small⟩
  · cases fits

theorem supported_plusNanoseconds {amount : Nat} (adds : plusNanoseconds total amount = .ok sum) :
    Supported sum := by
  unfold plusNanoseconds at adds
  obtain ⟨_, -, rest⟩ := exists_of_bind adds
  obtain ⟨_, fits, made⟩ := exists_of_bind rest
  cases made
  exact (eq_of_bounded fits).2

theorem supported_plusSeconds {amount : Nat} (adds : plusSeconds total amount = .ok sum) :
    Supported sum := by
  unfold plusSeconds at adds
  obtain ⟨_, fits, made⟩ := exists_of_bind adds
  cases made
  have small := (eq_of_bounded fits).2
  unfold Supported
  rwa [Nat.add_mul_div_right _ _ (by decide)]

theorem supported_addWhole (adds : addWhole total number unit = .ok sum) : Supported sum := by
  cases unit with
  | nanoseconds size =>
      obtain ⟨_, -, rest⟩ := exists_of_bind adds
      exact supported_plusNanoseconds rest
  | minutes =>
      obtain ⟨_, -, rest⟩ := exists_of_bind adds
      exact supported_plusSeconds rest
  | seconds size =>
      obtain ⟨_, -, rest⟩ := exists_of_bind adds
      exact supported_plusSeconds rest

theorem supported_addFraction (adds : addFraction total fraction unit = .ok sum) :
    Supported sum := by
  unfold addFraction at adds
  split at adds
  · cases adds
  · obtain ⟨_, -, rest⟩ := exists_of_bind adds
    exact supported_plusNanoseconds rest
  · obtain ⟨_, -, rest⟩ := exists_of_bind adds
    exact supported_plusNanoseconds rest
  · obtain ⟨_, -, rest⟩ := exists_of_bind adds
    exact supported_plusNanoseconds rest
  · obtain ⟨_, -, rest⟩ := exists_of_bind adds
    exact supported_plusSeconds rest

theorem supported_addGroup {fraction : Option Fraction} {spelling : String}
    (adds : addGroup total number fraction spelling = .ok sum) : Supported sum := by
  unfold addGroup at adds
  split at adds
  · cases adds
  · split at adds
    · cases adds
    · obtain ⟨whole, added, rest⟩ := exists_of_bind adds
      cases fraction with
      | none =>
          cases rest
          exact supported_addWhole added
      | some fraction => exact supported_addFraction rest

theorem supported_finish (within : Supported total) (reads : finish total reading = .ok sum) :
    Supported sum := by
  cases reading with
  | start since =>
      cases reads
      exact within
  | whole number => cases reads
  | fraction number fraction since =>
      simp only [finish] at reads
      split at reads
      · cases reads
      · exact supported_addGroup reads
  | unit number fraction letters => exact supported_addGroup reads

/-- Whatever is read on stays within the range. -/
theorem supported_readFrom {text : List Char} (within : Supported total)
    (reads : readFrom total reading offset text = .ok sum) : Supported sum := by
  have steps : ∀ c ∈ text, ∀ ⦃total reading sum next⦄, Supported total →
      Advances c total reading sum next → Supported sum := by
    intro c _ total reading sum next within advances
    cases advances with
    | group adds => exact supported_addGroup adds
    | _ => exact within
  obtain ⟨last, final, kept, ended⟩ := exists_finish steps within reads
  exact supported_finish kept ended

end SpanReader

namespace TimeSpan

variable {text : String} {span : TimeSpan}

/-- What is read as a span is within the supported range. -/
theorem seconds_lt_of_read (read : TimeSpan.read text = .ok span) :
    span.seconds < Nat.pow 2 64 := by
  unfold TimeSpan.read at read
  cases outcome : readChars text.toList with
  | error reason =>
      rw [outcome] at read
      cases read
  | ok found =>
      rw [outcome] at read
      cases read
      unfold readChars at outcome
      split at outcome
      · cases outcome
      · cases outcome
      · split at outcome
        · cases outcome
        · cases outcome
        · next nanoseconds _ reads =>
            cases outcome
            exact SpanReader.supported_readFrom (by unfold SpanReader.Supported; decide) reads

end TimeSpan

end PromScribe

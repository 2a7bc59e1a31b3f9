import PromScribe.Time.SpanReader

/-!
# Steps of reading spans

What one more character does to what is being read, and from it what a whole text does.
-/

namespace PromScribe.SpanReader

open Text

variable {total sum number offset : Nat} {reading next : Reading} {c : Char}

/-- The first step of a reading succeeds if the reading does. -/
theorem exists_of_bind {α β : Type} {first : Except SpanReason α}
    {rest : α → Except SpanReason β} {result : β} (reads : (first >>= rest) = .ok result) :
    ∃ value, first = .ok value ∧ rest value = .ok result := by
  cases first with
  | ok value => exact ⟨value, rfl, reads⟩
  | error reason => cases reads

/-- What one more character makes of the total and of what is being read: a digit goes on with a
number, a blank is passed over, a letter goes on with a unit. What follows a unit adds its group. -/
inductive Advances (c : Char) : Nat → Reading → Nat → Reading → Prop where
  | begins {total since : Nat} : Advances c total (.start since) total (.whole (digitValue c))
  | waits {total since : Nat} : Advances c total (.start since) total (.start since)
  | digit {total number more : Nat} : Advances c total (.whole number) total (.whole more)
  | blank {total number : Nat} : Advances c total (.whole number) total (.whole number)
  | letter {total number : Nat} (letter : isUnitLetter c = true) :
      Advances c total (.whole number) total (.unit number none [c])
  | point {total number offset : Nat} (point : c = '.') :
      Advances c total (.whole number) total (.fraction number ⟨0, 1⟩ offset)
  | decimal {total number since later : Nat} {fraction more : Fraction} :
      Advances c total (.fraction number fraction since) total (.fraction number more later)
  | decimalLetter {total number since : Nat} {fraction : Fraction}
      (letter : isUnitLetter c = true) :
      Advances c total (.fraction number fraction since) total (.unit number (some fraction) [c])
  | more {total number : Nat} {fraction : Option Fraction} {letters : List Char}
      (letter : isUnitLetter c = true) :
      Advances c total (.unit number fraction letters) total (.unit number fraction (c :: letters))
  | group {total sum number : Nat} {fraction : Option Fraction} {letters : List Char}
      {next : Reading}
      (adds : addGroup total number fraction (String.ofList letters.reverse) = .ok sum)
      (fresh : next = .whole (digitValue c) ∨ ∃ since, next = .start since) :
      Advances c total (.unit number fraction letters) sum next

theorem advances_of_advance (reads : advance total offset c reading = .ok (sum, next)) :
    Advances c total reading sum next := by
  cases reading with
  | start since =>
      simp only [advance] at reads
      split at reads
      · cases reads
        exact .begins
      · split at reads <;> cases reads
        exact .waits
  | whole number =>
      simp only [advance] at reads
      split at reads
      · obtain ⟨more, -, made⟩ := exists_of_bind reads
        cases made
        exact .digit
      · split at reads
        · cases reads
          exact .blank
        · split at reads
          · next letter =>
              cases reads
              exact .letter letter
          · split at reads <;> cases reads
            next point => exact .point point
  | fraction number fraction since =>
      simp only [advance] at reads
      split at reads
      · obtain ⟨more, -, made⟩ := exists_of_bind reads
        cases made
        exact .decimal
      · split at reads
        · cases reads
          exact .decimal
        · split at reads <;> cases reads
          next letter => exact .decimalLetter (Bool.and_eq_true_iff.mp letter).1
  | unit number fraction letters =>
      simp only [advance] at reads
      split at reads
      · next letter =>
          cases reads
          exact .more letter
      · split at reads
        · obtain ⟨grown, adds, made⟩ := exists_of_bind reads
          cases made
          exact .group adds (.inl rfl)
        · split at reads
          · obtain ⟨grown, adds, made⟩ := exists_of_bind reads
            cases made
            exact .group adds (.inr ⟨_, rfl⟩)
          · cases reads

/-- What every step keeps holds until the text ends or a character is refused. -/
theorem readFrom_induction {holds : Nat → Reading → Prop} {text : List Char}
    {outcome : Except SpanReason Nat}
    (steps : ∀ c ∈ text, ∀ ⦃total reading sum next⦄, holds total reading →
      Advances c total reading sum next → holds sum next)
    (begins : holds total reading) (reads : readFrom total reading offset text = outcome) :
    ∃ last final, holds last final ∧
      (finish last final = outcome ∨
        ∃ offset c reason, advance last offset c final = .error reason ∧
          outcome = .error reason) := by
  induction text generalizing total reading offset with
  | nil => exact ⟨total, reading, begins, .inl reads⟩
  | cons c rest ih =>
      unfold readFrom at reads
      split at reads
      · next reason refused =>
          exact ⟨total, reading, begins, .inr ⟨_, c, reason, refused, reads.symm⟩⟩
      · next grown next advanced =>
          have kept := steps c List.mem_cons_self begins (advances_of_advance advanced)
          have later := fun d mem => steps d (List.mem_cons_of_mem c mem)
          exact ih later kept reads

/-- A text that is read ends in what every step keeps. -/
theorem exists_finish {holds : Nat → Reading → Prop} {text : List Char}
    (steps : ∀ c ∈ text, ∀ ⦃total reading sum next⦄, holds total reading →
      Advances c total reading sum next → holds sum next)
    (begins : holds total reading) (reads : readFrom total reading offset text = .ok sum) :
    ∃ last final, holds last final ∧ finish last final = .ok sum := by
  obtain ⟨last, final, kept, ended | ⟨_, _, _, _, refused⟩⟩ := readFrom_induction steps begins reads
  · exact ⟨last, final, kept, ended⟩
  · cases refused

end PromScribe.SpanReader

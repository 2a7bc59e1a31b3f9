import PromScribe.Proofs.Text.Blank
import PromScribe.Proofs.Time.Supported

/-!
# Spans in coarse units

A text without fractions whose units have no letters but those of the compact ones is read as a
whole number of milliseconds.
-/

namespace PromScribe

namespace SpanReader

variable {total sum number offset : Nat} {reading next : Reading} {unit : SpanUnit} {c : Char}

/-- The letters of compact units. -/
def coarseLetters : List Char := ['s', 'm', 'h', 'd', 'w']

/-- The character begins no fraction, and belongs to no unit but a compact one. -/
def IsCoarse (c : Char) : Prop := c ≠ '.' ∧ (isUnitLetter c = true → c ∈ coarseLetters)

instance (c : Char) : Decidable (IsCoarse c) :=
  inferInstanceAs (Decidable (_ ∧ _))

/-- The unit is a whole number of milliseconds. -/
def SpanUnit.isCoarse : SpanUnit → Bool
  | .nanoseconds size => size % 1000000 == 0
  | .minutes | .seconds _ => true

/-- What is being read has no fraction, and its unit has only letters of compact ones. -/
def Reading.Coarse : Reading → Prop
  | .start _ | .whole _ => True
  | .fraction .. => False
  | .unit _ tenths letters => tenths = none ∧ ∀ c ∈ letters, c ∈ coarseLetters

theorem isCoarse_of_unitOf {letters : List Char} (coarse : ∀ c ∈ letters, c ∈ coarseLetters)
    (known : unitOf? (String.ofList letters) = some unit) : unit.isCoarse = true := by
  have all : ∀ row ∈ unitSpellings, ∀ spelling ∈ row.1,
      spelling.toList.all coarseLetters.contains = true → row.2.isCoarse = true := by decide
  obtain ⟨row, found, rfl⟩ := Option.map_eq_some_iff.mp known
  have spelled := List.find?_some found
  refine all row (List.mem_of_find?_eq_some found) _ (List.contains_iff_mem.mp spelled) ?_
  rw [String.toList_ofList]
  exact List.all_eq_true.mpr fun c mem => List.contains_iff_mem.mpr (coarse c mem)

theorem mod_of_plusSeconds {amount : Nat} (whole : total % 1000000 = 0)
    (adds : plusSeconds total amount = .ok sum) : sum % 1000000 = 0 := by
  unfold plusSeconds at adds
  obtain ⟨_, -, made⟩ := exists_of_bind adds
  cases made
  omega

theorem mod_of_addWhole (coarse : unit.isCoarse = true) (whole : total % 1000000 = 0)
    (adds : addWhole total number unit = .ok sum) : sum % 1000000 = 0 := by
  cases unit with
  | nanoseconds size =>
      obtain ⟨_, fits, rest⟩ := exists_of_bind adds
      obtain ⟨rfl, -⟩ := eq_of_bounded fits
      unfold plusNanoseconds at rest
      obtain ⟨_, -, rest⟩ := exists_of_bind rest
      obtain ⟨_, -, made⟩ := exists_of_bind rest
      cases made
      have unitWhole : size % 1000000 = 0 := beq_iff_eq.mp coarse
      rw [Nat.add_mod, whole, Nat.mul_mod, unitWhole]
      rfl
  | minutes =>
      obtain ⟨_, -, rest⟩ := exists_of_bind adds
      exact mod_of_plusSeconds whole rest
  | seconds size =>
      obtain ⟨_, -, rest⟩ := exists_of_bind adds
      exact mod_of_plusSeconds whole rest

/-- A group in a compact unit adds milliseconds. -/
theorem mod_of_addGroup {letters : List Char} (coarse : ∀ c ∈ letters, c ∈ coarseLetters)
    (whole : total % 1000000 = 0)
    (adds : addGroup total number none (String.ofList letters.reverse) = .ok sum) :
    sum % 1000000 = 0 := by
  unfold addGroup at adds
  split at adds
  · cases adds
  · split at adds
    · cases adds
    · next unit known =>
        obtain ⟨_, added, made⟩ := exists_of_bind adds
        cases made
        have spelled : ∀ c ∈ letters.reverse, c ∈ coarseLetters := fun c mem =>
          coarse c (List.mem_reverse.mp mem)
        exact mod_of_addWhole (isCoarse_of_unitOf spelled known) whole added

/-- The total is a whole number of milliseconds, and what is being read is coarse. -/
def CoarseSoFar (total : Nat) (reading : Reading) : Prop :=
  total % 1000000 = 0 ∧ reading.Coarse

/-- One more such character keeps the total whole and the reading coarse. -/
theorem coarse_step (coarse : IsCoarse c) (so : CoarseSoFar total reading)
    (advances : Advances c total reading sum next) : CoarseSoFar sum next := by
  obtain ⟨whole, so⟩ := so
  cases advances with
  | begins => exact ⟨whole, trivial⟩
  | waits => exact ⟨whole, trivial⟩
  | digit => exact ⟨whole, trivial⟩
  | blank => exact ⟨whole, trivial⟩
  | letter letter =>
      refine ⟨whole, rfl, fun d mem => ?_⟩
      rw [List.mem_singleton.mp mem]
      exact coarse.2 letter
  | point point => exact absurd point coarse.1
  | decimal => exact so.elim
  | decimalLetter => exact so.elim
  | more letter =>
      refine ⟨whole, so.1, fun d mem => ?_⟩
      rcases List.mem_cons.mp mem with rfl | earlier
      · exact coarse.2 letter
      · exact so.2 d earlier
  | group adds fresh =>
      obtain ⟨rfl, spelled⟩ := so
      refine ⟨mod_of_addGroup spelled whole adds, ?_⟩
      rcases fresh with rfl | ⟨since, rfl⟩
      · trivial
      · trivial

theorem coarse_finish (so : CoarseSoFar total reading) (reads : finish total reading = .ok sum) :
    sum % 1000000 = 0 := by
  obtain ⟨whole, so⟩ := so
  cases reading with
  | start since =>
      cases reads
      exact whole
  | whole number => cases reads
  | fraction number fraction since => exact so.elim
  | unit number fraction letters =>
      obtain ⟨rfl, spelled⟩ := so
      exact mod_of_addGroup spelled whole reads

/-- A coarse text comes to whole milliseconds. -/
theorem coarse_readFrom {text : List Char} (all : ∀ c ∈ text, IsCoarse c)
    (so : CoarseSoFar total reading) (reads : readFrom total reading offset text = .ok sum) :
    sum % 1000000 = 0 := by
  obtain ⟨last, final, kept, ended⟩ := exists_finish
    (fun c mem _ _ _ _ so advances => coarse_step (all c mem) so advances) so reads
  exact coarse_finish kept ended

end SpanReader

namespace TimeSpan

open SpanReader

variable {text : String} {span : TimeSpan}

/-- A coarse text is read as at least one millisecond. -/
theorem one_le_millis_of_read (coarse : ∀ c ∈ text.toList, IsCoarse c)
    (read : TimeSpan.read text = .ok span) : 1 ≤ span.millis := by
  unfold TimeSpan.read at read
  cases outcome : readChars text.toList with
  | error reason =>
      rw [outcome] at read
      cases read
  | ok found =>
      rw [outcome] at read
      cases read
      unfold readChars at outcome
      have kept : ∀ c ∈ Text.trim text.toList, IsCoarse c := fun c mem =>
        coarse c (Text.trim_subset mem)
      split at outcome
      · cases outcome
      · cases outcome
      · next trimmed =>
          rw [trimmed] at kept
          split at outcome
          · cases outcome
          · cases outcome
          · next nanoseconds positive reads =>
              cases outcome
              have begins : CoarseSoFar 0 (.start 0) := ⟨rfl, trivial⟩
              have whole := coarse_readFrom kept begins reads
              have long : nanoseconds ≠ 0 := positive
              unfold millis
              dsimp only
              omega

end TimeSpan

end PromScribe

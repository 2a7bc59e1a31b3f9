import PromScribe.Proofs.Time.SpanReader

/-!
# The query form of spans

What is written in units, each with its count, is read back: group after group adds what was taken
from the rest.
-/

namespace PromScribe

open Text

namespace SpanReader

variable {suffix : String} {size bound seconds : Nat} {units : List (String × Nat)}
variable {unit : SpanUnit}

/-- Fewer milliseconds than the bound may be counted in the unit of so many of them, on top of what
is there, within the supported range. -/
structure IsUnit (suffix : String) (size bound : Nat) : Prop where
  named : suffix.toList ≠ []
  spelled : ∀ c ∈ suffix.toList, IsLetter c
  adds : ∀ total number : Nat, number * size < bound →
    (total + number * size * 1000000) / 1000000000 < Nat.pow 2 64 →
      number < Nat.pow 2 64 ∧
        addGroup total number none suffix = .ok (total + number * size * 1000000)

/-- What is written in the units is read on top of what is before it. -/
def ReadsBack (units : List (String × Nat)) (bound : Nat) : Prop :=
  ∀ ⦃total sum : Nat⦄ ⦃reading : Reading⦄ (millis offset : Nat), millis < bound →
    Pending total reading sum → (sum + millis * 1000000) / 1000000000 < Nat.pow 2 64 →
      readFrom total reading offset (TimeSpan.writeUnits units millis) =
        .ok (sum + millis * 1000000)

theorem numeric_eq (digits : List Char) : numeric 0 digits = Nat.ofDigitChars 10 digits 0 := by
  rw [Nat.ofDigitChars_eq_foldl]
  simp only [numeric, digitValue, Nat.mul_comm]

theorem numeric_toDigits (number : Nat) : numeric 0 (Nat.toDigits 10 number) = number := by
  rw [numeric_eq, Nat.ofDigitChars_ten_toDigits]

theorem isDigit_of_mem_toDigits (number : Nat) : ∀ c ∈ Nat.toDigits 10 number, c.isDigit = true :=
  fun _ mem => Nat.isDigit_of_mem_toDigits (by decide) (by decide) mem

theorem readsBack_nil : ReadsBack [] 1 := by
  intro total sum reading millis offset few pending fits
  obtain rfl : millis = 0 := by omega
  rw [Nat.zero_mul, Nat.add_zero]
  exact pending.finish_eq

/-- A larger unit is written in front of the units of what is below it. -/
theorem ReadsBack.cons (unit : IsUnit suffix size bound) (positive : 0 < size)
    (below : ReadsBack units size) : ReadsBack ((suffix, size) :: units) bound := by
  intro total sum reading millis offset few pending fits
  have taken : millis / size * size ≤ millis := Nat.div_mul_le_self millis size
  have left : millis - millis / size * size < size := by
    rw [← Nat.mod_eq_sub_div_mul]
    exact Nat.mod_lt millis positive
  unfold TimeSpan.writeUnits
  dsimp only
  generalize millis / size = count at taken left ⊢
  -- A unit that is not used is not written, so the pending group stays the one before it.
  by_cases unused : count = 0
  · rw [unused, Nat.zero_mul, Nat.sub_zero] at left
    rw [if_pos unused, unused, Nat.zero_mul, Nat.sub_zero, List.nil_append]
    exact below millis offset left pending fits
  · have part : sum + count * size * 1000000 ≤ sum + millis * 1000000 := by omega
    have within : (sum + count * size * 1000000) / 1000000000 < Nat.pow 2 64 :=
      Nat.lt_of_le_of_lt (Nat.div_le_div_right part) fits
    obtain ⟨small, adds⟩ := unit.adds sum count (Nat.lt_of_le_of_lt taken few) within
    have next : Pending sum (.unit count none suffix.toList.reverse)
        (sum + count * size * 1000000) := by
      refine .unit ?_
      rwa [List.reverse_reverse, String.ofList_toList]
    have whole : sum + count * size * 1000000 + (millis - count * size) * 1000000 =
        sum + millis * 1000000 := by omega
    have number := numeric_toDigits count
    rw [← number] at small
    rw [← whole] at fits ⊢
    rw [if_neg unused, List.append_assoc, pending.readFrom_group Nat.toDigits_ne_nil
      (isDigit_of_mem_toDigits count) small unit.named unit.spelled, number]
    exact below _ _ left next fits

/-- Any number of milliseconds may be counted in a unit of whole seconds. -/
theorem isUnit_seconds (seconds : Nat) (named : suffix.toList ≠ [])
    (spelled : ∀ c ∈ suffix.toList, IsLetter c) (known : unitOf? suffix = some unit)
    (counts : unit.HasSeconds seconds) (positive : 0 < seconds) :
    IsUnit suffix (seconds * 1000) bound := by
  refine ⟨named, spelled, fun total number _ fits => ?_⟩
  have sizes : number * (seconds * 1000) = number * seconds * 1000 := (Nat.mul_assoc _ _ _).symm
  have most : number ≤ number * seconds := Nat.le_mul_of_pos_right number positive
  rw [sizes] at fits ⊢
  have within : total / 1000000000 + number * seconds < Nat.pow 2 64 := by omega
  have full : suffix ≠ "" := by
    rintro rfl
    exact named rfl
  refine ⟨by omega, addGroup_eq full known ?_⟩
  rw [addWhole_seconds counts within, Nat.mul_assoc (number * seconds)]

/-- Milliseconds that do not fill a second may be counted. -/
theorem isUnit_millis : IsUnit "ms" 1 1000 := by
  refine ⟨by decide, isLetter_of_all rfl, fun total number few fits => ?_⟩
  rw [Nat.mul_one] at few fits ⊢
  have limit : 1000 ≤ Nat.pow 2 64 := by decide
  exact ⟨by omega, addGroup_eq (by decide) rfl (addWhole_millis few fits)⟩

/-- Whatever is written in the units of the query form is read back. -/
theorem readsBack_queryUnits (bound : Nat) : ReadsBack TimeSpan.queryUnits bound := by
  have millis : ReadsBack [("ms", 1)] 1000 := readsBack_nil.cons isUnit_millis (by decide)
  have second : IsUnit "s" 1000 60000 :=
    isUnit_seconds 1 (by decide) (isLetter_of_all rfl) rfl (.inl rfl) (by decide)
  have minute : IsUnit "m" 60000 3600000 :=
    isUnit_seconds 60 (by decide) (isLetter_of_all rfl) rfl (.inr ⟨rfl, rfl⟩) (by decide)
  have hour : IsUnit "h" 3600000 86400000 :=
    isUnit_seconds 3600 (by decide) (isLetter_of_all rfl) rfl (.inl rfl) (by decide)
  have day : IsUnit "d" 86400000 bound :=
    isUnit_seconds 86400 (by decide) (isLetter_of_all rfl) rfl (.inl rfl) (by decide)
  have seconds := millis.cons second (by decide)
  have minutes := seconds.cons minute (by decide)
  have hours := minutes.cons hour (by decide)
  exact hours.cons day (by decide)

/-- What is written in units is digits and letters of the units. -/
theorem mem_writeUnits {c : Char} {millis : Nat} (mem : c ∈ TimeSpan.writeUnits units millis) :
    c.isDigit = true ∨ ∃ unit ∈ units, c ∈ unit.1.toList := by
  induction units generalizing millis with
  | nil => exact absurd mem List.not_mem_nil
  | cons unit units ih =>
      obtain ⟨suffix, size⟩ := unit
      rcases List.mem_append.mp mem with group | rest
      · by_cases unused : millis / size = 0
        · rw [if_pos unused] at group
          exact absurd group List.not_mem_nil
        · rw [if_neg unused] at group
          rcases List.mem_append.mp group with digit | letter
          · exact .inl (isDigit_of_mem_toDigits _ c digit)
          · exact .inr ⟨_, List.mem_cons_self, letter⟩
      · rcases ih rest with digit | ⟨unit, known, letter⟩
        · exact .inl digit
        · exact .inr ⟨unit, List.mem_cons_of_mem _ known, letter⟩

/-- What is written in units begins with a digit, if there is anything to write. -/
theorem head?_writeUnits (units : List (String × Nat)) (millis : Nat) :
    TimeSpan.writeUnits units millis = [] ∨
      (TimeSpan.writeUnits units millis).head?.any Char.isDigit = true := by
  induction units generalizing millis with
  | nil => exact .inl rfl
  | cons unit units ih =>
      obtain ⟨suffix, size⟩ := unit
      unfold TimeSpan.writeUnits
      dsimp only
      generalize millis / size = count
      by_cases unused : count = 0
      · rw [if_pos unused]
        exact ih _
      · rw [if_neg unused]
        right
        have digits := isDigit_of_mem_toDigits count
        cases split : Nat.toDigits 10 count with
        | nil => exact absurd split Nat.toDigits_ne_nil
        | cons c more =>
            rw [split] at digits
            exact digits c List.mem_cons_self

/-- What is less than one of each unit is all that is not written. -/
theorem div_eq_zero_of_writeUnits {millis : Nat} (nothing : TimeSpan.writeUnits units millis = []) :
    ∀ unit ∈ units, millis / unit.2 = 0 := by
  induction units with
  | nil => exact fun unit mem => absurd mem List.not_mem_nil
  | cons unit units ih =>
      obtain ⟨suffix, size⟩ := unit
      obtain ⟨group, rest⟩ := List.append_eq_nil_iff.mp nothing
      by_cases unused : millis / size = 0
      · rw [unused, Nat.zero_mul, Nat.sub_zero] at rest
        intro unit mem
        rcases List.mem_cons.mp mem with rfl | other
        · exact unused
        · exact ih rest unit other
      · rw [if_neg unused] at group
        exact absurd (List.append_eq_nil_iff.mp group).1 Nat.toDigits_ne_nil

end SpanReader

namespace TimeSpan

open SpanReader

variable {span : TimeSpan}

theorem mem_queryChars {c : Char} (mem : c ∈ span.queryChars) :
    c.isDigit = true ∨ c ∈ ['d', 'h', 'm', 's'] := by
  unfold queryChars at mem
  split at mem
  · rcases List.mem_cons.mp mem with rfl | last
    · exact .inl rfl
    · rw [List.mem_singleton.mp last]
      exact .inr (by decide)
  · have spelled : ∀ unit ∈ queryUnits,
        unit.1.toList.all ['d', 'h', 'm', 's'].contains = true := by decide
    rcases mem_writeUnits mem with digit | ⟨unit, known, letter⟩
    · exact .inl digit
    · exact .inr (List.contains_iff_mem.mp (List.all_eq_true.mp (spelled unit known) c letter))

theorem queryChars_ne_nil : span.queryChars ≠ [] := by
  unfold queryChars
  split
  · exact List.cons_ne_nil _ _
  · next long =>
      intro nothing
      have below := div_eq_zero_of_writeUnits nothing ("ms", 1) (by decide)
      exact long (by simpa using below)

theorem head?_queryChars : span.queryChars.head?.any Char.isDigit = true := by
  have something := span.queryChars_ne_nil
  unfold queryChars at something ⊢
  split
  · rfl
  · next long =>
      rw [if_neg long] at something
      exact (head?_writeUnits _ _).resolve_left something

theorem isBlank_queryChars : ∀ c ∈ span.queryChars, isBlank c = false := by
  have letters : ['d', 'h', 'm', 's'].any isBlank = false := by decide
  intro c mem
  rcases mem_queryChars mem with digit | letter
  · exact isBlank_of_isDigit digit
  · exact Bool.eq_false_iff.mpr (List.any_eq_false.mp letters c letter)

/-- The query form of a span of milliseconds within the supported range is read as the span, less
what is below a millisecond. -/
theorem read_queryText (positive : 1 ≤ span.millis) (within : span.seconds < Nat.pow 2 64) :
    TimeSpan.read span.queryText = .ok (.ofMillis span.millis) := by
  have whole : (0 + span.millis * 1000000) / 1000000000 < Nat.pow 2 64 := by
    unfold millis
    unfold seconds at within
    omega
  have begins : Pending 0 (.start 0) 0 := .start
  have read := readsBack_queryUnits (span.millis + 1) span.millis 0 (Nat.lt_succ_self _) begins whole
  have written : span.queryChars = writeUnits queryUnits span.millis :=
    if_neg (Nat.ne_of_gt positive)
  rw [← written] at read
  have chars : readChars span.queryChars = .ok (.ofMillis span.millis) := by
    rw [readChars_eq isBlank_queryChars read (by omega), Nat.zero_add]
    rfl
  unfold TimeSpan.read queryText
  rw [String.toList_ofList, chars]
  rfl

/-- Spans with the same query form have the same milliseconds. -/
theorem millis_eq_of_queryText {other : TimeSpan} (within : span.Representable)
    (also : other.Representable) (same : span.queryText = other.queryText) :
    span.millis = other.millis := by
  have limit : maxSeconds < Nat.pow 2 64 := by decide
  -- A span with milliseconds is read back; no time at all is not read.
  have long {span : TimeSpan} (within : span.Representable) (positive : 1 ≤ span.millis) :
      TimeSpan.read span.queryText = .ok (.ofMillis span.millis) :=
    read_queryText positive (Nat.lt_of_le_of_lt within limit)
  have short {span : TimeSpan} (none : span.millis = 0) (read : TimeSpan) :
      TimeSpan.read span.queryText ≠ .ok read := by
    rw [queryText, queryChars, if_pos none]
    exact fun outcome => by cases outcome
  rcases Nat.eq_zero_or_pos span.millis with none | positive
  · rcases Nat.eq_zero_or_pos other.millis with alsoNone | alsoPositive
    · rw [none, alsoNone]
    · exact absurd (long also alsoPositive) (same ▸ short none _)
  · rcases Nat.eq_zero_or_pos other.millis with alsoNone | alsoPositive
    · exact absurd (long within positive) (same ▸ short alsoNone _)
    · have read := long within positive
      rw [same, long also alsoPositive] at read
      have nanoseconds := congrArg TimeSpan.nanoseconds (Except.ok.inj read)
      exact (Nat.eq_of_mul_eq_mul_right (by decide) nanoseconds).symm

/-- The query form of whole seconds is read as them. -/
theorem read_queryText_ofSeconds {count : Nat} (positive : 1 ≤ count)
    (within : count < Nat.pow 2 64) :
    TimeSpan.read (ofSeconds count).queryText = .ok (ofSeconds count) := by
  have nanoseconds : (ofSeconds count).nanoseconds = count * 1000000000 := rfl
  have millis : (ofSeconds count).millis = count * 1000 := by
    unfold TimeSpan.millis
    omega
  have seconds : (ofSeconds count).seconds = count := by
    unfold TimeSpan.seconds
    omega
  have read : TimeSpan.read (ofSeconds count).queryText = .ok (.ofMillis (ofSeconds count).millis) :=
    read_queryText (by omega) (by rwa [seconds])
  rw [read, millis, ofMillis, Nat.mul_assoc]
  rfl

end TimeSpan

end PromScribe

import PromScribe.Proofs.Text.Digits
import PromScribe.Proofs.Time.Calendar
import PromScribe.Proofs.Time.InstantParts

/-!
# Instants and their texts

A leap second that is read ends a minute, since offsets are whole minutes. The full text of an
instant is read as the instant, if a leap second of it ends a minute. The text to the millisecond is
strict just if the year has four digits: years outside of them are written with a sign, which the
strict form does not have.
-/

namespace PromScribe

open Calendar Text

namespace Instant

variable {instant : Instant}

/-- The instant is in a supported year and less than two seconds after its second, and a leap second
ends a minute. -/
structure Regular (instant : Instant) : Prop where
  supported : yearSupported instant.year = true
  within : instant.nanosecond < 2000000000
  leap : 1000000000 ≤ instant.nanosecond → instant.second % 60 = 59

/-- The instant that is a second later instead of in a leap second that does not end a minute. -/
def settled (instant : Instant) : Instant :=
  if 1000000000 ≤ instant.nanosecond ∧ instant.second % 60 ≠ 59 then
    ⟨instant.second + 1, instant.nanosecond - 1000000000⟩
  else instant

theorem settled_eq_self_iff :
    instant.settled = instant ↔ (1000000000 ≤ instant.nanosecond → instant.second % 60 = 59) := by
  unfold settled
  split
  · next irregular =>
      refine iff_of_false (fun same => ?_) fun leap => irregular.2 (leap irregular.1)
      have second : instant.second + 1 = instant.second := congrArg Instant.second same
      omega
  · next regular =>
      exact iff_of_true rfl fun leap => by_contra fun inside => regular ⟨leap, inside⟩

theorem Regular.settled_eq (regular : instant.Regular) : instant.settled = instant :=
  settled_eq_self_iff.mpr regular.leap

/-- The instant to the millisecond. -/
def truncated (instant : Instant) : Instant :=
  ⟨instant.second, instant.nanosecond / 1000000 * 1000000⟩

theorem Regular.truncated (regular : instant.Regular) : instant.truncated.Regular := by
  obtain ⟨supported, within, leap⟩ := regular
  refine ⟨supported, ?_, fun above => leap ?_⟩
  · change instant.nanosecond / 1000000 * 1000000 < 2000000000
    omega
  · change 1000000000 ≤ instant.nanosecond / 1000000 * 1000000 at above
    omega

/-- The time of day that is shown: hours, minutes, and seconds with a leap second as second
sixty. -/
def clock (instant : Instant) : Nat × Nat × Nat :=
  let time := instant.secondOfDay.toNat
  (time / 3600, time / 60 % 60, time % 60 + if 1000000000 ≤ instant.nanosecond then 1 else 0)

theorem dayNumber_eq (instant : Instant) : instant.dayNumber = instant.second / 86400 :=
  Int.fdiv_eq_ediv_of_nonneg _ (by decide)

theorem secondOfDay_lt (instant : Instant) :
    0 ≤ instant.secondOfDay ∧ instant.secondOfDay < 86400 := by
  have quotient := instant.dayNumber_eq
  unfold secondOfDay
  omega

/-- A settled instant is on the same day. -/
theorem year_settled (instant : Instant) : instant.settled.year = instant.year := by
  have same : instant.settled.dayNumber = instant.dayNumber := by
    rw [dayNumber_eq, dayNumber_eq, settled]
    split
    · dsimp only
      omega
    · rfl
  rw [year, same, year]

theorem exists_clock (instant : Instant) : instant.clock.1 < 24 ∧ instant.clock.2.1 < 60 ∧
    ∃ second < 60, instant.secondOfDay =
        instant.clock.1 * 3600 + instant.clock.2.1 * 60 + (second : Nat) ∧
      instant.clock.2.2 = second + if 1000000000 ≤ instant.nanosecond then 1 else 0 := by
  have times := instant.secondOfDay_lt
  unfold clock
  dsimp only
  exact ⟨by omega, by omega, _, Nat.mod_lt _ (by decide), by omega, rfl⟩

theorem clock_truncated (instant : Instant) : instant.truncated.clock = instant.clock := by
  have leap : 1000000000 ≤ instant.truncated.nanosecond ↔ 1000000000 ≤ instant.nanosecond := by
    unfold truncated
    dsimp only
    omega
  unfold clock
  simp only [leap]
  rfl

theorem subsecond_truncated (instant : Instant) :
    instant.truncated.subsecond = instant.subsecond / 1000000 * 10 ^ (9 - 3) := by
  unfold subsecond truncated
  dsimp only
  omega

theorem wholeSecondChars_eq (instant : Instant) :
    instant.wholeSecondChars = yearChars instant.year ++ '-' ::
      (padded 2 (Date.ofDayNumber instant.dayNumber).month ++ '-' ::
        (padded 2 (Date.ofDayNumber instant.dayNumber).day ++ 'T' ::
          (padded 2 instant.clock.1 ++ ':' :: (padded 2 instant.clock.2.1 ++ ':' ::
            padded 2 instant.clock.2.2)))) :=
  rfl

/-- The month and the day of an instant have two digits at most. -/
theorem date_lt (instant : Instant) : (Date.ofDayNumber instant.dayNumber).month < 100 ∧
    (Date.ofDayNumber instant.dayNumber).day < 100 := by
  have valid := isValid_ofDayNumber instant.dayNumber
  generalize Date.ofDayNumber instant.dayNumber = date at valid ⊢
  simp only [Date.isValid, Bool.and_eq_true, decide_eq_true_eq] at valid
  unfold daysInMonth at valid
  split at valid
  · next long =>
      have months := List.contains_iff_mem.mp long
      simp only [List.mem_cons, List.not_mem_nil, or_false] at months
      omega
  split at valid
  · next short =>
      have months := List.contains_iff_mem.mp short
      simp only [List.mem_cons, List.not_mem_nil, or_false] at months
      omega
  split at valid
  · split at valid <;> omega
  · omega

end Instant

namespace InstantReader

open Instant

variable {instant : Instant} {text rest : List Char}

section Assembling

variable {date : Date} {hour minute second nanosecond : Nat} {between : Int}

/-- The instant of a date, a time of day and an offset that are in range. -/
structure Assembles (date : Date) (hour minute second nanosecond : Nat) (between : Int)
    (instant : Instant) : Prop where
  valid : date.isValid = true
  dateSupported : yearSupported date.year = true
  clock : hour < 24 ∧ minute < 60 ∧ second ≤ 60
  near : between.natAbs < 86400
  supported : yearSupported instant.year = true
  second_eq : instant.second =
    date.dayNumber * 86400 + (hour * 3600 + minute * 60 + (min second 59 : Nat)) - between
  nanosecond_eq : instant.nanosecond = nanosecond + if second = 60 then 1000000000 else 0

theorem assemble_eq_ok_iff :
    assemble date hour minute second nanosecond between = .ok instant ↔
      Assembles date hour minute second nanosecond between instant := by
  obtain ⟨meant, shape⟩ : ∃ meant : Instant, (⟨date.dayNumber * 86400 +
      (hour * 3600 + minute * 60 + (if second == 60 then 59 else second : Nat)) - between,
      nanosecond + if second == 60 then 1000000000 else 0⟩ : Instant) = meant := ⟨_, rfl⟩
  have seconds : second ≤ 60 → (if second == 60 then 59 else second) = min second 59 := by
    intro most
    by_cases leap : second = 60
    · subst leap
      rfl
    · rw [beq_eq_false_iff_ne.mpr leap, if_neg Bool.false_ne_true]
      omega
  unfold assemble
  dsimp only
  rw [shape]
  constructor
  · intro read
    split at read
    · cases read
    split at read
    · cases read
    split at read
    · cases read
    split at read
    · next dated timed near supported =>
        cases read
        simp only [Bool.not_eq_true', Bool.and_eq_false_iff, not_or, Bool.not_eq_false,
          Bool.or_eq_true, decide_eq_true_eq] at dated timed
        have most : second ≤ 60 := by omega
        refine ⟨dated.1, dated.2, by omega, by omega, supported, ?_, ?_⟩
        · rw [← shape, ← seconds most]
        · rw [← shape]
          simp only [beq_iff_eq]
    · cases read
  · rintro ⟨valid, dateSupported, clock, near, supported, second_eq, nanosecond_eq⟩
    have same : meant = instant := by
      rw [← shape, seconds clock.2.2, ← second_eq]
      simp only [beq_iff_eq]
      rw [← nanosecond_eq]
    have timed : (decide (24 ≤ hour) || decide (60 ≤ minute) || decide (61 ≤ second)) = false := by
      simp only [Bool.or_eq_false_iff, decide_eq_false_iff_not]
      omega
    rw [valid, dateSupported, timed, if_neg (Nat.not_le_of_lt near), same, supported]
    rfl

theorem Assembles.regular (assembles : Assembles date hour minute second nanosecond between instant)
    (fraction : nanosecond < 1000000000) (whole : between % 60 = 0) : instant.Regular := by
  obtain ⟨-, -, clock, -, supported, second_eq, nanosecond_eq⟩ := assembles
  refine ⟨supported, ?_, fun above => ?_⟩
  · split at nanosecond_eq <;> omega
  · split at nanosecond_eq <;> omega

/-- What is shown of an instant is put together to the settled instant. -/
theorem assembles_shown (supported : yearSupported instant.year = true)
    (within : instant.nanosecond < 2000000000) :
    Assembles (Date.ofDayNumber instant.dayNumber) instant.clock.1 instant.clock.2.1
      instant.clock.2.2 instant.subsecond 0 instant.settled := by
  obtain ⟨hours, minutes, second, seconds, whole, shown⟩ := instant.exists_clock
  have place : instant.second = instant.dayNumber * 86400 + instant.secondOfDay := by
    unfold secondOfDay
    omega
  have most : instant.clock.2.2 ≤ 60 := by
    split at shown <;> omega
  refine ⟨isValid_ofDayNumber _, supported, ⟨hours, minutes, most⟩, by decide,
    instant.year_settled ▸ supported, ?_, ?_⟩
  · rw [dayNumber_ofDayNumber]
    unfold settled
    split
    · next irregular =>
        rw [if_pos irregular.1] at shown
        dsimp only
        omega
    · next regular =>
        split at shown <;> omega
  · unfold settled subsecond
    split
    · next irregular =>
        rw [if_pos irregular.1] at shown
        dsimp only
        split <;> omega
    · next regular =>
        split at shown <;> split <;> omega

end Assembling

theorem offset_whole {between : List Char → Except InstantFault (List Char)} {seconds : Int}
    (read : offset between text = .ok (seconds, rest)) : seconds % 60 = 0 := by
  unfold offset at read
  split at read
  · cases read
  split at read
  · cases read
    rfl
  split at read
  · obtain ⟨⟨hours, _⟩, -, read⟩ := bind_eq_ok_iff.mp read
    obtain ⟨_, -, read⟩ := bind_eq_ok_iff.mp read
    obtain ⟨⟨minutes, _⟩, -, read⟩ := bind_eq_ok_iff.mp read
    cases read
    split <;> omega
  · cases read

theorem optionalFraction_lt {nanosecond : Nat}
    (read : optionalFraction text = .ok (nanosecond, rest)) : nanosecond < 1000000000 := by
  unfold optionalFraction at read
  split at read
  · exact fraction_lt read
  · cases read
    decide

theorem lenientOffset_whole {seconds : Int} (read : lenientOffset text = .ok (seconds, rest)) :
    seconds % 60 = 0 := by
  unfold lenientOffset at read
  split at read
  · split at read
    · cases read
      rfl
    · exact offset_whole read
  · exact offset_whole read

theorem strict_regular (read : strict text = .ok instant) : instant.Regular := by
  unfold strict at read
  obtain ⟨-, -, read⟩ := bind_eq_ok_iff.mp read
  obtain ⟨century, -, read⟩ := bind_eq_ok_iff.mp read
  obtain ⟨year, -, read⟩ := bind_eq_ok_iff.mp read
  obtain ⟨-, -, read⟩ := bind_eq_ok_iff.mp read
  obtain ⟨month, -, read⟩ := bind_eq_ok_iff.mp read
  obtain ⟨-, -, read⟩ := bind_eq_ok_iff.mp read
  obtain ⟨day, -, read⟩ := bind_eq_ok_iff.mp read
  obtain ⟨-, -, read⟩ := bind_eq_ok_iff.mp read
  obtain ⟨-, -, read⟩ := bind_eq_ok_iff.mp read
  obtain ⟨hour, -, read⟩ := bind_eq_ok_iff.mp read
  obtain ⟨-, -, read⟩ := bind_eq_ok_iff.mp read
  obtain ⟨minute, -, read⟩ := bind_eq_ok_iff.mp read
  obtain ⟨-, -, read⟩ := bind_eq_ok_iff.mp read
  obtain ⟨second, -, read⟩ := bind_eq_ok_iff.mp read
  obtain ⟨⟨nanosecond, _⟩, fractional, read⟩ := bind_eq_ok_iff.mp read
  obtain ⟨-, -, read⟩ := bind_eq_ok_iff.mp read
  obtain ⟨⟨between, _⟩, moved, read⟩ := bind_eq_ok_iff.mp read
  obtain ⟨-, -, read⟩ := bind_eq_ok_iff.mp read
  exact (assemble_eq_ok_iff.mp read).regular (optionalFraction_lt fractional) (offset_whole moved)

theorem lenient_regular (read : lenient text = .ok instant) : instant.Regular := by
  unfold lenient at read
  obtain ⟨⟨year, _⟩, -, read⟩ := bind_eq_ok_iff.mp read
  obtain ⟨_, -, read⟩ := bind_eq_ok_iff.mp read
  obtain ⟨⟨month, _⟩, -, read⟩ := bind_eq_ok_iff.mp read
  obtain ⟨_, -, read⟩ := bind_eq_ok_iff.mp read
  obtain ⟨⟨day, _⟩, -, read⟩ := bind_eq_ok_iff.mp read
  obtain ⟨_, -, read⟩ := bind_eq_ok_iff.mp read
  obtain ⟨⟨hour, _⟩, -, read⟩ := bind_eq_ok_iff.mp read
  obtain ⟨_, -, read⟩ := bind_eq_ok_iff.mp read
  obtain ⟨⟨minute, _⟩, -, read⟩ := bind_eq_ok_iff.mp read
  obtain ⟨_, -, read⟩ := bind_eq_ok_iff.mp read
  obtain ⟨⟨second, _⟩, -, read⟩ := bind_eq_ok_iff.mp read
  obtain ⟨⟨nanosecond, _⟩, fractional, read⟩ := bind_eq_ok_iff.mp read
  obtain ⟨⟨between, _⟩, moved, read⟩ := bind_eq_ok_iff.mp read
  obtain ⟨-, -, read⟩ := bind_eq_ok_iff.mp read
  exact (assemble_eq_ok_iff.mp read).regular (optionalFraction_lt fractional)
    (lenientOffset_whole moved)

section Strict

variable {year month day hour minute second : Nat}

/-- What is read of a date and a time of day in digits. -/
theorem strict_eq (shape : text = padded 4 year ++ '-' :: (padded 2 month ++ '-' ::
      (padded 2 day ++ 'T' :: (padded 2 hour ++ ':' :: (padded 2 minute ++ ':' ::
        (padded 2 second ++ rest))))))
    (years : year < 10000) (months : month < 100) (days : day < 100) (hours : hour < 100)
    (minutes : minute < 100) (seconds : second < 100) :
    strict text = (do
      ensure (Date.isValid ⟨year, month, day⟩) .outOfRange
      let (nanosecond, rest) ← optionalFraction rest
      ensure (hour < 24 && minute < 60 && second < 61) .outOfRange
      let (between, rest) ← offset (mark ':') rest
      ensure rest.isEmpty .trailing
      assemble ⟨year, month, day⟩ hour minute second nanosecond between) := by
  have centuries : year / 100 < 100 := by omega
  have yearsOfCentury : year % 100 < 100 := Nat.mod_lt _ (by decide)
  have whole : year / 100 * 100 + year % 100 = year := Nat.div_add_mod' _ _
  rw [padded_four, padded_two centuries, padded_two yearsOfCentury, padded_two months,
    padded_two days, padded_two hours, padded_two minutes, padded_two seconds] at shape
  have long : ensure (19 ≤ byteLength text) .tooShort = .ok () := by
    have chars : text.length = 19 + rest.length := by
      rw [shape]
      simp only [List.cons_append, List.nil_append, List.length_cons]
      omega
    have bytes := length_le_byteLength text
    exact if_pos (decide_eq_true (by omega))
  have behind : text.drop 19 = rest := by
    rw [shape]
    rfl
  unfold strict
  rw [long, pairAt_eq (by rw [shape]; rfl) (by rw [shape]; rfl) centuries,
    pairAt_eq (by rw [shape]; rfl) (by rw [shape]; rfl) yearsOfCentury,
    pairAt_eq (by rw [shape]; rfl) (by rw [shape]; rfl) months,
    pairAt_eq (by rw [shape]; rfl) (by rw [shape]; rfl) days,
    pairAt_eq (by rw [shape]; rfl) (by rw [shape]; rfl) hours,
    pairAt_eq (by rw [shape]; rfl) (by rw [shape]; rfl) minutes,
    pairAt_eq (by rw [shape]; rfl) (by rw [shape]; rfl) seconds,
    markAt_eq (by rw [shape]; rfl) (by decide), markAt_eq (by rw [shape]; rfl) (by decide),
    markAt_eq (by rw [shape]; rfl) (by decide), markAt_eq (by rw [shape]; rfl) (by decide),
    markAt_eq (by rw [shape]; rfl) (by decide), behind]
  simp only [bind, Except.bind, whole]

end Strict

/-- A sign in front is not read. -/
theorem strict_signed {sign : Char} (apart : sign.isDigit = false) :
    strict (sign :: text) ≠ .ok instant := by
  intro read
  unfold strict at read
  obtain ⟨-, -, read⟩ := bind_eq_ok_iff.mp read
  obtain ⟨century, pair, -⟩ := bind_eq_ok_iff.mp read
  obtain ⟨first, digit, -⟩ := bind_eq_ok_iff.mp pair
  change (if sign.isDigit then _ else _) = _ at digit
  rw [apart] at digit
  cases digit

/-- With a year of four digits, the text to the millisecond is of padded numbers. -/
theorem millisecondChars_eq (short : 0 ≤ instant.year ∧ instant.year ≤ 9999) :
    instant.millisecondChars = padded 4 instant.year.toNat ++ '-' ::
      (padded 2 (Date.ofDayNumber instant.dayNumber).month ++ '-' ::
        (padded 2 (Date.ofDayNumber instant.dayNumber).day ++ 'T' ::
          (padded 2 instant.clock.1 ++ ':' :: (padded 2 instant.clock.2.1 ++ ':' ::
            (padded 2 instant.clock.2.2 ++
              '.' :: (padded 3 (instant.subsecond / 1000000) ++ ['Z'])))))) := by
  have year : yearChars instant.year = padded 4 instant.year.toNat := by
    unfold yearChars
    rw [decide_eq_true short.1, decide_eq_true short.2]
    rfl
  unfold millisecondChars
  rw [wholeSecondChars_eq, year]
  simp only [List.append_assoc, List.cons_append]

/-- A year of four digits is read to the millisecond. -/
theorem strict_millisecondChars (regular : instant.Regular)
    (short : 0 ≤ instant.year ∧ instant.year ≤ 9999) :
    strict instant.millisecondChars = .ok instant.truncated := by
  have date : (⟨(instant.year.toNat : Int), (Date.ofDayNumber instant.dayNumber).month,
      (Date.ofDayNumber instant.dayNumber).day⟩ : Date) = Date.ofDayNumber instant.dayNumber := by
    rw [Int.toNat_of_nonneg short.1]
    rfl
  have fractional : optionalFraction ('.' :: (padded 3 (instant.subsecond / 1000000) ++ ['Z'])) =
      .ok (instant.truncated.subsecond, ['Z']) := by
    rw [subsecond_truncated]
    refine fraction_padded (by decide) (by decide) ?_ (by rintro c ⟨⟩; rfl)
    unfold subsecond
    omega
  have shown := assembles_shown regular.truncated.supported regular.truncated.within
  rw [regular.truncated.settled_eq, clock_truncated] at shown
  obtain ⟨hours, minutes, seconds⟩ := shown.clock
  have timed : ensure (decide (instant.clock.1 < 24) && decide (instant.clock.2.1 < 60) &&
      decide (instant.clock.2.2 < 61)) .outOfRange = .ok () := by
    rw [decide_eq_true hours, decide_eq_true minutes, decide_eq_true (Nat.lt_succ_of_le seconds)]
    rfl
  rw [strict_eq (millisecondChars_eq short) (by omega) instant.date_lt.1 instant.date_lt.2
    (by omega) (by omega) (by omega), date, isValid_ofDayNumber, fractional]
  refine bind_eq_ok_iff.mpr ⟨(), rfl, bind_eq_ok_iff.mpr ⟨_, rfl, ?_⟩⟩
  refine bind_eq_ok_iff.mpr ⟨(), timed, bind_eq_ok_iff.mpr ⟨(0, []), rfl, ?_⟩⟩
  exact assemble_eq_ok_iff.mpr shown

/-- The text to the millisecond is read as the instant to the millisecond, if the year has four
digits; else it is not read. -/
theorem strict_millisecondChars_iff (regular : instant.Regular) {other : Instant} :
    strict instant.millisecondChars = .ok other ↔
      (0 ≤ instant.year ∧ instant.year ≤ 9999) ∧ other = instant.truncated := by
  by_cases short : 0 ≤ instant.year ∧ instant.year ≤ 9999
  · rw [strict_millisecondChars regular short, Except.ok.injEq]
    exact eq_comm.trans (and_iff_right short).symm
  · refine iff_of_false ?_ fun both => short both.1
    unfold millisecondChars
    rw [wholeSecondChars_eq, yearChars, if_neg (by simpa using short)]
    exact strict_signed (by split <;> rfl)

section Lenient

variable {number : Nat} {c : Char}

theorem skipBlanks_cons (full : isBlank c = false) (rest : List Char) :
    skipBlanks (c :: rest) = c :: rest := by
  unfold skipBlanks
  rw [List.dropWhile_cons, full]
  rfl

/-- A padded number begins with a digit, which is not blank. -/
theorem exists_padded_eq (width number : Nat) (rest : List Char) : ∃ digit row,
    padded width number ++ rest = digit :: row ∧ digit.isDigit = true ∧
      skipBlanks (digit :: row) = digit :: row := by
  have nonempty : padded width number ≠ [] := padded_ne_nil
  obtain ⟨digit, row, shape⟩ := List.exists_cons_of_ne_nil nonempty
  have decimal : digit.isDigit = true :=
    isDigit_of_mem_padded (shape ▸ List.mem_cons_self)
  exact ⟨digit, row ++ rest, by rw [shape, List.cons_append], decimal,
    skipBlanks_cons (isBlank_of_isDigit decimal) _⟩

theorem lenientMark_cons (full : isBlank c = false) (rest : List Char) :
    lenientMark c (c :: rest) = .ok rest := by
  unfold lenientMark
  rw [skipBlanks_cons full]
  exact if_pos rfl

theorem lenientPair_padded (small : number < 100) (rest : List Char) :
    lenientPair (padded 2 number ++ rest) = .ok (number, rest) := by
  obtain ⟨digit, row, shape, -, kept⟩ := exists_padded_eq 2 number rest
  unfold lenientPair
  rw [shape, kept, ← shape]
  exact number_padded (by decide) small rest

theorem lenientYear_yearChars (year : Int) (rest : List Char) :
    lenientYear (yearChars year ++ '-' :: rest) = .ok (year, '-' :: rest) := by
  have signed : InstantReader.number (padded 4 year.natAbs ++ '-' :: rest).length
      (padded 4 year.natAbs ++ '-' :: rest) = .ok (year.natAbs, '-' :: rest) := by
    refine number_long ?_ (by simp)
    rw [List.length_append]
    exact Nat.le_add_right _ _
  by_cases short : (decide (0 ≤ year) && decide (year ≤ 9999)) = true
  · rw [yearChars, if_pos short]
    simp only [Bool.and_eq_true, decide_eq_true_eq] at short
    obtain ⟨digit, row, shape, decimal, kept⟩ := exists_padded_eq 4 year.toNat ('-' :: rest)
    have whole := number_padded (by decide : 0 < 4) (by omega : year.toNat < 10 ^ 4) ('-' :: rest)
    rw [shape] at whole ⊢
    unfold lenientYear
    rw [kept]
    split
    · next dash =>
        cases dash
        cases decimal
    · next plus =>
        cases plus
        cases decimal
    · rw [whole]
      exact congrArg (fun year => Except.ok (year, _)) (Int.toNat_of_nonneg short.1)
  · rw [yearChars, if_neg short, List.cons_append]
    simp only [Bool.and_eq_true, decide_eq_true_eq] at short
    unfold lenientYear
    by_cases below : year < 0
    · rw [if_pos below, skipBlanks_cons rfl]
      refine bind_eq_ok_iff.mpr ⟨_, signed, ?_⟩
      exact congrArg (fun year => Except.ok (year, _)) (by omega)
    · rw [if_neg below, skipBlanks_cons rfl]
      refine bind_eq_ok_iff.mpr ⟨_, signed, ?_⟩
      exact congrArg (fun year => Except.ok (year, _)) (by omega)

theorem optionalFraction_fractionChars (small : number < 1000000000) :
    optionalFraction (fractionChars number ++ ['Z']) = .ok (number, ['Z']) := by
  have read {width part : Nat} (positive : 0 < width) (narrow : width ≤ 9)
      (part_lt : part < 10 ^ width) (whole : part * 10 ^ (9 - width) = number) :
      optionalFraction ('.' :: padded width part ++ ['Z']) = .ok (number, ['Z']) := by
    rw [← whole]
    exact fraction_padded positive narrow part_lt (by rintro c ⟨⟩; rfl)
  unfold fractionChars
  split
  · next none =>
      subst none
      rfl
  split
  · exact read (by decide) (by decide) (by omega) (by omega)
  split
  · exact read (by decide) (by decide) (by omega) (by omega)
  · exact read (by decide) (by decide) (by omega) (by omega)

end Lenient

/-- The full text of an instant is read as the settled instant. -/
theorem readLenient_text (supported : yearSupported instant.year = true)
    (within : instant.nanosecond < 2000000000) :
    Instant.readLenient instant.text = .ok instant.settled := by
  have shown := assembles_shown supported within
  obtain ⟨hours, minutes, seconds⟩ := shown.clock
  have fractional : optionalFraction (fractionChars instant.subsecond ++ ['Z']) =
      .ok (instant.subsecond, ['Z']) := optionalFraction_fractionChars (Nat.mod_lt _ (by decide))
  have place : lenientOffset ['Z'] = .ok (0, []) := rfl
  unfold Instant.readLenient Instant.text
  rw [String.toList_ofList, wholeSecondChars_eq]
  simp only [List.append_assoc, List.cons_append]
  unfold lenient
  refine bind_eq_ok_iff.mpr ⟨_, lenientYear_yearChars _ _, ?_⟩
  refine bind_eq_ok_iff.mpr ⟨_, lenientMark_cons rfl _, ?_⟩
  refine bind_eq_ok_iff.mpr ⟨_, lenientPair_padded instant.date_lt.1 _, ?_⟩
  refine bind_eq_ok_iff.mpr ⟨_, lenientMark_cons rfl _, ?_⟩
  refine bind_eq_ok_iff.mpr ⟨_, lenientPair_padded instant.date_lt.2 _, ?_⟩
  refine bind_eq_ok_iff.mpr ⟨_, rfl, ?_⟩
  refine bind_eq_ok_iff.mpr ⟨_, lenientPair_padded (by omega) _, ?_⟩
  refine bind_eq_ok_iff.mpr ⟨_, lenientMark_cons rfl _, ?_⟩
  refine bind_eq_ok_iff.mpr ⟨_, lenientPair_padded (by omega) _, ?_⟩
  refine bind_eq_ok_iff.mpr ⟨_, lenientMark_cons rfl _, ?_⟩
  refine bind_eq_ok_iff.mpr ⟨_, lenientPair_padded (by omega) _, ?_⟩
  refine bind_eq_ok_iff.mpr ⟨_, fractional, ?_⟩
  refine bind_eq_ok_iff.mpr ⟨_, place, bind_eq_ok_iff.mpr ⟨_, rfl, ?_⟩⟩
  exact assemble_eq_ok_iff.mpr shown

end InstantReader

end PromScribe

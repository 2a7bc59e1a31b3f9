import PromScribe.Proofs.Text.Digits
import PromScribe.Proofs.Time.QueryForm

/-!
# Canonical texts of spans

A canonical text is a row of counts with units, the larger unit first. No count has a leading zero
or fills the next larger unit. The query forms of spans of at least a millisecond are these texts,
and each of them is the text of one number of milliseconds.
-/

namespace PromScribe

open Text SpanReader

namespace TimeSpan

variable {suffix : String} {limit bound : Option Nat} {limits : List (String × Option Nat)}
variable {units : List (String × Nat)} {size count millis : Nat} {span : TimeSpan}

/-- The units of a canonical text with the counts that fill the next larger ones. -/
def countLimits : List (String × Option Nat) :=
  [("d", none), ("h", some 24), ("m", some 60), ("s", some 60), ("ms", some 1000)]

/-- The number stays below a limit, if there is one. -/
def StaysBelow (number : Nat) (limit : Option Nat) : Prop :=
  ∀ most ∈ limit, number < most

/-- Some of the units in their order, each with a count below its limit. -/
inductive IsGrouped : List (String × Option Nat) → List Char → Prop where
  | done : IsGrouped [] []
  | unused {unit : String × Option Nat} {limits : List (String × Option Nat)} {text : List Char}
      (rest : IsGrouped limits text) : IsGrouped (unit :: limits) text
  | used {suffix : String} {limit : Option Nat} {limits : List (String × Option Nat)}
      {digits text : List Char} (count : IsCount digits)
      (below : StaysBelow (numeric 0 digits) limit) (rest : IsGrouped limits text) :
      IsGrouped ((suffix, limit) :: limits) (digits ++ suffix.toList ++ text)

/-- A row of counts with units in which at least one unit is used. -/
structure IsCanonical (text : String) : Prop where
  nonempty : text ≠ ""
  grouped : IsGrouped countLimits text.toList

/-- What is grouped is what is written of the milliseconds below the bound. -/
def Groups (limits : List (String × Option Nat)) (units : List (String × Nat))
    (bound : Option Nat) : Prop :=
  ∀ text, IsGrouped limits text ↔ ∃ millis, StaysBelow millis bound ∧ writeUnits units millis = text

/-- The largest unit takes the milliseconds that fill it. -/
theorem writeUnits_add (few : millis < size) :
    writeUnits ((suffix, size) :: units) (count * size + millis) =
      (if count = 0 then [] else Nat.toDigits 10 count ++ suffix.toList) ++
        writeUnits units millis := by
  have taken : (count * size + millis) / size = count := by
    rw [Nat.mul_comm, Nat.mul_add_div (Nat.zero_lt_of_lt few), Nat.div_eq_of_lt few, Nat.add_zero]
  rw [writeUnits, taken, Nat.add_sub_cancel_left]

theorem staysBelow_add (below : StaysBelow count limit) (few : millis < size) :
    StaysBelow (count * size + millis) (limit.map (· * size)) := by
  intro whole filled
  obtain ⟨most, limited, rfl⟩ := Option.map_eq_some_iff.mp filled
  have next : (count + 1) * size ≤ most * size := Nat.mul_le_mul_right size (below most limited)
  rw [Nat.add_mul, Nat.one_mul] at next
  show count * size + millis < most * size
  omega

theorem staysBelow_div (below : StaysBelow millis (limit.map (· * size))) :
    StaysBelow (millis / size) limit := by
  intro most limited
  have few := below (most * size) (Option.map_eq_some_iff.mpr ⟨most, limited, rfl⟩)
  exact Nat.div_lt_of_lt_mul (Nat.mul_comm most size ▸ few)

theorem groups_nil : Groups [] [] (some 1) := by
  intro text
  constructor
  · intro grouped
    cases grouped with
    | done => exact ⟨0, fun most one => Option.some.inj one ▸ Nat.one_pos, rfl⟩
  · rintro ⟨millis, -, rfl⟩
    exact .done

/-- A larger unit stands in front of those that fill it. -/
theorem Groups.cons (below : Groups limits units (some size)) (positive : 0 < size)
    (reached : StaysBelow 0 limit) :
    Groups ((suffix, limit) :: limits) ((suffix, size) :: units) (limit.map (· * size)) := by
  have within {millis : Nat} (few : StaysBelow millis (some size)) : millis < size := few size rfl
  intro text
  constructor
  · intro grouped
    cases grouped with
    | unused rest =>
        obtain ⟨millis, few, rfl⟩ := (below text).mp rest
        exact ⟨0 * size + millis, staysBelow_add reached (within few), writeUnits_add (within few)⟩
    | @used _ _ _ digits text count less rest =>
        obtain ⟨millis, few, rfl⟩ := (below text).mp rest
        refine ⟨numeric 0 digits * size + millis, staysBelow_add less (within few), ?_⟩
        rw [writeUnits_add (within few), numeric_eq, if_neg (Nat.ne_of_gt count.positive),
          count.toDigits_eq]
  · rintro ⟨millis, few, rfl⟩
    have left : millis % size < size := Nat.mod_lt millis positive
    have rest : IsGrouped limits (writeUnits units (millis % size)) :=
      (below _).mpr ⟨_, fun most whole => Option.some.inj whole ▸ left, rfl⟩
    have parts : millis / size * size + millis % size = millis := Nat.div_add_mod' millis size
    rw [← parts, writeUnits_add left]
    split
    · exact .unused rest
    · next used =>
        refine .used (isCount_toDigits (Nat.pos_of_ne_zero used)) ?_ rest
        rw [numeric_toDigits]
        exact staysBelow_div few

/-- What is grouped is what is written in the units of the query form. -/
theorem groups_countLimits : Groups countLimits queryUnits none := by
  have reached {number : Nat} (positive : 0 < number) : StaysBelow 0 (some number) :=
    fun _ limited => Option.some.inj limited ▸ positive
  have millis : Groups (countLimits.drop 4) (queryUnits.drop 4) (some 1000) :=
    groups_nil.cons (by decide) (reached (by decide))
  have seconds : Groups (countLimits.drop 3) (queryUnits.drop 3) (some 60000) :=
    millis.cons (by decide) (reached (by decide))
  have minutes : Groups (countLimits.drop 2) (queryUnits.drop 2) (some 3600000) :=
    seconds.cons (by decide) (reached (by decide))
  have hours : Groups (countLimits.drop 1) (queryUnits.drop 1) (some 86400000) :=
    minutes.cons (by decide) (reached (by decide))
  exact hours.cons (by decide) nofun

/-- The canonical texts are the query forms of one millisecond or more. -/
theorem isCanonical_iff {text : String} :
    IsCanonical text ↔ ∃ span : TimeSpan, 1 ≤ span.millis ∧ span.queryText = text := by
  have written {span : TimeSpan} (positive : 1 ≤ span.millis) :
      span.queryChars = writeUnits queryUnits span.millis := if_neg (Nat.ne_of_gt positive)
  constructor
  · rintro ⟨nonempty, grouped⟩
    obtain ⟨millis, -, chars⟩ := (groups_countLimits _).mp grouped
    have whole : (ofMillis millis).millis = millis := Nat.mul_div_cancel millis (by decide)
    have positive : 1 ≤ (ofMillis millis).millis := by
      rw [whole, Nat.one_le_iff_ne_zero]
      rintro rfl
      exact nonempty (String.toList_inj.mp chars.symm)
    refine ⟨ofMillis millis, positive, ?_⟩
    rw [queryText, written positive, whole, chars, String.ofList_toList]
  · rintro ⟨span, positive, rfl⟩
    constructor
    · intro nothing
      have chars := congrArg String.toList nothing
      rw [queryText, String.toList_ofList] at chars
      exact queryChars_ne_nil chars
    · have unlimited : StaysBelow span.millis none := by
        intro limit limited
        cases limited
      rw [queryText, String.toList_ofList, written positive]
      exact (groups_countLimits _).mpr ⟨_, unlimited, rfl⟩

/-- The query form of a supported span of a millisecond or more is canonical, is read as the whole
milliseconds of the span, and is that of no span with other milliseconds. -/
theorem queryText_canonical (positive : 1 ≤ span.millis) (within : span.Representable) :
    IsCanonical span.queryText ∧ TimeSpan.read span.queryText = .ok (.ofMillis span.millis) ∧
      ∀ other : TimeSpan, other.Representable → other.queryText = span.queryText →
        other.millis = span.millis := by
  have limit : maxSeconds < Nat.pow 2 64 := by decide
  refine ⟨isCanonical_iff.mpr ⟨span, positive, rfl⟩, ?_, ?_⟩
  · exact read_queryText positive (Nat.lt_of_le_of_lt within limit)
  · intro other also same
    exact millis_eq_of_queryText also within same

/-- The longest span and one that is shorter by less than a millisecond share their query form. -/
theorem queryText_canonical_longest :
    ∃ longest shorter : TimeSpan, longest.nanoseconds = Nat.pow 2 64 * 1000000000 - 1 ∧
      shorter.nanoseconds = longest.nanoseconds - 999999 ∧
      longest.queryText = "213503982334601d7h15s999ms" ∧ IsCanonical longest.queryText ∧
      TimeSpan.read longest.queryText = .ok (.ofMillis longest.millis) ∧
      shorter.millis = longest.millis := by
  have within : (TimeSpan.mk 18446744073709551615999999999).Representable := by
    unfold Representable
    decide
  have also : (TimeSpan.mk 18446744073709551615999000000).Representable := by
    unfold Representable
    decide
  obtain ⟨canonical, read, alike⟩ := queryText_canonical (by decide) within
  exact ⟨_, _, rfl, rfl, rfl, canonical, read, alike _ also rfl⟩

end TimeSpan

end PromScribe

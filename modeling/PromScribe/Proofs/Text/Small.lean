import Mathlib.Data.List.Chain
import PromScribe.Proofs.Text.Size

/-!
# Lower case once and for all

Small letters stay as they are in lower case, for no small counterpart of a capital is a capital.
Words are put into lower case one by one, so that lower case and single spaces may be made in either
order.
-/

namespace PromScribe.Text

variable {c : Char} {text : List Char}

/-- The character stays as it is in lower case, wherever it stands. -/
structure Small (c : Char) : Prop where
  letter : smallLetter c = c
  sigma : c ≠ 'Σ'
  dotted : c ≠ 'İ'

instance (c : Char) : Decidable (Small c) :=
  decidable_of_iff (smallLetter c = c ∧ c ≠ 'Σ' ∧ c ≠ 'İ')
    ⟨fun ⟨letter, sigma, dotted⟩ => ⟨letter, sigma, dotted⟩,
      fun ⟨letter, sigma, dotted⟩ => ⟨letter, sigma, dotted⟩⟩

/-- A text of such characters is in lower case. -/
theorem lower_of_forall_small (small : ∀ c ∈ text, Small c) : lower text = text := by
  have kept (behind : Bool) : lowerFrom behind text = text := by
    induction text generalizing behind with
    | nil => rfl
    | cons c text ih =>
        obtain ⟨here, later⟩ := List.forall_mem_cons.mp small
        unfold lowerFrom
        simp only [if_neg here.sigma, if_neg here.dotted, here.letter, ih later]
  exact kept false

/-- The runs of capitals are in ascending order. -/
theorem ascending_capitalRuns :
    capitalRuns.Pairwise fun run other => run.first ≤ other.first := by
  have chain : capitalRuns.IsChain fun run other : CapitalRun => run.first ≤ other.first := by
    decide +kernel
  have transitive : Trans (fun run other : CapitalRun => run.first ≤ other.first)
      (fun run other : CapitalRun => run.first ≤ other.first)
      fun run other : CapitalRun => run.first ≤ other.first := ⟨Nat.le_trans⟩
  exact List.isChain_iff_pairwise.mp chain

/-- The runs of which some capitals may lie between the places. -/
def runsBetween (low high : Nat) (runs : List CapitalRun) : List CapitalRun :=
  (runs.dropWhile fun run => Nat.ble (run.last + 1) low).takeWhile fun run => Nat.ble run.first high

theorem mem_runsBetween (low high : Nat) {runs : List CapitalRun} {run : CapitalRun}
    (ascending : runs.Pairwise fun run other => run.first ≤ other.first) (mem : run ∈ runs) :
    run.last < low ∨ high < run.first ∨ run ∈ runsBetween low high runs := by
  have behind {runs : List CapitalRun}
      (ascending : runs.Pairwise fun run other => run.first ≤ other.first) (mem : run ∈ runs) :
      high < run.first ∨ run ∈ runs.takeWhile fun run => Nat.ble run.first high := by
    induction runs with
    | nil => cases mem
    | cons head runs ih =>
        obtain ⟨above, later⟩ := List.pairwise_cons.mp ascending
        by_cases below : head.first ≤ high
        · rw [List.takeWhile_cons, if_pos (Nat.ble_eq.mpr below), List.mem_cons]
          rcases List.mem_cons.mp mem with rfl | mem
          · exact .inr (.inl rfl)
          · exact (ih later mem).imp_right .inr
        · left
          rcases List.mem_cons.mp mem with rfl | mem
          · omega
          · have beyond := above run mem
            omega
  induction runs with
  | nil => cases mem
  | cons head runs ih =>
      unfold runsBetween
      by_cases before : head.last + 1 ≤ low
      · rw [List.dropWhile_cons, if_pos (Nat.ble_eq.mpr before)]
        rcases List.mem_cons.mp mem with rfl | mem
        · exact .inl before
        · exact ih (List.pairwise_cons.mp ascending).2 mem
      · rw [List.dropWhile_cons, if_neg (by simpa using before)]
        exact .inr (behind ascending mem)

/-- Where small counterparts of a run lie among capitals, they are every other character, between
every two of these. -/
theorem between_capitalRuns : ∀ run ∈ capitalRuns,
    ∀ other ∈ runsBetween (Int.toNat (run.first + run.shift)) (Int.toNat (run.last + run.shift))
        capitalRuns,
      (run.step = 2 ∨ run.first = run.last) ∧ other.step = 2 ∧
        (Int.toNat (run.first + run.shift) + other.first) % 2 = 1 := by
  decide +kernel

/-- The dotted capital I is no small counterpart. -/
theorem apart_dotted : ∀ run ∈ capitalRuns,
    ¬ (run.first + run.shift ≤ 'İ'.toNat ∧ 'İ'.toNat ≤ run.last + run.shift) := by
  decide +kernel

/-- No small counterpart of a capital is a capital. -/
theorem not_contains_counterpart {run other : CapitalRun} {code : Nat} (mem : run ∈ capitalRuns)
    (known : other ∈ capitalRuns) (within : run.contains code = true) :
    other.contains (Int.toNat (code + run.shift)) = false := by
  have above := above_capitals run mem
  simp only [CapitalRun.contains, Bool.and_eq_true, decide_eq_true_eq, beq_iff_eq] at within
  obtain ⟨⟨low, high⟩, steps⟩ := within
  refine eq_false_of_ne_true fun found => ?_
  simp only [CapitalRun.contains, Bool.and_eq_true, decide_eq_true_eq, beq_iff_eq] at found
  obtain ⟨⟨first, last⟩, otherSteps⟩ := found
  rcases mem_runsBetween (Int.toNat (run.first + run.shift)) (Int.toNat (run.last + run.shift))
    ascending_capitalRuns known with before | behind | between
  · exact absurd before (by omega)
  · exact absurd behind (by omega)
  · obtain ⟨single, two, odd⟩ := between_capitalRuns run mem other between
    rw [two] at otherSteps
    rcases single with even | same
    · rw [even] at steps
      omega
    · omega

/-- No capital is left of a character in lower case. -/
theorem small_smallLetter (noDotted : c ≠ 'İ') : Small (smallLetter c) := by
  have ascii (d : Char) (below : d.val < 128) (noCapital : d.isUpper = false) : Small d := by
    have stays : ¬ (d.val ≥ 'A'.val ∧ d.val ≤ 'Z'.val) := of_decide_eq_false noCapital
    refine ⟨?_, ?_, ?_⟩
    · unfold smallLetter Char.toLower
      rw [if_pos below, dif_neg stays]
    · rintro rfl
      exact absurd below (by decide)
    · rintro rfl
      exact absurd below (by decide)
  have noCapital := isUpper_smallLetter c
  by_cases below : (smallLetter c).val < 128
  · exact ascii _ below noCapital
  · have wide : ¬ c.val < 128 := fun narrow => by
      have kept : ∀ code < 128, (Char.ofNat code).toLower.val < 128 := by decide +kernel
      have small := kept c.toNat narrow
      rw [Char.ofNat_toNat] at small
      unfold smallLetter at below
      rw [if_pos narrow] at below
      exact below small
    have twice : smallLetter (smallLetter c) = smallLetter c ∧ smallLetter c ≠ 'İ' := by
      cases found : capitalRuns.find? (·.contains c.toNat) with
      | none =>
          have same : smallLetter c = c := by
            unfold smallLetter
            rw [if_neg wide, found]
          rw [same, same]
          exact ⟨rfl, noDotted⟩
      | some run =>
          have mem := List.mem_of_find?_eq_some found
          have within := List.find?_some found
          have above := above_capitals run mem
          have shifted : smallLetter c = Char.ofNat (Int.toNat (c.toNat + run.shift)) := by
            unfold smallLetter
            rw [if_neg wide, found]
          have place : (smallLetter c).toNat = Int.toNat (c.toNat + run.shift) := by
            rw [shifted]
            refine (toNat_ofNat _).resolve_right fun first => below ?_
            rw [shifted]
            change (Char.ofNat _).toNat < 128
            omega
          have no_run : capitalRuns.find? (·.contains (smallLetter c).toNat) = none := by
            refine List.find?_eq_none.mpr fun other known => ?_
            rw [place, not_contains_counterpart mem known within]
            exact Bool.false_ne_true
          refine ⟨?_, fun same => apart_dotted run mem ?_⟩
          · rw [smallLetter, if_neg below, no_run]
          · rw [same] at place
            simp only [CapitalRun.contains, Bool.and_eq_true, decide_eq_true_eq] at within
            omega
    refine ⟨twice.1, fun same => ?_, twice.2⟩
    have capital : smallLetter 'Σ' ≠ 'Σ' := by decide +kernel
    have again := twice.1
    rw [same] at again
    exact capital again

/-- The letters that two capitals of special forms give. -/
def specialLetters : List Char := ['ς', 'σ', 'i', '\u0307']

/-- A character of a text in lower case is one of these, or the small counterpart of another one. -/
theorem of_mem_lowerFrom {behind : Bool} (mem : c ∈ lowerFrom behind text) :
    c ∈ specialLetters ∨ ∃ d ∈ text, d ≠ 'İ' ∧ c = smallLetter d := by
  induction text generalizing behind with
  | nil => cases mem
  | cons d text ih =>
      have later {behind : Bool} (mem : c ∈ lowerFrom behind text) :
          c ∈ specialLetters ∨ ∃ e ∈ d :: text, e ≠ 'İ' ∧ c = smallLetter e := by
        refine (ih mem).imp_right ?_
        rintro ⟨e, there, plain, same⟩
        exact ⟨e, List.mem_cons_of_mem d there, plain, same⟩
      unfold lowerFrom at mem
      dsimp only at mem
      split at mem
      · rcases List.mem_cons.mp mem with rfl | more
        · left
          split <;> simp [specialLetters]
        · exact later more
      · split at mem
        · rcases List.mem_cons.mp mem with rfl | more
          · exact .inl (by simp [specialLetters])
          · rcases List.mem_cons.mp more with rfl | more
            · exact .inl (by simp [specialLetters])
            · exact later more
        · next plain =>
            rcases List.mem_cons.mp mem with rfl | more
            · exact .inr ⟨d, List.mem_cons_self, plain, rfl⟩
            · exact later more

/-- Every character of a text in lower case is small. -/
theorem small_of_mem_lower (mem : c ∈ lower text) : Small c := by
  rcases of_mem_lowerFrom mem with special | ⟨d, -, plain, rfl⟩
  · have letters : (specialLetters.all fun letter => decide (Small letter)) = true := by
      decide +kernel
    exact of_decide_eq_true (List.all_eq_true.mp letters c special)
  · exact small_smallLetter plain

/-- The blanks of a text in lower case are those of the text. -/
theorem mem_of_isBlank_of_mem_lower (white : isBlank c = true) (mem : c ∈ lower text) :
    c ∈ text := by
  rcases of_mem_lowerFrom mem with special | ⟨d, there, -, rfl⟩
  · have close : (specialLetters.all fun letter => !isBlank letter) = true := by decide
    have shown := List.all_eq_true.mp close c special
    rw [white] at shown
    cases shown
  · have blank : isBlank d = true := eq_true_of_ne_false fun close => by
      rw [isBlank_smallLetter close] at white
      cases white
    obtain ⟨-, -, -, -, stays⟩ := caseless_of_isBlank blank
    rwa [stays]

/-- Words are put into lower case one by one. -/
theorem words_lower (text : List Char) : words (lower text) = (words text).map lower := by
  by_cases broken : ∃ c ∈ text, isBlank c = true
  · obtain ⟨blank, mem, white⟩ := broken
    obtain ⟨front, rest, split⟩ := List.append_of_mem mem
    have early : front.length < text.length := by simp [split]
    have late : rest.length < text.length := by
      simp only [split, List.length_append, List.length_cons]
      omega
    rw [split, lower_blank white, words_blank white, words_blank white, List.map_append,
      words_lower front, words_lower rest]
  · have unbroken : ∀ c ∈ text, isBlank c = false := fun c mem =>
      eq_false_of_ne_true fun white => broken ⟨c, mem, white⟩
    cases text with
    | nil => rfl
    | cons c text =>
        have worded : Worded (lower (c :: text)) :=
          Worded.lower ⟨c, List.mem_cons_self, unbroken c List.mem_cons_self⟩
        obtain ⟨d, mem, -⟩ := worded
        have still : ∀ e ∈ lower (c :: text), isBlank e = false := fun e mem =>
          eq_false_of_ne_true fun white =>
            broken ⟨e, mem_of_isBlank_of_mem_lower white mem, white⟩
        have run : IsRun (c :: text) := ⟨List.cons_ne_nil c text, unbroken⟩
        have lowered : IsRun (lower (c :: text)) := ⟨List.ne_nil_of_mem mem, still⟩
        rw [lowered.words_eq, run.words_eq]
        rfl
termination_by text.length

theorem lower_intercalate (parts : List (List Char)) :
    lower (List.intercalate [' '] parts) = List.intercalate [' '] (parts.map lower) := by
  induction parts with
  | nil => rfl
  | cons part parts ih =>
      cases parts with
      | nil => simp
      | cons next parts =>
          rw [List.intercalate_cons_cons, List.append_assoc, List.singleton_append,
            lower_blank (by decide), ih, List.map_cons, List.map_cons, List.map_cons,
            List.intercalate_cons_cons]
          simp

/-- Lower case and single spaces may be made in either order. -/
theorem lower_singleSpaced (text : List Char) :
    lower (singleSpaced text) = singleSpaced (lower text) := by
  unfold singleSpaced
  rw [lower_intercalate, words_lower]

end PromScribe.Text

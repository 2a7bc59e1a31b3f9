import PromScribe.Proofs.Text.Digits
import PromScribe.Text.Lower
import PromScribe.Text.Word

/-!
# Lower case

A blank is no part of a word and has no case, so that texts on both sides of it are put into lower
case one by one. No ASCII capital is left.
-/

namespace PromScribe.Text

variable {c blank : Char} {text front rest : List Char}

/-- The places of the blank characters. -/
def blankCodes : List Nat :=
  [0x9, 0xA, 0xB, 0xC, 0xD, 0x20, 0x85, 0xA0, 0x1680, 0x2000, 0x2001, 0x2002, 0x2003, 0x2004,
    0x2005, 0x2006, 0x2007, 0x2008, 0x2009, 0x200A, 0x2028, 0x2029, 0x202F, 0x205F, 0x3000]

theorem toNat_mem_blankCodes (white : isBlank c = true) : c.toNat ∈ blankCodes := by
  simp only [isBlank, Bool.or_eq_true, Bool.and_eq_true, decide_eq_true_eq, beq_iff_eq] at white
  simp only [blankCodes, List.mem_cons, List.not_mem_nil, or_false]
  omega

/-- What is asked of a blank is to be asked of each of them. -/
theorem of_isBlank (holds : Char → Bool)
    (all : ∀ code ∈ blankCodes, holds (Char.ofNat code) = true) (white : isBlank c = true) :
    holds c = true := by
  rw [← Char.ofNat_toNat c]
  exact all c.toNat (toNat_mem_blankCodes white)

theorem isWord_of_isBlank (white : isBlank c = true) : isWord c = false := by
  have apart := of_isBlank (fun c => !isWord c) (by decide +kernel) white
  simpa using apart

theorem isBlank_of_isWord (word : isWord c = true) : isBlank c = false := by
  refine eq_false_of_ne_true fun white => ?_
  rw [isWord_of_isBlank white] at word
  cases word

/-- Casing does not look through a blank, and leaves it as it is. -/
theorem caseless_of_isBlank (white : isBlank c = true) :
    isCaseIgnorable c = false ∧ isCased c = false ∧ c ≠ 'Σ' ∧ c ≠ 'İ' ∧ smallLetter c = c := by
  have caseless := of_isBlank (fun c => !isCaseIgnorable c && !isCased c && c != 'Σ' && c != 'İ' &&
    smallLetter c == c) (by decide +kernel) white
  simpa [and_assoc] using caseless

theorem casedAhead_blank (white : isBlank blank = true) (front rest : List Char) :
    casedAhead (front ++ blank :: rest) = casedAhead front := by
  obtain ⟨looksAt, caseless, -⟩ := caseless_of_isBlank white
  unfold casedAhead
  rw [List.find?_append]
  cases front.find? (!isCaseIgnorable ·) with
  | none => simp [looksAt, caseless]
  | some c => rfl

theorem lowerFrom_blank (white : isBlank blank = true) (behind : Bool) :
    lowerFrom behind (front ++ blank :: rest) =
      lowerFrom behind front ++ blank :: lowerFrom false rest := by
  induction front generalizing behind with
  | nil =>
      obtain ⟨looksAt, caseless, noSigma, noDotted, stays⟩ := caseless_of_isBlank white
      simp [lowerFrom, looksAt, caseless, noSigma, noDotted, stays]
  | cons c front ih =>
      have ahead := casedAhead_blank white front rest
      rw [List.cons_append, lowerFrom, lowerFrom]
      simp only [ahead, ih]
      split
      · rfl
      · split <;> rfl

/-- What stands before a blank is put into lower case by itself, and so is what follows it. -/
theorem lower_blank (white : isBlank blank = true) (front rest : List Char) :
    lower (front ++ blank :: rest) = lower front ++ blank :: lower rest :=
  lowerFrom_blank white false

theorem lower_cons_blank (white : isBlank blank = true) (rest : List Char) :
    lower (blank :: rest) = blank :: lower rest :=
  lower_blank white [] rest

/-- A text without capital letters is in lower case. -/
theorem lower_of_small (small : ∀ c ∈ text, c.val < 128 ∧ c.isUpper = false) :
    lower text = text := by
  have kept (behind : Bool) : lowerFrom behind text = text := by
    induction text generalizing behind with
    | nil => rfl
    | cons c text ih =>
        obtain ⟨ascii, noCapital⟩ := small c List.mem_cons_self
        have more := ih fun d mem => small d (List.mem_cons_of_mem c mem)
        have noSigma : c ≠ 'Σ' := by
          rintro rfl
          revert ascii
          decide
        have noDotted : c ≠ 'İ' := by
          rintro rfl
          revert ascii
          decide
        have same : smallLetter c = c := by
          have stays : ¬ (c.val ≥ 'A'.val ∧ c.val ≤ 'Z'.val) := of_decide_eq_false noCapital
          unfold smallLetter Char.toLower
          rw [if_pos ascii, dif_neg stays]
        unfold lowerFrom
        simp only [if_neg noSigma, if_neg noDotted, more, same]
  exact kept false

/-- No capital has an ASCII capital as its small counterpart. -/
theorem above_capitals : ∀ run ∈ capitalRuns, 90 < run.first + run.shift := by
  decide +kernel

/-- What is no place of a character becomes the first one. -/
theorem toNat_ofNat (code : Nat) :
    (Char.ofNat code).toNat = code ∨ (Char.ofNat code).toNat = 0 := by
  unfold Char.ofNat
  by_cases valid : code.isValidChar
  · rw [dif_pos valid]
    exact .inl rfl
  · rw [dif_neg valid]
    exact .inr rfl

theorem isUpper_ofNat {code : Nat} (above : 90 < code) : (Char.ofNat code).isUpper = false := by
  refine eq_false_of_ne_true fun upper => ?_
  have range := isUpper_iff.mp upper
  rcases toNat_ofNat code with same | first
  · omega
  · omega

theorem isUpper_smallLetter (c : Char) : (smallLetter c).isUpper = false := by
  have beyond (wide : ¬ c.val < 128) : 128 ≤ c.toNat := by
    rw [UInt32.lt_iff_toNat_lt] at wide
    exact Nat.not_lt.mp wide
  unfold smallLetter
  split
  · next ascii =>
      have small : ∀ code < 128, (Char.ofNat code).toLower.isUpper = false := by decide +kernel
      rw [← Char.ofNat_toNat c]
      exact small c.toNat ascii
  · next wide =>
      have far := beyond wide
      split
      · next run found =>
          have within := List.find?_some found
          have above := above_capitals run (List.mem_of_find?_eq_some found)
          simp only [CapitalRun.contains, Bool.and_eq_true, decide_eq_true_eq] at within
          refine isUpper_ofNat ?_
          omega
      · refine eq_false_of_ne_true fun upper => ?_
        have range := isUpper_iff.mp upper
        omega

theorem isUpper_of_mem_lowerFrom {behind : Bool}
    (mem : c ∈ lowerFrom behind text) : c.isUpper = false := by
  induction text generalizing behind with
  | nil => cases mem
  | cons d text ih =>
      unfold lowerFrom at mem
      dsimp only at mem
      split at mem
      · rcases List.mem_cons.mp mem with rfl | later
        · split <;> rfl
        · exact ih later
      · split at mem
        · rcases List.mem_cons.mp mem with rfl | more
          · rfl
          · rcases List.mem_cons.mp more with rfl | later
            · rfl
            · exact ih later
        · rcases List.mem_cons.mp mem with rfl | later
          · exact isUpper_smallLetter d
          · exact ih later

/-- No ASCII capital is left in lower case. -/
theorem isUpper_of_mem_lower (mem : c ∈ lower text) : c.isUpper = false :=
  isUpper_of_mem_lowerFrom mem

end PromScribe.Text

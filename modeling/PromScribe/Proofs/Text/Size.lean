import PromScribe.Proofs.Text.Lower
import PromScribe.Proofs.Text.Spacing
import PromScribe.Proofs.Text.Sweep

/-!
# What is left of a rewritten text

How many bytes a text has in lower case, with runs of it replaced, and with single spaces; and that
something other than blanks is left of a text that is not blank. Just three capital letters take
more bytes in lower case, one byte each.
-/

namespace PromScribe.Text

variable {α : Type} {recognise : Recogniser α} {written : α → List Char}
variable {c : Char} {text word : List Char}

/-- The number of bytes of a character, from its place. -/
def codeSize (code : Nat) : Nat :=
  if code < 0x80 then 1 else if code < 0x800 then 2 else if code < 0x10000 then 3 else 4

theorem utf8Size_eq (c : Char) : c.utf8Size = codeSize c.toNat := by
  have place (bound : UInt32) : c.val ≤ bound ↔ c.toNat < bound.toNat + 1 :=
    UInt32.le_iff_toNat_le.trans Nat.lt_succ_iff.symm
  unfold Char.utf8Size codeSize
  simp only [place]
  rfl

theorem codeSize_le {code other : Nat} (below : code ≤ other) : codeSize code ≤ codeSize other := by
  unfold codeSize
  repeat' split
  all_goals omega

/-- The capital letters that take one byte more in lower case. -/
def growingLetters : List Char := ['İ', 'Ⱥ', 'Ⱦ']

/-- No other capital moves to where characters take more bytes. -/
theorem codeSize_run : ∀ run ∈ capitalRuns,
    run.first = run.last ∧ Char.ofNat run.first ∈ growingLetters ∨
      codeSize (run.last + run.shift).toNat ≤ codeSize run.first := by
  decide +kernel

theorem utf8Size_smallLetter_le (other : c ∉ growingLetters) :
    (smallLetter c).utf8Size ≤ c.utf8Size := by
  unfold smallLetter
  split
  · next ascii =>
      have small : ∀ code < 128, (Char.ofNat code).toLower.utf8Size = 1 := by decide +kernel
      have one := small c.toNat ascii
      rw [Char.ofNat_toNat] at one
      rw [one]
      exact Char.utf8Size_pos c
  · split
    · next run found =>
        have within := List.find?_some found
        simp only [CapitalRun.contains, Bool.and_eq_true, decide_eq_true_eq] at within
        rcases codeSize_run run (List.mem_of_find?_eq_some found) with ⟨single, grows⟩ | stays
        · have same : run.first = c.toNat := by omega
          rw [same, Char.ofNat_toNat] at grows
          exact absurd grows other
        · have place := toNat_ofNat (Int.toNat (c.toNat + run.shift))
          rw [utf8Size_eq, utf8Size_eq c]
          calc codeSize (Char.ofNat (Int.toNat (c.toNat + run.shift))).toNat
              ≤ codeSize (Int.toNat (run.last + run.shift)) := codeSize_le (by omega)
            _ ≤ codeSize run.first := stays
            _ ≤ codeSize c.toNat := codeSize_le within.1.1
    · exact Nat.le_refl _

/-- No small counterpart of a capital is blank. -/
theorem blank_apart : ∀ run ∈ capitalRuns, ∀ code ∈ blankCodes,
    ¬ (run.first + run.shift ≤ code ∧ code ≤ run.last + run.shift) := by
  decide +kernel

theorem isBlank_smallLetter (close : isBlank c = false) : isBlank (smallLetter c) = false := by
  unfold smallLetter
  split
  · next ascii =>
      have small : ∀ code < 128, isBlank (Char.ofNat code) = false →
          isBlank (Char.ofNat code).toLower = false := by decide +kernel
      have kept := small c.toNat ascii
      rw [Char.ofNat_toNat] at kept
      exact kept close
  · split
    · next run found =>
        have within := List.find?_some found
        have apart := blank_apart run (List.mem_of_find?_eq_some found)
        simp only [CapitalRun.contains, Bool.and_eq_true, decide_eq_true_eq] at within
        refine eq_false_of_ne_true fun white => ?_
        have known := toNat_mem_blankCodes white
        rcases toNat_ofNat (Int.toNat (c.toNat + run.shift)) with same | first
        · rw [same] at known
          refine apart _ known ?_
          have above := above_capitals run (List.mem_of_find?_eq_some found)
          omega
        · rw [first] at known
          exact absurd known (by decide)
    · exact close

/-- What one character becomes in lower case. -/
theorem exists_lowerFrom_cons (behind : Bool) (c : Char) (text : List Char) :
    ∃ next head, lowerFrom behind (c :: text) = head ++ lowerFrom next text ∧
      byteLength head ≤ c.utf8Size + (if growingLetters.contains c then 1 else 0) ∧
      (isBlank c = false → ∃ d ∈ head, isBlank d = false) := by
  have grown : growingLetters.all fun c => (smallLetter c).utf8Size ≤ c.utf8Size + 1 := by
    decide +kernel
  refine ⟨if isCaseIgnorable c then behind else isCased c, ?_⟩
  rw [lowerFrom]
  split
  · next sigma =>
      subst sigma
      split
      · exact ⟨['ς'], rfl, by decide, fun _ => ⟨'ς', by decide⟩⟩
      · exact ⟨['σ'], rfl, by decide, fun _ => ⟨'σ', by decide⟩⟩
  · split
    · next dotted =>
        subst dotted
        exact ⟨['i', '\u0307'], rfl, by decide, fun _ => ⟨'i', by decide⟩⟩
    · refine ⟨[smallLetter c], rfl, ?_, fun close => ⟨_, List.mem_singleton_self _, isBlank_smallLetter close⟩⟩
      by_cases grows : c ∈ growingLetters
      · have small := List.all_eq_true.mp grown c grows
        simpa [byteLength, grows] using small
      · simpa [byteLength, grows] using utf8Size_smallLetter_le grows

/-- Something that is not blank stands in the text. -/
def Worded (text : List Char) : Prop :=
  ∃ c ∈ text, isBlank c = false

/-- In lower case a text takes at most one byte more for each of those letters. -/
theorem byteLength_lower_le (text : List Char) :
    byteLength (lower text) ≤ byteLength text + text.countP (growingLetters.contains ·) := by
  have each (behind : Bool) : byteLength (lowerFrom behind text) ≤
      byteLength text + text.countP (growingLetters.contains ·) := by
    induction text generalizing behind with
    | nil => exact Nat.zero_le _
    | cons c text ih =>
        obtain ⟨next, head, same, size, -⟩ := exists_lowerFrom_cons behind c text
        have later := ih next
        rw [same, byteLength_append, byteLength, List.countP_cons]
        omega
  exact each false

theorem Worded.lower (worded : Worded text) : Worded (lower text) := by
  have each (behind : Bool) : Worded (lowerFrom behind text) := by
    induction text generalizing behind with
    | nil =>
        obtain ⟨c, mem, -⟩ := worded
        cases mem
    | cons c text ih =>
        obtain ⟨next, head, same, -, kept⟩ := exists_lowerFrom_cons behind c text
        rw [same]
        obtain ⟨d, mem, close⟩ := worded
        rcases List.mem_cons.mp mem with rfl | later
        · obtain ⟨e, here, left⟩ := kept close
          exact ⟨e, List.mem_append_left _ here, left⟩
        · obtain ⟨e, there, left⟩ := ih ⟨d, later, close⟩ next
          exact ⟨e, List.mem_append_right _ there, left⟩
  exact each false

theorem byteLength_flatMap_le {items : List α} {short long : α → List Char}
    (each : ∀ item ∈ items, byteLength (short item) ≤ byteLength (long item)) :
    byteLength (items.flatMap short) ≤ byteLength (items.flatMap long) := by
  induction items with
  | nil => exact Nat.le_refl _
  | cons item items ih =>
      have here := each item List.mem_cons_self
      have later := ih fun other mem => each other (List.mem_cons_of_mem item mem)
      rw [List.flatMap_cons, List.flatMap_cons, byteLength_append, byteLength_append]
      omega

/-- What is written in place of an accepted run takes no more bytes, and is not blank. -/
def Shortens (recognise : Recogniser α) (written : α → List Char) : Prop :=
  ∀ before text hit, recognise before text = some hit →
    byteLength (written hit.value) ≤ byteLength (text.take (hit.extra + 1)) ∧
      Worded (written hit.value)

theorem Shortens.byteLength_le (shortens : Shortens recognise written) (text : List Char) :
    byteLength (rewriteWith recognise written text) ≤ byteLength text := by
  have pieces : byteLength (rewriteWith recognise written text) ≤
      byteLength ((sweep recognise text).flatMap Piece.text) := by
    refine byteLength_flatMap_le fun piece mem => ?_
    cases piece with
    | plain c => exact Nat.le_refl _
    | hit run value =>
        obtain ⟨before, place, extra, accepted, -, rfl⟩ := exists_of_mem_sweepFrom mem
        exact (shortens before place _ accepted).1
  rwa [sweep_text] at pieces

theorem Shortens.worded (shortens : Shortens recognise written) (worded : Worded text) :
    Worded (rewriteWith recognise written text) := by
  obtain ⟨c, mem, close⟩ := worded
  rw [← sweep_text recognise text] at mem
  obtain ⟨piece, member, within⟩ := List.mem_flatMap.mp mem
  cases piece with
  | plain d =>
      obtain rfl := List.mem_singleton.mp within
      exact ⟨c, List.mem_flatMap.mpr ⟨_, member, List.mem_singleton_self c⟩, close⟩
  | hit run value =>
      obtain ⟨before, place, extra, accepted, -, -⟩ := exists_of_mem_sweepFrom member
      obtain ⟨d, here, left⟩ := (shortens before place _ accepted).2
      exact ⟨d, List.mem_flatMap.mpr ⟨_, member, here⟩, left⟩

theorem byteLength_reverse (text : List Char) : byteLength text.reverse = byteLength text := by
  induction text with
  | nil => rfl
  | cons c text ih =>
      rw [List.reverse_cons, byteLength_append, ih, byteLength, byteLength, byteLength]
      omega

/-- A separating space takes no more than the blank in its place. -/
theorem byteLength_intercalate_cons_le (word : List Char) (parts : List (List Char)) :
    byteLength (List.intercalate [' '] (word :: parts)) ≤
      byteLength word + (1 + byteLength (List.intercalate [' '] parts)) := by
  cases parts with
  | nil => simp
  | cons next parts =>
      have space : byteLength [' '] = 1 := by decide
      rw [List.intercalate_cons_cons, byteLength_append, byteLength_append, space]
      omega

/-- With single spaces a text takes no more bytes. -/
theorem byteLength_singleSpaced_le (text : List Char) :
    byteLength (singleSpaced text) ≤ byteLength text := by
  have joined (run : List Char) : byteLength (List.intercalate [' '] (wordsFrom run text)) ≤
      byteLength run + byteLength text := by
    induction text generalizing run with
    | nil =>
        unfold wordsFrom
        split
        · exact Nat.zero_le _
        · rw [List.intercalate_singleton, byteLength_reverse]
          exact Nat.le_add_right _ _
    | cons c text ih =>
        have size := Char.utf8Size_pos c
        unfold wordsFrom
        rw [byteLength]
        split
        · have fresh := ih []
          rw [byteLength, Nat.zero_add] at fresh
          split
          · omega
          · have parted := byteLength_intercalate_cons_le run.reverse (wordsFrom [] text)
            rw [byteLength_reverse] at parted
            omega
        · have going := ih (c :: run)
          rw [byteLength] at going
          omega
  have whole := joined []
  rwa [byteLength, Nat.zero_add] at whole

/-- Every character that is not blank is in one of the words. -/
theorem exists_mem_wordsFrom {run : List Char} (close : isBlank c = false)
    (mem : c ∈ run ∨ c ∈ text) : ∃ word ∈ wordsFrom run text, c ∈ word := by
  induction text generalizing run with
  | nil =>
      have within := mem.resolve_right List.not_mem_nil
      have nonempty : run.isEmpty = false := by
        cases run with
        | nil => cases within
        | cons d run => rfl
      exact ⟨run.reverse, by simp [wordsFrom, nonempty], List.mem_reverse.mpr within⟩
  | cons d text ih =>
      unfold wordsFrom
      split
      · next white =>
          have apart : c ≠ d := by
            rintro rfl
            rw [close] at white
            cases white
          have behind (mem : c ∈ d :: text) : ∃ word ∈ words text, c ∈ word :=
            ih (.inr ((List.mem_cons.mp mem).resolve_left apart))
          split
          · next empty =>
              rw [List.isEmpty_iff.mp empty] at mem
              exact behind (mem.resolve_left List.not_mem_nil)
          · rcases mem with within | later
            · exact ⟨run.reverse, List.mem_cons_self, List.mem_reverse.mpr within⟩
            · obtain ⟨word, member, within⟩ := behind later
              exact ⟨word, List.mem_cons_of_mem _ member, within⟩
      · refine ih ?_
        rcases mem with within | later
        · exact .inl (List.mem_cons_of_mem d within)
        · rcases List.mem_cons.mp later with rfl | behind
          · exact .inl List.mem_cons_self
          · exact .inr behind

theorem Worded.singleSpaced (worded : Worded text) : Worded (singleSpaced text) := by
  obtain ⟨c, mem, close⟩ := worded
  obtain ⟨word, member, within⟩ := exists_mem_wordsFrom close (.inr mem)
  exact ⟨c, mem_intercalate member within, close⟩

end PromScribe.Text

import PromScribe.Proofs.Text.Small

/-!
# Words in any case

A word of ASCII letters that stands in a text in lower case stands in the text in some case of its
letters. The sign of the kelvin is the one character beyond ASCII whose small counterpart is an
ASCII letter; a dotted capital I leaves a dot behind its letter.
-/

namespace PromScribe.Text

variable {c mark : Char} {text word front back rest : List Char} {behind : Bool}

/-- The text with small ASCII letters for its ASCII capitals. -/
def folded (text : List Char) : List Char :=
  text.map Char.toLower

/-- The word stands in the text in some case of its letters. -/
def HasInAnyCase (word text : List Char) : Prop :=
  word <:+: folded text

instance (word text : List Char) : Decidable (HasInAnyCase word text) :=
  inferInstanceAs (Decidable (word <:+: folded text))

theorem toLower_of_small (noCapital : c.isUpper = false) : c.toLower = c := by
  have stays : ¬ (c.val ≥ 'A'.val ∧ c.val ≤ 'Z'.val) := of_decide_eq_false noCapital
  unfold Char.toLower
  exact dif_neg stays

/-- A capital beyond ASCII has a small counterpart beyond ASCII, or it is the sign of the kelvin. -/
theorem beyond_capitalRuns : ∀ run ∈ capitalRuns,
    128 ≤ run.first + run.shift ∨ run.first = 0x212A ∧ run.last = 0x212A ∧ run.shift = -8383 := by
  decide +kernel

/-- The characters that nothing but their ASCII capitals is put into lower case to. -/
structure Folds (c : Char) : Prop where
  ascii : c.toNat < 128
  positive : c.toNat ≠ 0
  other : c ≠ 'k'

instance (c : Char) : Decidable (Folds c) :=
  decidable_of_iff (c.toNat < 128 ∧ c.toNat ≠ 0 ∧ c ≠ 'k')
    ⟨fun ⟨ascii, positive, other⟩ => ⟨ascii, positive, other⟩,
      fun ⟨ascii, positive, other⟩ => ⟨ascii, positive, other⟩⟩

theorem toLower_of_smallLetter (folds : Folds (smallLetter c)) : smallLetter c = c.toLower := by
  obtain ⟨ascii, positive, other⟩ := folds
  by_cases narrow : c.val < 128
  · exact if_pos narrow
  · exfalso
    have wide : 128 ≤ c.toNat := by
      rw [UInt32.lt_iff_toNat_lt] at narrow
      exact Nat.not_lt.mp narrow
    unfold smallLetter at ascii positive other
    rw [if_neg narrow] at ascii positive other
    cases found : capitalRuns.find? (·.contains c.toNat) with
    | none =>
        rw [found] at ascii
        exact absurd ascii (Nat.not_lt.mpr wide)
    | some run =>
        rw [found] at ascii positive other
        dsimp only at ascii positive other
        have within := List.find?_some found
        simp only [CapitalRun.contains, Bool.and_eq_true, decide_eq_true_eq] at within
        have place := (toNat_ofNat (Int.toNat (c.toNat + run.shift))).resolve_right positive
        rcases beyond_capitalRuns run (List.mem_of_find?_eq_some found) with beyond | kelvin
        · omega
        · have code : Int.toNat (c.toNat + run.shift) = 107 := by omega
          rw [code] at other
          exact other rfl

/-- A word that only its own letters are put into lower case to. -/
structure Spelled (word : List Char) : Prop where
  letters : ∀ c ∈ word, Folds c
  /-- The dot that a capital I leaves would follow. -/
  undotted : word.getLast? ≠ some 'i'

theorem Spelled.tail (spelled : Spelled (c :: word)) : Spelled word := by
  refine ⟨fun d mem => spelled.letters d (List.mem_cons_of_mem c mem), fun last => ?_⟩
  cases word with
  | nil => cases last
  | cons d word => exact spelled.undotted (by rwa [List.getLast?_cons_cons])

/-- A word in front of a text in lower case is in front of the text. -/
theorem Spelled.folded_of_lowerFrom (spelled : Spelled word)
    (front : word <+: lowerFrom behind text) :
    word <+: folded text := by
  induction text generalizing behind word with
  | nil => exact front
  | cons c text ih =>
      cases word with
      | nil => exact List.nil_prefix
      | cons d word =>
          have folds := spelled.letters d List.mem_cons_self
          unfold lowerFrom at front
          dsimp only at front
          split at front
          · obtain ⟨same, -⟩ := List.cons_prefix_cons.mp front
            exfalso
            have ascii := folds.ascii
            rw [same] at ascii
            split at ascii <;> exact absurd ascii (by decide)
          · split at front
            · obtain ⟨rfl, more⟩ := List.cons_prefix_cons.mp front
              exfalso
              cases word with
              | nil => exact spelled.undotted rfl
              | cons e word =>
                  obtain ⟨rfl, -⟩ := List.cons_prefix_cons.mp more
                  have dot := spelled.letters '\u0307' (List.mem_cons_of_mem _ List.mem_cons_self)
                  exact absurd dot.ascii (by decide)
            · obtain ⟨rfl, more⟩ := List.cons_prefix_cons.mp front
              rw [folded, List.map_cons, toLower_of_smallLetter folds]
              exact List.cons_prefix_cons.mpr ⟨rfl, ih spelled.tail more⟩

/-- A word in a text in lower case is in the text. -/
theorem Spelled.hasInAnyCase (spelled : Spelled word) (full : word ≠ [])
    (inside : word <:+: lowerFrom behind text) : HasInAnyCase word text := by
  induction text generalizing behind with
  | nil => exact inside
  | cons c text ih =>
      have later {behind : Bool} (inside : word <:+: lowerFrom behind text) :
          HasInAnyCase word (c :: text) :=
        List.infix_cons (ih inside)
      by_cases front : word <+: lowerFrom behind (c :: text)
      · exact (spelled.folded_of_lowerFrom front).isInfix
      · unfold lowerFrom at inside front
        dsimp only at inside front
        split at inside
        · next sigma =>
            rw [if_pos sigma] at front
            exact later ((List.infix_cons_iff.mp inside).resolve_left front)
        · next other =>
            rw [if_neg other] at front
            split at inside
            · next dotted =>
                rw [if_pos dotted] at front
                have behindLetter := (List.infix_cons_iff.mp inside).resolve_left front
                refine later ((List.infix_cons_iff.mp behindLetter).resolve_left fun dot => ?_)
                cases word with
                | nil => exact full rfl
                | cons d word =>
                    obtain ⟨rfl, -⟩ := List.cons_prefix_cons.mp dot
                    exact absurd (spelled.letters _ List.mem_cons_self).ascii (by decide)
            · next plain =>
                rw [if_neg plain] at front
                exact later ((List.infix_cons_iff.mp inside).resolve_left front)

/-- What is no small letter is put into lower case from itself only. -/
theorem eq_of_toLower (noLetter : mark.isLower = false) (same : c.toLower = mark) : c = mark := by
  by_cases upper : c.isUpper = true
  · have letters : ∀ code < 128, (Char.ofNat code).isUpper = true →
        (Char.ofNat code).toLower.isLower = true := by decide +kernel
    have range := isUpper_iff.mp upper
    have letter := letters c.toNat (by omega) (by rwa [Char.ofNat_toNat])
    rw [Char.ofNat_toNat, same, noLetter] at letter
    cases letter
  · rwa [toLower_of_small (Bool.not_eq_true _ ▸ upper)] at same

/-- A mark in a text in lower case is in the text. -/
theorem mem_of_mem_lowerFrom (folds : Folds mark) (noLetter : mark.isLower = false)
    (mem : mark ∈ lowerFrom behind text) : mark ∈ text := by
  have undotted : mark ≠ 'i' := by
    rintro rfl
    cases noLetter
  have spelled : Spelled [mark] :=
    ⟨List.forall_mem_singleton.mpr folds, fun last => undotted (Option.some.inj last)⟩
  obtain ⟨before, after, split⟩ := List.append_of_mem mem
  have place : [mark] <:+: lowerFrom behind text := ⟨before, after, by simp [split]⟩
  have inside := spelled.hasInAnyCase (List.cons_ne_nil _ _) place
  obtain ⟨c, there, lowered⟩ := List.mem_map.mp (inside.subset List.mem_cons_self)
  rwa [← eq_of_toLower noLetter lowered]

/-- Lower case makes no blanks. -/
theorem isBlank_lowerFrom (solid : ∀ c ∈ text, isBlank c = false)
    (mem : c ∈ lowerFrom behind text) : isBlank c = false := by
  rcases of_mem_lowerFrom mem with special | ⟨d, there, -, rfl⟩
  · have close : specialLetters.all (fun letter => !isBlank letter) = true := by decide
    simpa using List.all_eq_true.mp close c special
  · exact isBlank_smallLetter (solid d there)

/-- ASCII text is put into lower case letter by letter. -/
theorem exists_lowerFrom_append (ascii : ∀ c ∈ front, c.val < 128) (behind : Bool)
    (rest : List Char) :
    ∃ after, lowerFrom behind (front ++ rest) = folded front ++ lowerFrom after rest := by
  induction front generalizing behind with
  | nil => exact ⟨behind, rfl⟩
  | cons c front ih =>
      obtain ⟨here, later⟩ := List.forall_mem_cons.mp ascii
      obtain ⟨after, same⟩ := ih later (if isCaseIgnorable c then behind else isCased c)
      have noSigma : c ≠ 'Σ' := by
        rintro rfl
        exact absurd here (by decide)
      have noDotted : c ≠ 'İ' := by
        rintro rfl
        exact absurd here (by decide)
      refine ⟨after, ?_⟩
      rw [List.cons_append, lowerFrom]
      simp only [if_neg noSigma, if_neg noDotted, same]
      rw [smallLetter, if_pos here]
      rfl

end PromScribe.Text

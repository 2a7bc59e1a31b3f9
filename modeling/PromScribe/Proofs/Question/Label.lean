import PromScribe.Proofs.Text.Digits
import PromScribe.Proofs.Text.Literal
import PromScribe.Proofs.Text.Lower
import PromScribe.Proofs.Text.Sweep
import PromScribe.Question.Entity
import PromScribe.Question.Intent
import PromScribe.Text.Blank

/-!
# Characters of labels

Small letters, digits and underscores are word characters of every kind that questions are looked
over for, and nothing else to any of them.
-/

namespace PromScribe.Question

open PromScribe.Text

variable {c : Char}

theorem continuesLabel_iff : continuesLabel c = true ↔
    (97 ≤ c.toNat ∧ c.toNat ≤ 122) ∨ c.toNat = 95 ∨ (48 ≤ c.toNat ∧ c.toNat ≤ 57) := by
  have underscore : c = '_' ↔ c.toNat = 95 := by
    rw [← Char.toNat_inj]
    rfl
  simp only [continuesLabel, startsLabel, Bool.or_eq_true, beq_iff_eq, underscore, isLower_iff,
    Char.isDigit, Bool.and_eq_true, decide_eq_true_eq, ge_iff_le, UInt32.le_iff_toNat_le,
    or_assoc]
  rfl

theorem continuesLabel_of_isDigit (digit : c.isDigit = true) : continuesLabel c = true := by
  simp [continuesLabel, digit]

theorem val_lt_of_continuesLabel (label : continuesLabel c = true) : c.val < 128 := by
  have range := continuesLabel_iff.mp label
  rw [UInt32.lt_iff_toNat_lt]
  change c.toNat < 128
  omega

theorem isUpper_of_continuesLabel (label : continuesLabel c = true) : c.isUpper = false := by
  have range := continuesLabel_iff.mp label
  refine eq_false_of_ne_true fun upper => ?_
  have capital := isUpper_iff.mp upper
  omega

theorem isAsciiWord_of_continuesLabel (label : continuesLabel c = true) : isAsciiWord c = true := by
  simp only [continuesLabel, startsLabel, Bool.or_eq_true] at label
  simp only [isAsciiWord, Char.isAlphanum, Bool.or_eq_true]
  rcases label with (lower | underscore) | digit
  · exact .inl (.inl (isAlpha_iff.mpr (.inr lower)))
  · exact .inr underscore
  · exact .inl (.inr digit)

theorem isWord_of_continuesLabel (label : continuesLabel c = true) : isWord c = true :=
  isWord_of_isAsciiWord (val_lt_of_continuesLabel label) (isAsciiWord_of_continuesLabel label)

theorem isWord_of_isAlpha (alpha : c.isAlpha = true) : isWord c = true := by
  have range := toNat_of_isAlpha alpha
  refine isWord_of_isAsciiWord ?_ (by simp [isAsciiWord, Char.isAlphanum, alpha])
  rw [UInt32.lt_iff_toNat_lt]
  change c.toNat < 128
  omega

theorem isWord_of_continuesKey (key : continuesKey c = true) : isWord c = true := by
  simp only [continuesKey, isAsciiWord, Char.isAlphanum, Bool.or_eq_true, beq_iff_eq] at key
  rcases key with (alpha | digit) | rfl
  · exact isWord_of_isAlpha alpha
  · exact isWord_of_continuesLabel (continuesLabel_of_isDigit digit)
  · rfl

theorem isWord_of_startsKey (starts : startsKey c = true) : isWord c = true := by
  simp only [startsKey, Bool.or_eq_true, beq_iff_eq] at starts
  rcases starts with alpha | rfl
  · exact isWord_of_isAlpha alpha
  · rfl

/-- No decimal digit begins a key. -/
theorem isDecimal_of_startsKey (starts : startsKey c = true) : isDecimal c = false := by
  simp only [startsKey, Bool.or_eq_true, beq_iff_eq] at starts
  rcases starts with alpha | rfl
  · have range := toNat_of_isAlpha alpha
    have ascii : c.val < 128 := by
      rw [UInt32.lt_iff_toNat_lt]
      change c.toNat < 128
      omega
    unfold isDecimal
    rw [if_pos ascii]
    refine eq_false_of_ne_true fun digit => ?_
    rw [isAlpha_of_isDigit digit] at alpha
    cases alpha
  · rfl

/-- No digit begins a label. -/
theorem isDigit_of_startsLabel (starts : startsLabel c = true) : c.isDigit = false := by
  refine eq_false_of_ne_true fun digit => ?_
  have range := toNat_of_isDigit digit
  simp only [startsLabel, Bool.or_eq_true, beq_iff_eq] at starts
  rcases starts with lower | rfl
  · have letter := toNat_of_isAlpha (c := c) (isAlpha_iff.mpr (.inr lower))
    omega
  · cases digit

theorem isBlank_of_continuesLabel (label : continuesLabel c = true) : isBlank c = false := by
  have range := continuesLabel_iff.mp label
  simp only [isBlank, Bool.or_eq_false_iff, Bool.and_eq_false_iff, decide_eq_false_iff_not,
    beq_eq_false_iff_ne]
  omega

theorem isValueChar_of_continuesLabel (label : continuesLabel c = true) : isValueChar c = true := by
  have range := continuesLabel_iff.mp label
  have other (mark : Char) (apart : c.toNat ≠ mark.toNat) : (c == mark) = false :=
    beq_eq_false_iff_ne.mpr fun same => apart (congrArg Char.toNat same)
  have apart (mark : Char) (below : mark.toNat < 48 ∨ mark.toNat = 125) : (c == mark) = false :=
    other mark (by omega)
  simp only [isValueChar, isQuote, isBlank_of_continuesLabel label, apart '"' (by decide),
    apart '\'' (by decide), apart '}' (by decide), apart ',' (by decide), Bool.or_self,
    Bool.not_false]

/-- Among characters of labels just the ASCII digits are decimal digits. -/
theorem isDecimal_of_continuesLabel (label : continuesLabel c = true) : isDecimal c = c.isDigit := by
  simp [isDecimal, val_lt_of_continuesLabel label]

theorem continuesMetric_iff : continuesMetric c = true ↔ continuesKey c = true ∨ c = ':' := by
  simp [continuesMetric]

theorem val_lt_of_continuesMetric (part : continuesMetric c = true) : c.val < 128 := by
  have ascii (below : c.toNat < 128) : c.val < 128 := below
  rcases continuesMetric_iff.mp part with key | rfl
  · simp only [continuesKey, isAsciiWord, Char.isAlphanum, Bool.or_eq_true, beq_iff_eq] at key
    rcases key with (alpha | digit) | rfl
    · have range := toNat_of_isAlpha alpha
      exact ascii (by omega)
    · have range := toNat_of_isDigit digit
      exact ascii (by omega)
    · decide
  · decide

theorem isBlank_of_continuesMetric (part : continuesMetric c = true) : isBlank c = false := by
  rcases continuesMetric_iff.mp part with key | rfl
  · exact isBlank_of_isWord (isWord_of_continuesKey key)
  · rfl

/-!
## Runs of metric characters

The longest metric at the head of a text is the longest run of metric characters there that ends at
a word edge.
-/

variable {text run after : List Char} {length : Nat}

/-- Metric characters up to a word edge. -/
structure MetricRun (run after : List Char) : Prop where
  nonempty : run ≠ []
  letters : ∀ c ∈ run, continuesMetric c = true
  edge : atEdge run.getLast? after = true

/-- The longest metric is a run of metric characters. -/
theorem exists_metricRun (found : metricLength? text = some length) :
    ∃ run after, text = run ++ after ∧ run.length = length ∧ MetricRun run after := by
  induction text generalizing length with
  | nil => cases found
  | cons c text ih =>
      unfold metricLength? at found
      split at found
      · next part =>
          split at found
          · next more longer =>
              cases found
              obtain ⟨run, after, rfl, rfl, metric⟩ := ih longer
              refine ⟨c :: run, after, rfl, rfl, List.cons_ne_nil c run, ?_, ?_⟩
              · intro d mem
                rcases List.mem_cons.mp mem with rfl | later
                · exact part
                · exact metric.letters d later
              · rw [List.getLast?_cons_of_ne_nil metric.nonempty]
                exact metric.edge
          · split at found
            · next edge =>
                cases found
                refine ⟨[c], text, rfl, rfl, List.cons_ne_nil c [], ?_, edge⟩
                intro d mem
                rw [List.mem_singleton.mp mem]
                exact part
            · cases found
      · cases found

/-- No run of metric characters is longer than the longest metric. -/
theorem MetricRun.le_metricLength? (metric : MetricRun run after) :
    ∃ length, metricLength? (run ++ after) = some length ∧ run.length ≤ length := by
  obtain ⟨nonempty, letters, edge⟩ := metric
  induction run with
  | nil => exact absurd rfl nonempty
  | cons c run ih =>
      rw [List.cons_append, metricLength?, if_pos (letters c List.mem_cons_self)]
      cases run with
      | nil =>
          have here : atEdge (some c) after = true := edge
          cases longer : metricLength? after with
          | none => exact ⟨1, by simp [longer, here], Nat.le_refl 1⟩
          | some more => exact ⟨more + 1, by simp [longer], Nat.succ_le_succ (Nat.zero_le more)⟩
      | cons d run =>
          obtain ⟨more, longer, covers⟩ := ih (List.cons_ne_nil d run)
            (fun e mem => letters e (List.mem_cons_of_mem c mem)) edge
          exact ⟨more + 1, by rw [longer], Nat.succ_le_succ covers⟩

/-- A metric has a character, and no more of them than the text. -/
theorem metricLength?_le (found : metricLength? text = some length) :
    0 < length ∧ length ≤ text.length := by
  obtain ⟨run, after, rfl, rfl, metric⟩ := exists_metricRun found
  rw [List.length_append]
  exact ⟨List.length_pos_iff.mpr metric.nonempty, Nat.le_add_right _ _⟩

/-- The longest metric at a run of metric characters that ends with a word is the run. -/
theorem metricLength?_run (nonempty : run ≠ []) (letters : ∀ c ∈ run, continuesMetric c = true)
    (last : wordBeside run.getLast? = true) (stops : after.head?.any continuesMetric = false)
    (ends : wordBeside after.head? = false) : metricLength? (run ++ after) = some run.length := by
  obtain ⟨length, longest, covers⟩ :=
    MetricRun.le_metricLength? ⟨nonempty, letters, (atEdge_of_behind last).mpr ends⟩
  obtain ⟨longer, others, same, rfl, metric⟩ := exists_metricRun longest
  obtain ⟨more, rfl⟩ := List.prefix_of_prefix_length_le (List.prefix_append run after)
    (same ▸ List.prefix_append longer others) covers
  rw [List.append_assoc] at same
  obtain rfl := List.append_cancel_left same
  -- What a longer metric has behind the run is a metric character.
  cases more with
  | nil => rw [longest, List.append_nil]
  | cons c more =>
      have part : continuesMetric c = true := metric.letters c (by simp)
      have other : continuesMetric c = false := stops
      rw [part] at other
      cases other

end PromScribe.Question

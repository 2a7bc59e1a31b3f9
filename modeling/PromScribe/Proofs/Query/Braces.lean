import PromScribe.Proofs.Query.ReadBack
import PromScribe.Proofs.Query.Verdict

/-!
# Braces in built queries

A query opens and closes braces of its own equally often: around its labels, or not at all. All
others stand in label values, and quoting neither adds nor takes one. So whether there is a warning
about braces is up to the values.
-/

namespace PromScribe.Query

open Text

variable {context : Context} {brace c : Char} {text : List Char} {labels : Labels}

/-- The names of a context are names of their kind. -/
structure Identified (context : Context) : Prop where
  metric : isMetricName (trimString context.mainMetric) = true
  aggregation : trimString context.aggregation = "" ∨
    isKeyName (trimString context.aggregation) = true
  grouping : ∀ label ∈ context.groupBy, isKeyName label = true
  keys : ∀ label ∈ context.labels.entries, isKeyName label.1 = true

/-- The values of labels, one after another. -/
def valueChars (labels : Labels) : List Char :=
  labels.values.flatMap String.toList

/-- The character is a brace. -/
def IsBrace (c : Char) : Prop :=
  c = '\x7b' ∨ c = '\x7d'

/-- Names, spans and what stands around them have no braces. -/
theorem IsBrace.count_eq_zero (isBrace : IsBrace brace)
    (frame : ∀ c ∈ text, isFrameChar c = true) : text.count brace = 0 := by
  refine List.count_eq_zero.mpr fun mem => ?_
  have part := frame brace mem
  rcases isBrace with rfl | rfl <;> exact absurd part (by decide)

theorem IsBrace.count_name {name : String} (isBrace : IsBrace brace)
    (key : isKeyName name = true) : name.toList.count brace = 0 :=
  isBrace.count_eq_zero fun c mem =>
    isFrameChar_of_continuesMetric ((letters_of_isKeyName key).2 c mem)

/-- An escape has a brace just where it stands for it. -/
theorem IsBrace.count_escapedLabelChar (isBrace : IsBrace brace) (c : Char) :
    (escapedLabelChar c).count brace = [c].count brace := by
  unfold escapedLabelChar
  rcases isBrace with rfl | rfl <;> split_ifs <;> simp_all

/-- Quoting keeps the braces of a value. -/
theorem IsBrace.count_quotedValue (isBrace : IsBrace brace) (value : List Char) :
    (quotedValue value).count brace = value.count brace := by
  have quote : ['"'].count brace = 0 := by
    rcases isBrace with rfl | rfl <;> rfl
  have inner : (value.flatMap escapedLabelChar).count brace = value.count brace := by
    induction value with
    | nil => rfl
    | cons c value ih =>
        rw [List.flatMap_cons, List.count_append, ih, isBrace.count_escapedLabelChar,
          ← List.count_append, List.singleton_append]
  rw [quotedValue, ← List.singleton_append, List.count_append, List.count_append, inner, quote,
    Nat.zero_add, Nat.add_zero]

/-- Matchers have the braces of their values. -/
theorem IsBrace.count_matchers (isBrace : IsBrace brace) {labels : List (String × String)}
    (keys : ∀ label ∈ labels, isKeyName label.1 = true) :
    (List.intercalate [','] (labels.map matcherChars)).count brace =
      ((labels.map Prod.snd).flatMap String.toList).count brace := by
  have marks : [','].count brace = 0 ∧ ['='].count brace = 0 := by
    rcases isBrace with rfl | rfl <;> exact ⟨rfl, rfl⟩
  induction labels with
  | nil => rfl
  | cons label labels ih =>
      have here : (matcherChars label).count brace = label.2.toList.count brace := by
        rw [matcherChars, ← List.singleton_append, List.count_append, List.count_append,
          isBrace.count_name (keys label List.mem_cons_self), marks.2, isBrace.count_quotedValue,
          Nat.zero_add, Nat.zero_add]
      have rest := ih fun other mem => keys other (List.mem_cons_of_mem label mem)
      rw [List.map_cons, List.map_cons, List.flatMap_cons, List.count_append, ← rest, ← here]
      cases labels with
      | nil => simp [List.intercalate]
      | cons next labels =>
          rw [List.map_cons, List.intercalate_cons_cons, List.count_append, List.count_append,
            marks.1, Nat.add_zero]

/-- Braces around labels: none, or one on each side. -/
theorem IsBrace.count_matchersChars (isBrace : IsBrace brace)
    (keys : ∀ label ∈ labels.entries, isKeyName label.1 = true) :
    (matchersChars labels).count brace =
      (if labels.isEmpty then 0 else 1) + (valueChars labels).count brace := by
  have values : (valueChars labels).count brace =
      (List.intercalate [','] (labels.entries.map matcherChars)).count brace :=
    (isBrace.count_matchers keys).symm
  unfold matchersChars
  split
  · next none =>
      have empty : labels.entries = [] := List.isEmpty_iff.mp none
      rw [values, empty]
      rfl
  · rw [values, List.count_cons, List.count_append]
    rcases isBrace with rfl | rfl <;> simp <;> omega

/-- A query has its own braces and those of its label values. -/
theorem count_build (names : Identified context) (isBrace : IsBrace brace) :
    (build context).query.toList.count brace =
      (if context.labels.isEmpty then 0 else 1) + (valueChars context.labels).count brace := by
  have metric : ∀ c ∈ trim context.mainMetric.toList, isFrameChar c = true := by
    rw [← toList_trimString]
    intro c mem
    exact isFrameChar_of_continuesMetric ((letters_of_isMetricName names.metric).2 c mem)
  have front := isBrace.count_eq_zero (isFrameChar_opening names.aggregation names.grouping)
  have behind := isBrace.count_eq_zero (isFrameChar_behind context)
  rw [toList_build (hasMetric_of_isMetricName names.metric), rangedChars, List.count_append,
    List.count_append, List.count_append, front, behind, isBrace.count_eq_zero metric,
    isBrace.count_matchersChars names.keys, Nat.zero_add, Nat.zero_add, Nat.add_zero]

/-- A query that is judged has as many braces of its own of either kind, and there is a warning
about braces just if its label values together open and close them unequally often. -/
theorem warned_of_braces (names : Identified context) {transcript : Transcript} {verdict : Verdict}
    (plays : (Verdict.judge (build context).query).Plays transcript (.ok verdict)) :
    (∃ own, (build context).query.toList.count '\x7b' =
          own + (valueChars context.labels).count '\x7b' ∧
        (build context).query.toList.count '\x7d' =
          own + (valueChars context.labels).count '\x7d') ∧
      (Verdict.braceWarning ∈ verdict.warnings ↔
        (valueChars context.labels).count '\x7b' ≠ (valueChars context.labels).count '\x7d') := by
  have opened := count_build names (.inl rfl)
  have closed := count_build names (.inr rfl)
  refine ⟨⟨_, opened, closed⟩, ?_⟩
  rw [Verdict.warnings_of_judge plays, Verdict.braceWarning_mem_iff, opened, closed]
  exact not_congr Nat.add_left_cancel_iff

/-- The backend may accept the query. -/
theorem Identified.exists_accepted (names : Identified context) :
    ∃ transcript, (Verdict.judge (build context).query).Plays transcript
      (.ok ⟨true, Verdict.warningsFor (build context).query, none⟩) :=
  have full := isBlankText_build (hasMetric_of_isMetricName names.metric)
  ⟨_, (Verdict.plays_judge_iff full).mpr ⟨.ok .empty, rfl, rfl⟩⟩

/-- A metric with one label. -/
def labelledContext (value : String) : Context :=
  (((Context.ofQuery "").withMetric "up").withLabel "path" value).withWindow .zero

theorem identified_labelledContext (value : String) : Identified (labelledContext value) where
  metric := (by decide : isMetricName (trimString "up") = true)
  aggregation := .inl (by rfl)
  grouping := by nofun
  keys := by
    intro label mem
    obtain rfl := List.mem_singleton.mp mem
    exact (by decide : isKeyName "path" = true)

/-- A value whose braces match draws no warning. -/
theorem warned_of_braces_matching :
    ∃ transcript verdict,
      (Verdict.judge (build (labelledContext "/\x7bid\x7d\"")).query).Plays transcript
          (.ok verdict) ∧
        Verdict.braceWarning ∉ verdict.warnings := by
  have names := identified_labelledContext "/\x7bid\x7d\""
  obtain ⟨_, plays⟩ := names.exists_accepted
  refine ⟨_, _, plays, fun warned => ?_⟩
  exact (warned_of_braces names plays).2.mp warned (by decide)

/-- One opening brace in a label value draws a warning. -/
theorem exists_brace_warning :
    Identified (labelledContext "\x7b") ∧
      (build (labelledContext "\x7b")).query = "up\x7bpath=\"\x7b\"\x7d" ∧
        ∃ transcript verdict,
          (Verdict.judge (build (labelledContext "\x7b")).query).Plays transcript (.ok verdict) ∧
            Verdict.braceWarning ∈ verdict.warnings := by
  have names := identified_labelledContext "\x7b"
  obtain ⟨_, plays⟩ := names.exists_accepted
  refine ⟨names, by decide, _, _, plays, Verdict.braceWarning_mem_iff.mpr ?_⟩
  decide

end PromScribe.Query

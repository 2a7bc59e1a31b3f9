import PromScribe.Proofs.Query.ReadBack
import PromScribe.Proofs.Query.Assembly
import PromScribe.Proofs.Question.RuleEntities
import PromScribe.Proofs.Text.Neighbour

/-!
# Labels found in queries

A query is looked over for labels as a question is. Where the values of its labels are plain, just
its labels are found in it: in front of them and behind them there is no equals sign, and a value
is taken up to the quote that ends it.
-/

namespace PromScribe.Query

open Question Text

variable {context : Context} {text rest : List Char} {before : Option Char}
variable {label : String × String} {labels : List (String × String)}

/-- The value has something in it, but no quote, backslash, closing brace, comma or blank. -/
def PlainValue (value : String) : Prop :=
  value.toList ≠ [] ∧
    ∀ c ∈ value.toList, c ∉ ['"', '\'', '\\', '\x7d', ','] ∧ isBlank c = false

instance (value : String) : Decidable (PlainValue value) :=
  decidable_of_iff (value.toList ≠ [] ∧ value.toList.all (fun c =>
    c ∉ ['"', '\'', '\\', '\x7d', ','] ∧ isBlank c = false) = true)
    (by simp only [PlainValue, List.all_eq_true, decide_eq_true_eq])

/-- The names of a context are names of their kind, and the values of its labels are plain. -/
structure PlainlyLabelled (context : Context) : Prop where
  metric : isMetricName (trimString context.mainMetric) = true
  aggregation : trimString context.aggregation = "" ∨
    isKeyName (trimString context.aggregation) = true
  grouping : ∀ label ∈ context.groupBy, isKeyName label = true
  keys : ∀ label ∈ context.labels.entries, isKeyName label.1 = true
  values : ∀ label ∈ context.labels.entries, PlainValue label.2

/-- What could be a key is none unless an equals sign follows it behind blanks at most. -/
theorem labelPair_of_unsigned
    (unsigned : ((text.dropWhile continuesKey).dropWhile isBlank).head? ≠ some '=')
    (before : Option Char) : labelPair before text = none := by
  unfold labelPair
  dsimp only
  rw [drop_takeWhile, drop_takeWhile]
  split
  · next after sign =>
      rw [sign] at unsigned
      exact absurd rfl unsigned
  · rfl

/-- From no place in front of the text does a key go on to an equals sign in it. -/
def Bars (rest : List Char) : Prop :=
  ∀ c ∈ rest.head?, continuesKey c = false ∧ isBlank c = false ∧ c ≠ '='

/-- A text without equals signs has no pair in it. -/
theorem passes_labelPair (unsigned : '=' ∉ text) (bars : Bars rest) (before : Option Char) :
    Passes labelPair rest before text := by
  have stops {inClass : Char → Bool} (other : ∀ c ∈ rest.head?, inClass c = false) :
      rest.head?.any inClass = false := by
    cases ahead : rest.head? with
    | none => rfl
    | some c => exact other c ahead
  apply Passes.of_forall
  intro front c part split
  apply labelPair_of_unsigned
  rw [← List.cons_append, dropWhile_append_stops _ (stops fun c mem => (bars c mem).1),
    dropWhile_append_stops _ (stops fun c mem => (bars c mem).2.1)]
  -- What is left begins in the text, or else behind it.
  cases left : ((c :: part).dropWhile continuesKey).dropWhile isBlank with
  | nil => exact fun sign => (bars '=' sign).2.2 rfl
  | cons d left' =>
      intro sign
      obtain rfl : d = '=' := Option.some.inj sign
      have mem : '=' ∈ ((c :: part).dropWhile continuesKey).dropWhile isBlank := by simp [left]
      have within := (List.dropWhile_suffix _).subset ((List.dropWhile_suffix _).subset mem)
      exact unsigned (split ▸ List.mem_append_right front within)

/-- The pairs of a text without equals signs and of what is behind it are those behind it. -/
theorem values_append_unsigned (unsigned : '=' ∉ text) (bars : Bars rest) (before : Option Char) :
    (sweepFrom labelPair before 0 (text ++ rest)).filterMap Piece.value? =
      (sweepFrom labelPair (lastOf before text) 0 rest).filterMap Piece.value? := by
  rw [sweepFrom_passes (passes_labelPair unsigned bars before), List.filterMap_append,
    filterMap_value?_plain, List.nil_append]

theorem values_unsigned (unsigned : '=' ∉ text) (before : Option Char) :
    (sweepFrom labelPair before 0 text).filterMap Piece.value? = [] := by
  have bars : Bars [] := nofun
  have passed := values_append_unsigned unsigned bars before
  rwa [List.append_nil] at passed

theorem PlainValue.isValueChar {value : String} (plain : PlainValue value) :
    ∀ c ∈ value.toList, isValueChar c = true := by
  intro c mem
  obtain ⟨apart, close⟩ := plain.2 c mem
  simp only [List.mem_cons, List.not_mem_nil, or_false, not_or] at apart
  simp [Question.isValueChar, isQuote, apart, close]

/-- Plain values are written as they are. -/
theorem matcherChars_plain (plain : PlainValue label.2) :
    matcherChars label = label.1.toList ++ '=' :: '"' :: (label.2.toList ++ ['"']) := by
  have unescaped : label.2.toList.flatMap escapedLabelChar = label.2.toList.flatMap ([·]) := by
    apply List.flatMap_congr
    intro c mem
    obtain ⟨apart, close⟩ := plain.2 c mem
    simp only [List.mem_cons, List.not_mem_nil, or_false, not_or] at apart
    have unbroken : c ≠ '\n' := by
      rintro rfl
      cases close
    unfold escapedLabelChar
    rw [if_neg apart.2.2.1, if_neg apart.1, if_neg unbroken]
  rw [matcherChars, quotedValue, unescaped, List.flatMap_singleton']

/-- The name of a key is taken up to its end. -/
theorem takeWhile_key {key : String} (name : isKeyName key = true)
    (ends : rest.head?.any continuesKey = false) :
    (key.toList ++ rest).takeWhile continuesKey = key.toList ∧
      (key.toList ++ rest).head?.any startsKey = true := by
  unfold isKeyName isName at name
  split at name
  · cases name
  · next c more chars =>
      obtain ⟨starts, others⟩ := Bool.and_eq_true_iff.mp name
      rw [chars]
      constructor
      · apply takeWhile_run _ ends
        intro d mem
        rcases List.mem_cons.mp mem with rfl | later
        · exact continuesKey_of_startsKey starts
        · exact List.all_eq_true.mp others d later
      · exact starts

/-- A label with a plain value is accepted whole, up to the quote that ends the value. -/
theorem labelPair_matcherChars (outside : wordBeside before = false)
    (key : isKeyName label.1 = true) (plain : PlainValue label.2) (rest : List Char) :
    labelPair before (matcherChars label ++ rest) =
      some ⟨(matcherChars label).length - 1, (label.1.toList, label.2.toList)⟩ := by
  have quoted : matcherChars label ++ rest =
      label.1.toList ++ ('=' :: '"' :: (label.2.toList ++ '"' :: rest)) := by
    simp [matcherChars_plain plain]
  have value : (label.2.toList ++ '"' :: rest).takeWhile isValueChar = label.2.toList :=
    takeWhile_run plain.isValueChar rfl
  have nonempty : label.2.toList.isEmpty = false := by simpa using plain.1
  have ends : ('=' :: '"' :: (label.2.toList ++ '"' :: rest)).head?.any continuesKey = false := rfl
  obtain ⟨name, starts⟩ := takeWhile_key key ends
  have gap : ('=' :: '"' :: (label.2.toList ++ '"' :: rest)).takeWhile isBlank = [] := rfl
  have secondGap : ('"' :: (label.2.toList ++ '"' :: rest)).takeWhile isBlank = [] := rfl
  have opening : quoteLength ('"' :: (label.2.toList ++ '"' :: rest)) = 1 := rfl
  have closing : quoteLength ('"' :: rest) = 1 := rfl
  rw [quoted]
  unfold labelPair
  dsimp only
  rw [name, List.drop_left, gap]
  simp only [List.length_nil, List.drop_zero, secondGap, opening, List.drop_succ_cons, value,
    Nat.add_comm 1, List.drop_left, closing, starts, outside, nonempty, Bool.not_false,
    Bool.and_self, if_true]
  have length : (matcherChars label).length = label.1.toList.length + (label.2.toList.length + 3) := by
    simp [matcherChars_plain plain]
  rw [length]
  simp only [Option.some.injEq, Hit.mk.injEq, and_true]
  omega

/-- The pairs of a text behind which no word begins, and of the labels in front of it. -/
theorem values_matcherChars (keys : ∀ label ∈ labels, isKeyName label.1 = true)
    (values : ∀ label ∈ labels, PlainValue label.2) (some_label : labels ≠ [])
    (outside : wordBeside before = false) (ends : wordBeside rest.head? = false) :
    (sweepFrom labelPair before 0
        (List.intercalate [','] (labels.map matcherChars) ++ rest)).filterMap Piece.value? =
      labels.map (fun label => (label.1.toList, label.2.toList)) ++
        (sweepFrom labelPair none 0 rest).filterMap Piece.value? := by
  induction labels generalizing before with
  | nil => exact absurd rfl some_label
  | cons label labels ih =>
      have key := keys label List.mem_cons_self
      have plain := values label List.mem_cons_self
      have nonempty : matcherChars label ≠ [] := by simp [matcherChars]
      cases labels with
      | nil =>
          have hit := sweepFrom_hit (startsWords_labelPair.atGap ends) nonempty
            (labelPair_matcherChars outside key plain rest)
          rw [List.map_singleton, List.intercalate_singleton, hit, List.filterMap_cons]
          rfl
      | cons next others =>
          have more := ih (fun other mem => keys other (List.mem_cons_of_mem label mem))
            (fun other mem => values other (List.mem_cons_of_mem label mem))
            (List.cons_ne_nil next others) (show wordBeside (some ',') = false from rfl)
          have gap {following : List Char} :
              ∀ before, labelPair before (',' :: following) = none :=
            startsWords_labelPair.atGap rfl
          have hit := sweepFrom_hit gap nonempty (labelPair_matcherChars outside key plain
            (',' :: (List.intercalate [','] ((next :: others).map matcherChars) ++ rest)))
          have split : List.intercalate [','] ((label :: next :: others).map matcherChars) ++ rest =
              matcherChars label ++
                ',' :: (List.intercalate [','] ((next :: others).map matcherChars) ++ rest) := by
            simp [List.intercalate_cons_cons]
          rw [split, hit, sweepFrom_cons (gap none), List.filterMap_cons, List.filterMap_cons]
          dsimp only [Piece.value?]
          rw [more]
          rfl

/-- The equals sign is no metric character. -/
theorem equals_of_letters (letters : ∀ c ∈ text, continuesMetric c = true) : '=' ∉ text := by
  intro mem
  have part := letters '=' mem
  cases part

theorem equals_of_isKeyName {name : String} (key : isKeyName name = true) : '=' ∉ name.toList :=
  equals_of_letters (letters_of_isKeyName key).2

/-- In front of the metric there is no equals sign. -/
theorem equals_opening (plain : PlainlyLabelled context) : '=' ∉ opening context := fun mem =>
  absurd (isFrameChar_opening plain.aggregation plain.grouping '=' mem) (by decide)

/-- Behind the labels there is no equals sign. -/
theorem equals_behind (context : Context) :
    '=' ∉ windowChars context.timeRange.span ++ closing context := fun mem =>
  absurd (isFrameChar_behind context '=' mem) (by decide)

/-- The pairs of labels in braces between texts without equals signs are the labels. -/
theorem values_matchersChars {labels : Labels} {front back : List Char}
    (keys : ∀ label ∈ labels.entries, isKeyName label.1 = true)
    (values : ∀ label ∈ labels.entries, PlainValue label.2) (ahead : '=' ∉ front)
    (behind : '=' ∉ back) :
    valuesOf labelPair (front ++ (matchersChars labels ++ back)) =
      labels.entries.map fun label => (label.1.toList, label.2.toList) := by
  unfold valuesOf sweep matchersChars Keyed.isEmpty
  generalize labels.entries = entries at keys values ⊢
  cases entries with
  | nil =>
      apply values_unsigned
      rw [List.mem_append, not_or]
      exact ⟨ahead, behind⟩
  | cons label entries =>
      have bars (inner : List Char) : Bars ('\x7b' :: inner) := by
        intro c mem
        cases mem
        decide
      have opened (inner : List Char) :
          labelPair (lastOf none front) ('\x7b' :: inner) = none :=
        startsWords_labelPair.atGap rfl _
      have after : '=' ∉ '\x7d' :: back := by
        rw [List.mem_cons, not_or]
        exact ⟨by decide, behind⟩
      rw [if_neg (by simp), List.cons_append, List.append_assoc, List.singleton_append,
        values_append_unsigned ahead (bars _), sweepFrom_cons (opened _), List.filterMap_cons]
      dsimp only [Piece.value?]
      rw [values_matcherChars keys values (List.cons_ne_nil label entries) rfl rfl,
        values_unsigned after, List.append_nil]

/-- The pairs of a query are its labels. -/
theorem valuesOf_labelPair_build (plain : PlainlyLabelled context) :
    valuesOf labelPair (build context).query.toList =
      context.labels.entries.map fun label => (label.1.toList, label.2.toList) := by
  have metric : '=' ∉ trim context.mainMetric.toList := by
    rw [← toList_trimString]
    exact equals_of_letters (letters_of_isMetricName plain.metric).2
  have front : '=' ∉ opening context ++ trim context.mainMetric.toList := by
    rw [List.mem_append, not_or]
    exact ⟨equals_opening plain, metric⟩
  rw [toList_build (hasMetric_of_isMetricName plain.metric), rangedChars, ← List.append_assoc]
  exact values_matchersChars plain.keys plain.values front (equals_behind context)

/-- The label entities of a query stand for its labels, in the order of their keys. -/
theorem labels_found (plain : PlainlyLabelled context) :
    ((entitiesOf (build context).query).filter fun entity => entity.kind == .label).map
        Entity.labelPair? =
      context.labels.entries.map some := by
  rw [filter_label_entitiesOf, map_labelPair?_labelEntities, valuesOf_labelPair_build plain,
    List.map_map]
  apply List.map_congr_left
  intro label mem
  have apart := equals_of_isKeyName (plain.keys label mem)
  simp [pairOf?, splitAtFirst?_of_not_mem apart]

/-- A grouped rate; in its values stands what begins or ends something elsewhere. -/
def entangledContext : Context :=
  ((((((Context.ofQuery "").withMetric "http:requests").withLabel "path"
    "=\x7bjob=api").withLabel "code" "5..[5m])by(x=y").withAggregation "rate").withGroupBy
      "job").withGroupBy "instance"

theorem plainlyLabelled_entangledContext : PlainlyLabelled entangledContext where
  metric := by decide
  aggregation := .inr (by decide)
  grouping := by decide
  keys := by decide
  values := by decide

/-- Just the two labels are found. -/
theorem labels_found_entangled :
    ((entitiesOf (build entangledContext).query).filter fun entity =>
        entity.kind == .label).map Entity.labelPair? =
      [some ("code", "5..[5m])by(x=y"), some ("path", "=\x7bjob=api")] :=
  labels_found plainlyLabelled_entangledContext

end PromScribe.Query

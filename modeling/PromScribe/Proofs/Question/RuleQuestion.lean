import Mathlib.Data.List.TakeWhile
import PromScribe.Proofs.Question.Label
import PromScribe.Question.Wording
import PromScribe.Time.Span

/-!
# Questions for an operation of a metric

A family of questions that name all that a query needs: an operation, a metric, labels, and perhaps
a window, as in `rate of requests with job=api with code=500 over 5 minutes`. Their words name
nothing but what they stand for.
-/

namespace PromScribe.Question

open PromScribe.Text Token

/-- The words that name an operation each. -/
def operationWords : List (String × Operation) :=
  [("rate", .rate), ("average", .avg), ("mean", .avg), ("avg", .avg), ("sum", .sum),
    ("total", .sum), ("count", .count)]

/-- The spelled-out units of time with their seconds. -/
def unitSeconds : List (String × Nat) :=
  [("seconds", 1), ("second", 1), ("secs", 1), ("sec", 1), ("minutes", 60), ("minute", 60),
    ("mins", 60), ("min", 60), ("hours", 3600), ("hour", 3600), ("hrs", 3600), ("hr", 3600),
    ("days", 86400), ("day", 86400), ("weeks", 604800), ("week", 604800)]

/-- They are all the spelled-out units. -/
theorem map_fst_unitSeconds : unitSeconds.map Prod.fst = unitWords := rfl

/-- The units of time in compact form. -/
def compactUnits : List String :=
  ["ms", "s", "m", "h", "d", "w"]

/-- A window as a question spells it out: digits and a unit of so many seconds. -/
structure SpelledWindow where
  digits : String
  unit : String
  seconds : Nat

/-- A question for an operation of a metric. -/
structure RuleQuestion where
  word : String
  operation : Operation
  metric : String
  labels : List (String × String)
  window : Option SpelledWindow

/-- Small letters, digits and underscores, at least one. -/
def IsLabelText (text : String) : Prop :=
  text.toList ≠ [] ∧ ∀ c ∈ text.toList, continuesLabel c = true

/-- A small letter or an underscore, then small letters, digits and underscores. -/
def IsIdentifier (text : String) : Prop :=
  text.toList.head?.any startsLabel = true ∧ ∀ c ∈ text.toList, continuesLabel c = true

/-- The text names no operation and does not begin a grouping. -/
def IsFree (text : String) : Prop :=
  text ≠ "by" ∧ ∀ operation ∈ Operation.all, text ∉ operation.keywords

/-- The text is a number directly followed by a unit of time. -/
def NamesTime (text : String) : Prop :=
  ∃ digits unit, text.toList = digits ++ unit.toList ∧ digits ≠ [] ∧
    (∀ c ∈ digits, c.isDigit = true) ∧ unit ∈ compactUnits ++ unitWords

theorem isLabelText_of_isIdentifier {text : String} (identifier : IsIdentifier text) :
    IsLabelText text := by
  refine ⟨fun empty => ?_, identifier.2⟩
  have begins := identifier.1
  rw [empty] at begins
  cases begins

theorem IsLabelText.isWord {text : String} (label : IsLabelText text) :
    ∀ c ∈ text.toList, isWord c = true :=
  fun c mem => isWord_of_continuesLabel (label.2 c mem)

/-- The number is that of all digits at the head, and the unit is what is behind it. -/
theorem namesTime_iff {text : String} : NamesTime text ↔
    text.toList.takeWhile Char.isDigit ≠ [] ∧
      ∃ unit ∈ compactUnits ++ unitWords, text.toList.dropWhile Char.isDigit = unit.toList := by
  have letters : ∀ unit ∈ compactUnits ++ unitWords, unit.toList.head?.any Char.isDigit = false := by
    decide
  constructor
  · rintro ⟨digits, unit, split, nonempty, all, known⟩
    rw [split, takeWhile_run all (letters unit known), dropWhile_run all (letters unit known)]
    exact ⟨nonempty, unit, known, rfl⟩
  · rintro ⟨number, unit, known, split⟩
    refine ⟨text.toList.takeWhile Char.isDigit, unit, ?_, number, ?_, known⟩
    · rw [← split, List.takeWhile_append_dropWhile]
    · exact fun c mem => List.mem_takeWhile_imp mem

instance (text : String) : Decidable (IsLabelText text) :=
  decidable_of_iff (text.toList ≠ [] ∧ text.toList.all continuesLabel = true)
    (and_congr_right fun _ => List.all_eq_true)

instance (text : String) : Decidable (IsIdentifier text) :=
  decidable_of_iff
    (text.toList.head?.any startsLabel = true ∧ text.toList.all continuesLabel = true)
    (and_congr_right fun _ => List.all_eq_true)

instance (text : String) : Decidable (IsFree text) := inferInstanceAs (Decidable (_ ∧ _))

instance (text : String) : Decidable (NamesTime text) := decidable_of_iff _ namesTime_iff.symm

namespace SpelledWindow

/-- The number that the digits are. -/
def number (window : SpelledWindow) : Nat :=
  window.digits.toList.foldl (fun number c => number * 10 + (c.toNat - '0'.toNat)) 0

/-- The window. -/
def span (window : SpelledWindow) : TimeSpan :=
  .ofSeconds (window.number * window.seconds)

/-- The window is positive and within the supported range, and its unit has the seconds. -/
structure Valid (window : SpelledWindow) : Prop where
  nonempty : window.digits.toList ≠ []
  digits : ∀ c ∈ window.digits.toList, c.isDigit = true
  unit : (window.unit, window.seconds) ∈ unitSeconds
  positive : 1 ≤ window.number
  bounded : window.number * window.seconds ≤ TimeSpan.maxSeconds

instance (window : SpelledWindow) : Decidable window.Valid :=
  decidable_of_iff
    (window.digits.toList ≠ [] ∧ window.digits.toList.all Char.isDigit = true ∧
      (window.unit, window.seconds) ∈ unitSeconds ∧ 1 ≤ window.number ∧
        window.number * window.seconds ≤ TimeSpan.maxSeconds)
    ⟨fun ⟨nonempty, digits, unit, positive, bounded⟩ =>
      ⟨nonempty, List.all_eq_true.mp digits, unit, positive, bounded⟩,
      fun ⟨nonempty, digits, unit, positive, bounded⟩ =>
        ⟨nonempty, List.all_eq_true.mpr digits, unit, positive, bounded⟩⟩

/-- The window as the question spells it out. -/
def spelled (window : SpelledWindow) : List Char :=
  window.digits.toList ++ ' ' :: window.unit.toList

/-- The window in its compact form. -/
def compact (window : SpelledWindow) : List Char :=
  window.digits.toList ++ window.unit.toList.take 1

end SpelledWindow

namespace RuleQuestion

/-- The wording of the question, with its window in the given form. -/
def wording (question : RuleQuestion) (form : SpelledWindow → List Char) : String :=
  question.word ++ " of " ++ question.metric ++
    String.join (question.labels.map fun label => " with " ++ label.1 ++ "=" ++ label.2) ++
      question.window.elim "" fun window => " over " ++ String.ofList (form window)

/-- The question as it is asked. -/
def text (question : RuleQuestion) : String :=
  question.wording SpelledWindow.spelled

/-- The question with its window in compact form. -/
def canonicalForm (question : RuleQuestion) : String :=
  question.wording SpelledWindow.compact

/-- Its parts name just what they stand for. -/
structure Valid (question : RuleQuestion) : Prop where
  word : (question.word, question.operation) ∈ operationWords
  metric : IsIdentifier question.metric ∧ IsFree question.metric
  keys : ∀ label ∈ question.labels, IsIdentifier label.1 ∧ IsFree label.1
  values : ∀ label ∈ question.labels, IsLabelText label.2 ∧ IsFree label.2 ∧ ¬ NamesTime label.2
  distinct : (question.labels.map Prod.fst).Nodup
  window : ∀ window ∈ question.window, window.Valid

instance (question : RuleQuestion) : Decidable question.Valid :=
  decidable_of_iff
    ((question.word, question.operation) ∈ operationWords ∧
      (IsIdentifier question.metric ∧ IsFree question.metric) ∧
        (∀ label ∈ question.labels, IsIdentifier label.1 ∧ IsFree label.1) ∧
          (∀ label ∈ question.labels, IsLabelText label.2 ∧ IsFree label.2 ∧ ¬ NamesTime label.2) ∧
            (question.labels.map Prod.fst).Nodup ∧ ∀ window ∈ question.window, window.Valid)
    ⟨fun ⟨word, metric, keys, values, distinct, window⟩ =>
      ⟨word, metric, keys, values, distinct, window⟩,
      fun ⟨word, metric, keys, values, distinct, window⟩ =>
        ⟨word, metric, keys, values, distinct, window⟩⟩

/-- The words of a label behind their gaps. -/
def labelTokens (label : String × String) : List Token :=
  [(' ', "with".toList), (' ', label.1.toList), ('=', label.2.toList)]

/-- The words behind the operation, up to the window. -/
def tokens (question : RuleQuestion) : List Token :=
  (' ', "of".toList) :: (' ', question.metric.toList) :: question.labels.flatMap labelTokens

/-- All words behind the operation, with those of the window in the given way. -/
def allTokens (question : RuleQuestion) (windowTokens : SpelledWindow → List Token) : List Token :=
  question.tokens ++ question.window.elim [] windowTokens

/-- The wording is its words with their gaps. -/
theorem toList_wording {form : SpelledWindow → List Char}
    {windowTokens : SpelledWindow → List Token}
    (spells : ∀ window, " over ".toList ++ form window = written (windowTokens window))
    (question : RuleQuestion) :
    (question.wording form).toList =
      question.word.toList ++ written (question.allTokens windowTokens) := by
  have labels : (String.join
      (question.labels.map fun label => " with " ++ label.1 ++ "=" ++ label.2)).toList =
        written (question.labels.flatMap labelTokens) := by
    rw [String.toList_join]
    induction question.labels with
    | nil => rfl
    | cons label labels ih =>
        rw [List.map_cons, List.flatMap_cons, ih, List.flatMap_cons, written_append]
        simp [labelTokens]
  unfold wording allTokens tokens
  rw [String.toList_append, String.toList_append, labels]
  cases question.window with
  | none => simp
  | some window => simp [← spells]

end RuleQuestion

end PromScribe.Question

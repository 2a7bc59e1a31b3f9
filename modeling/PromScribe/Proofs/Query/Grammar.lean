import PromScribe.Question.Entity
import PromScribe.Time.Span

/-!
# The language of queries

The part of the query language in which metrics are selected, functions applied and series grouped.
A text is taken apart into words, marks and texts in double quotes; an expression is then read from
these. What an expression is written with is read as that expression.
-/

namespace PromScribe.Query

open Question

/-- The marks between words. -/
inductive Mark where
  | openParenthesis
  | closeParenthesis
  | openBrace
  | closeBrace
  | openBracket
  | closeBracket
  | comma
  | equals
deriving DecidableEq, Repr

def Mark.ofChar? : Char → Option Mark
  | '(' => some .openParenthesis
  | ')' => some .closeParenthesis
  | '\x7b' => some .openBrace
  | '\x7d' => some .closeBrace
  | '[' => some .openBracket
  | ']' => some .closeBracket
  | ',' => some .comma
  | '=' => some .equals
  | _ => none

/-- What a query is put together from. -/
inductive Lexeme where
  | word (word : String)
  /-- A text in double quotes, by what it stands for. -/
  | text (value : String)
  | mark (mark : Mark)
deriving DecidableEq, Repr

def isGap (c : Char) : Bool :=
  c == ' ' || c == '\t' || c == '\n' || c == '\r'

/-- What is being read; the characters read so far stand last first. -/
inductive Scan where
  | between
  | word (read : List Char)
  | quoted (read : List Char)
  /-- There is a backslash in front. -/
  | escaped (read : List Char)

namespace Scan

/-- The lexemes that a character in front of a new lexeme completes, and what follows. -/
def start (c : Char) : Option (List Lexeme × Scan) :=
  if c = '"' then some ([], .quoted [])
  else if continuesMetric c then some ([], .word [c])
  else if isGap c then some ([], .between)
  else (Mark.ofChar? c).map fun mark => ([.mark mark], .between)

def wordOf (read : List Char) : Lexeme :=
  .word (String.ofList read.reverse)

/-- What a character behind a backslash stands for. -/
def unescaped? : Char → Option Char
  | '\\' => some '\\'
  | '"' => some '"'
  | 'n' => some '\n'
  | _ => none

/-- The lexemes that one more character completes, and what follows. -/
def advance : Scan → Char → Option (List Lexeme × Scan)
  | .between, c => start c
  | .word read, c =>
      if continuesMetric c then some ([], .word (c :: read))
      else (start c).map fun next => (wordOf read :: next.1, next.2)
  | .quoted read, c =>
      if c = '"' then some ([.text (String.ofList read.reverse)], .between)
      else if c = '\\' then some ([], .escaped read)
      -- A line break may only stand in quotes in its escaped form.
      else if c = '\n' then none
      else some ([], .quoted (c :: read))
  | .escaped read, c => (unescaped? c).map fun meant => ([], .quoted (meant :: read))

/-- The lexemes that the end of the text completes. -/
def finish : Scan → Option (List Lexeme)
  | .between => some []
  | .word read => some [wordOf read]
  | .quoted _ => none
  | .escaped _ => none

/-- The lexemes of a text that goes on with what is being read. -/
def lexemes? (scan : Scan) : List Char → Option (List Lexeme)
  | [] => scan.finish
  | c :: rest =>
      match scan.advance c with
      | none => none
      | some (read, next) => (next.lexemes? rest).map (read ++ ·)

end Scan

def isName (starts continues : Char → Bool) (word : String) : Bool :=
  match word.toList with
  | [] => false
  | c :: rest => starts c && rest.all continues

/-- The name of a metric, in which colons may stand. -/
def isMetricName (word : String) : Bool :=
  isName startsMetric continuesMetric word

/-- The name of a function or a label. -/
def isKeyName (word : String) : Bool :=
  isName startsKey continuesKey word

/-- The aggregation operators that take no parameter, and so one argument with a grouping clause. -/
def groupingOperators : List String :=
  ["avg", "count", "group", "max", "min", "stddev", "stdvar", "sum"]

/-- The units of a range, longest first. -/
def rangeUnits : List String := ["y", "w", "d", "h", "m", "s", "ms"]

/-- Each unit stands at most once, behind its count. -/
def isSpanForm : List String → List Char → Bool
  | [], text => text.isEmpty
  | unit :: units, text =>
      let digits := text.takeWhile Char.isDigit
      let left := text.drop digits.length
      (!digits.isEmpty && unit.toList.isPrefixOf left &&
        isSpanForm units (left.drop unit.toList.length)) || isSpanForm units text

/-- A metric with the values its labels are to have and the range that is read of it. -/
structure Selection where
  metric : String
  labels : List (String × String)
  range : Option String
deriving DecidableEq, Repr

inductive Expression where
  | plain (selection : Selection)
  | call (function : String) (argument : Expression)
  /-- An aggregation operator with its grouping clause. -/
  | grouped (operator : String) (labels : List String) (argument : Expression)
deriving DecidableEq, Repr

/-- Labels with their values, up to the closing brace, and what is behind it. -/
def readMatchers : List Lexeme → Option (List (String × String) × List Lexeme)
  | .mark .closeBrace :: rest => some ([], rest)
  | .word label :: .mark .equals :: .text value :: .mark .closeBrace :: rest =>
      if isKeyName label then some ([(label, value)], rest) else none
  | .word label :: .mark .equals :: .text value :: .mark .comma :: rest =>
      if isKeyName label then
        (readMatchers rest).map fun more => ((label, value) :: more.1, more.2)
      else none
  | _ => none

def readBraces : List Lexeme → Option (List (String × String) × List Lexeme)
  | .mark .openBrace :: rest => readMatchers rest
  | rest => some ([], rest)

def readRange : List Lexeme → Option (Option String × List Lexeme)
  | .mark .openBracket :: .word word :: .mark .closeBracket :: rest =>
      if word ≠ "" ∧ isSpanForm rangeUnits word.toList = true then some (some word, rest) else none
  | rest => some (none, rest)

def readSelection : List Lexeme → Option (Selection × List Lexeme)
  | .word metric :: rest =>
      if isMetricName metric then do
        let (labels, rest) ← readBraces rest
        let (range, rest) ← readRange rest
        return (⟨metric, labels, range⟩, rest)
      else none
  | _ => none

/-- An argument was read; its closing parenthesis is taken away. -/
def closed (wrap : Expression → Expression) :
    Option (Expression × List Lexeme) → Option (Expression × List Lexeme)
  | some (argument, .mark .closeParenthesis :: rest) => some (wrap argument, rest)
  | _ => none

mutual

def readExpression : List Lexeme → Option (Expression × List Lexeme)
  | .word function :: .mark .openParenthesis :: rest =>
      if isKeyName function then closed (.call function) (readExpression rest) else none
  | .word operator :: .word "by" :: .mark .openParenthesis :: rest =>
      if groupingOperators.contains operator then readGrouping operator [] rest else none
  | rest => (readSelection rest).map fun read => (.plain read.1, read.2)

/-- The labels of a grouping clause behind those already read, and what is grouped by them. -/
def readGrouping (operator : String) (labels : List String) :
    List Lexeme → Option (Expression × List Lexeme)
  | .mark .closeParenthesis :: .mark .openParenthesis :: rest =>
      closed (.grouped operator labels) (readExpression rest)
  | .word label :: .mark .comma :: rest =>
      if isKeyName label then readGrouping operator (labels ++ [label]) rest else none
  | .word label :: .mark .closeParenthesis :: .mark .openParenthesis :: rest =>
      if isKeyName label then
        closed (.grouped operator (labels ++ [label])) (readExpression rest)
      else none
  | _ => none

end

/-- The expression that a text is. -/
def read? (query : String) : Option Expression :=
  match (Scan.between.lexemes? query.toList).bind readExpression with
  | some (expression, []) => some expression
  | _ => none


/-! ### What an expression is written with -/

def matcherLexemes (label : String × String) : List Lexeme :=
  [.word label.1, .mark .equals, .text label.2]

/-- Lexemes with commas between them. -/
def separated (parts : List (List Lexeme)) : List Lexeme :=
  List.intercalate [.mark .comma] parts

def bracesLexemes (labels : List (String × String)) : List Lexeme :=
  if labels.isEmpty then []
  else .mark .openBrace :: (separated (labels.map matcherLexemes) ++ [.mark .closeBrace])

def rangeLexemes : Option String → List Lexeme
  | none => []
  | some word => [.mark .openBracket, .word word, .mark .closeBracket]

def Selection.lexemes (selection : Selection) : List Lexeme :=
  .word selection.metric :: (bracesLexemes selection.labels ++ rangeLexemes selection.range)

def labelLexemes (label : String) : List Lexeme := [.word label]

def Expression.lexemes : Expression → List Lexeme
  | .plain selection => selection.lexemes
  | .call function argument =>
      .word function :: .mark .openParenthesis ::
        (argument.lexemes ++ [.mark .closeParenthesis])
  | .grouped operator labels argument =>
      .word operator :: .word "by" :: .mark .openParenthesis ::
        (separated (labels.map labelLexemes) ++ .mark .closeParenthesis ::
          .mark .openParenthesis :: (argument.lexemes ++ [.mark .closeParenthesis]))

structure Selection.Proper (selection : Selection) : Prop where
  metric : isMetricName selection.metric = true
  labels : ∀ label ∈ selection.labels, isKeyName label.1 = true
  range : ∀ word ∈ selection.range, word ≠ "" ∧ isSpanForm rangeUnits word.toList = true

/-- The names are names of their kind, and the grouping is one of an operator. -/
inductive Expression.Proper : Expression → Prop where
  | plain {selection : Selection} (proper : selection.Proper) : Proper (.plain selection)
  | call {function : String} {argument : Expression} (name : isKeyName function = true)
      (inner : argument.Proper) : Proper (.call function argument)
  | grouped {operator : String} {labels : List String} {argument : Expression}
      (groups : groupingOperators.contains operator = true)
      (names : ∀ label ∈ labels, isKeyName label = true) (inner : argument.Proper) : Proper (.grouped operator labels argument)

/-- Nothing goes on behind an expression but what it stands in. -/
inductive Closing : List Lexeme → Prop where
  | done : Closing []
  | more (rest : List Lexeme) : Closing (.mark .closeParenthesis :: rest)

variable {labels : List (String × String)} {rest : List Lexeme} {selection : Selection}

theorem readMatchers_lexemes (some_label : labels ≠ [])
    (names : ∀ label ∈ labels, isKeyName label.1 = true) :
    readMatchers (separated (labels.map matcherLexemes) ++ .mark .closeBrace :: rest) =
      some (labels, rest) := by
  induction labels with
  | nil => exact absurd rfl some_label
  | cons label labels ih =>
      have name := names label List.mem_cons_self
      cases labels with
      | nil => simp [separated, matcherLexemes, readMatchers, name]
      | cons next labels =>
          have others := ih (List.cons_ne_nil _ _) fun label mem =>
            names label (List.mem_cons_of_mem _ mem)
          simp only [separated, List.map_cons, List.intercalate_cons_cons, matcherLexemes,
            List.cons_append, List.nil_append, readMatchers, name, if_true] at others ⊢
          rw [others]
          rfl

theorem readBraces_lexemes (names : ∀ label ∈ labels, isKeyName label.1 = true)
    (ends : rest.head? ≠ some (.mark .openBrace)) :
    readBraces (bracesLexemes labels ++ rest) = some (labels, rest) := by
  unfold bracesLexemes
  split
  · next none =>
      rw [List.isEmpty_iff.mp none, List.nil_append]
      unfold readBraces
      split
      · exact absurd rfl ends
      · rfl
  · next some_label =>
      rw [List.cons_append, List.append_assoc, List.singleton_append]
      exact readMatchers_lexemes (fun none => some_label (List.isEmpty_iff.mpr none)) names

theorem readRange_lexemes {range : Option String}
    (proper : ∀ word ∈ range, word ≠ "" ∧ isSpanForm rangeUnits word.toList = true)
    (closing : Closing rest) : readRange (rangeLexemes range ++ rest) = some (range, rest) := by
  cases range with
  | none =>
      cases closing with
      | done => rfl
      | more rest => rfl
  | some word =>
      simp only [rangeLexemes, List.cons_append, List.nil_append, readRange]
      rw [if_pos (proper word rfl)]

theorem readSelection_lexemes (proper : selection.Proper) (closing : Closing rest) :
    readSelection (selection.lexemes ++ rest) = some (selection, rest) := by
  have ends : (rangeLexemes selection.range ++ rest).head? ≠ some (.mark .openBrace) := by
    cases selection.range with
    | none =>
        cases closing with
        | done => simp [rangeLexemes]
        | more rest => simp [rangeLexemes]
    | some word => simp [rangeLexemes]
  have braces := readBraces_lexemes proper.labels ends
  have range := readRange_lexemes proper.range closing
  simp [Selection.lexemes, readSelection, proper.metric, braces, range]

theorem readExpression_word {metric : String}
    (ends : ∀ lexeme ∈ rest.head?, ∃ mark, mark ≠ .openParenthesis ∧ lexeme = .mark mark) :
    readExpression (.word metric :: rest) =
      (readSelection (.word metric :: rest)).map fun read => (.plain read.1, read.2) := by
  cases rest with
  | nil => rfl
  | cons lexeme rest =>
      obtain ⟨mark, other, rfl⟩ := ends lexeme rfl
      cases mark with
      | openParenthesis => exact absurd rfl other
      | _ => rfl

/-- Behind the metric of a selection there is neither a parenthesis that opens nor a word. -/
theorem readExpression_plain (closing : Closing rest) :
    readExpression (selection.lexemes ++ rest) =
      (readSelection (selection.lexemes ++ rest)).map fun read => (.plain read.1, read.2) := by
  refine readExpression_word fun lexeme first => ?_
  unfold bracesLexemes at first
  split at first
  · cases range : selection.range with
    | some word =>
        rw [range] at first
        cases first
        exact ⟨.openBracket, by decide, rfl⟩
    | none =>
        rw [range] at first
        cases closing with
        | done => cases first
        | more rest =>
            cases first
            exact ⟨.closeParenthesis, by decide, rfl⟩
  · cases first
    exact ⟨.openBrace, by decide, rfl⟩

theorem readGrouping_lexemes {operator : String} {labels : List String} {argument : List Lexeme}
    (names : ∀ label ∈ labels, isKeyName label = true) (before : List String) :
    readGrouping operator before (separated (labels.map labelLexemes) ++
        .mark .closeParenthesis :: .mark .openParenthesis :: argument) =
      closed (.grouped operator (before ++ labels)) (readExpression argument) := by
  induction labels generalizing before with
  | nil => simp [separated, readGrouping]
  | cons label labels ih =>
      have name := names label List.mem_cons_self
      cases labels with
      | nil => simp [separated, labelLexemes, readGrouping, name]
      | cons next labels =>
          have others := ih (fun label mem => names label (List.mem_cons_of_mem _ mem))
            (before ++ [label])
          simp only [separated, List.map_cons, List.intercalate_cons_cons, labelLexemes,
            List.cons_append, List.nil_append, readGrouping, name, if_true, List.append_assoc]
            at others ⊢
          exact others

/-- What an expression is written with is read as that expression. -/
theorem readExpression_lexemes {expression : Expression} (proper : expression.Proper)
    (closing : Closing rest) : readExpression (expression.lexemes ++ rest) =
      some (expression, rest) := by
  -- What follows is general: an argument is followed by the parenthesis that closes it.
  induction proper generalizing rest with
  | plain proper =>
      simp only [Expression.lexemes]
      rw [readExpression_plain closing, readSelection_lexemes proper closing]
      rfl
  | call name _ ih =>
      simp only [Expression.lexemes, List.cons_append, List.append_assoc, List.nil_append,
        readExpression, name, if_true, ih (.more rest), closed]
  | grouped groups names _ ih =>
      simp only [Expression.lexemes, List.cons_append, List.append_assoc, List.nil_append,
        readExpression, groups, if_true, readGrouping_lexemes names, ih (.more rest), closed]

end PromScribe.Query

import PromScribe.Text.Blank
import PromScribe.Text.Lower
import PromScribe.Text.Literal

/-!
# Canonical wording

A question is put into lower case, fixed phrases become symbols or windows, spelled-out durations
become compact ones (`5 minutes` becomes `5m`), and single spaces stand between words.
-/

namespace PromScribe.Question

open PromScribe.Text

/-- Fixed phrases and what is written for them, in the order of their replacement. -/
def phrases : List (String × String) :=
  [("last hour", "1h"), ("past hour", "1h"), ("last day", "24h"), ("past day", "24h"),
    ("last week", "7d"), ("past week", "7d"), ("greater than", ">"), ("less than", "<"),
    ("equal to", "=")]

/-- The text with one phrase replaced where it stands as whole words. -/
def foldPhrase (text : List Char) (phrase : String × String) : List Char :=
  rewriteWith (wholeWords [phrase.1.toList]) (fun _ => phrase.2.toList) text

/-- The text with every fixed phrase replaced. -/
def foldPhrases (text : List Char) : List Char :=
  phrases.foldl foldPhrase text

/-- Spelled-out time units. -/
def unitWords : List String :=
  ["seconds", "second", "secs", "sec", "minutes", "minute", "mins", "min", "hours", "hour",
    "hrs", "hr", "days", "day", "weeks", "week"]

/-- Accepts a number with a spelled-out time unit; its value is the compact form. -/
def spelledDuration : Recogniser (List Char) := fun before text =>
  let digits := text.takeWhile isDecimal
  let afterDigits := text.drop digits.length
  let gap := afterDigits.takeWhile isBlank
  let afterGap := afterDigits.drop gap.length
  if digits.isEmpty || wordBeside before then none
  else
    (wholeWordAhead afterGap).map fun unit =>
      ⟨digits.length + gap.length + unit.length - 1, digits ++ unit.take 1⟩
where
  /-- The unit word at the head of the text that no word character follows. -/
  wholeWordAhead (text : List Char) : Option (List Char) :=
    (unitWords.map String.toList).find? fun unit =>
      unit.isPrefixOf text && atEdge unit.getLast? (text.drop unit.length)

/-- The text with spelled-out durations in compact form. -/
def foldDurations (text : List Char) : List Char :=
  rewriteWith spelledDuration id text

/-- The canonical wording of a text. -/
def canonicalText (text : List Char) : List Char :=
  singleSpaced (foldDurations (foldPhrases (lower text)))

/-- The canonical wording of a question. -/
def canonical (question : String) : String :=
  String.ofList (canonicalText question.toList)

end PromScribe.Question

import PromScribe.Text.Sweep
import PromScribe.Text.Word

/-!
# Literal text

Finding and replacing fixed text, also as whole words only, and taking text apart at a character.
-/

namespace PromScribe.Text

/-- Accepts exactly the given text, which must not be empty. -/
def literal (pattern : List Char) : Recogniser Unit := fun _ text =>
  if pattern.isPrefixOf text then some ⟨pattern.length - 1, ()⟩ else none

/-- The text with every occurrence of a non-empty pattern replaced, from left to right and without
overlap. -/
def substitute (pattern replacement text : List Char) : List Char :=
  rewriteWith (literal pattern) (fun _ => replacement) text

/-- The string with every occurrence of a non-empty pattern replaced. -/
def substituteString (pattern replacement text : String) : String :=
  String.ofList (substitute pattern.toList replacement.toList text.toList)

/-- The pattern occurs somewhere in the text. -/
def occurs (pattern : List Char) : List Char → Bool
  | [] => pattern.isEmpty
  | c :: rest => pattern.isPrefixOf (c :: rest) || occurs pattern rest

/-- The string `part` occurs somewhere in the string `whole`. -/
def hasPart (whole part : String) : Bool :=
  occurs part.toList whole.toList

/-- The string begins with `start`. -/
def hasStart (text start : String) : Bool :=
  start.toList.isPrefixOf text.toList

/-- The string ends with `ending`. -/
def hasEnding (text ending : String) : Bool :=
  ending.toList.isSuffixOf text.toList

/-- The string without `ending` at its end, if it has it. -/
def withoutEnding? (text ending : String) : Option String :=
  if hasEnding text ending then
    some (String.ofList (text.toList.take (text.toList.length - ending.toList.length)))
  else none

/-- Accepts the first of the phrases that stands at a place as whole words. -/
def wholeWords (phrases : List (List Char)) : Recogniser (List Char) := fun before text =>
  if atEdge before text then
    (phrases.find? fun phrase =>
      phrase.isPrefixOf text && atEdge phrase.getLast? (text.drop phrase.length)).map
        fun phrase => ⟨phrase.length - 1, phrase⟩
  else none

/-- One of the phrases stands in the text as whole words. -/
def namesAny (phrases : List String) (text : List Char) : Bool :=
  anywhere (wholeWords (phrases.map String.toList)) text

/-- The text before and after the first occurrence of a character. -/
def splitAtFirst? (mark : Char) (text : List Char) : Option (List Char × List Char) :=
  match text.dropWhile (· != mark) with
  | [] => none
  | _ :: rest => some (text.takeWhile (· != mark), rest)

/-- The parts of the text between occurrences of a character; always at least one. -/
def partsBetween (mark : Char) : List Char → List (List Char)
  | [] => [[]]
  | c :: rest =>
      if c = mark then [] :: partsBetween mark rest
      else
        match partsBetween mark rest with
        | [] => [[c]]
        | part :: parts => (c :: part) :: parts

/-- The strings put together with a separator between two of them. -/
def joined (separator : String) (parts : List String) : String :=
  separator.intercalate parts

end PromScribe.Text

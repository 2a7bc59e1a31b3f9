/-!
# Blank characters

The blank characters of every script, trimming, and the words between blanks.
-/

namespace PromScribe.Text

/-- White space of any script. -/
def isBlank (c : Char) : Bool :=
  let code := c.toNat
  (0x9 ≤ code && code ≤ 0xD) || code == 0x20 || code == 0x85 || code == 0xA0 || code == 0x1680 ||
    (0x2000 ≤ code && code ≤ 0x200A) || code == 0x2028 || code == 0x2029 || code == 0x202F ||
    code == 0x205F || code == 0x3000

/-- The text without the leading characters of a class. -/
def trimStartBy (drop : Char → Bool) (text : List Char) : List Char :=
  text.dropWhile drop

/-- The text without the trailing characters of a class. -/
def trimEndBy (drop : Char → Bool) (text : List Char) : List Char :=
  (text.reverse.dropWhile drop).reverse

/-- The text without the characters of a class at both ends. -/
def trimBy (drop : Char → Bool) (text : List Char) : List Char :=
  trimEndBy drop (trimStartBy drop text)

/-- The text without blanks at both ends. -/
def trim (text : List Char) : List Char :=
  trimBy isBlank text

/-- The string without blanks at both ends. -/
def trimString (text : String) : String :=
  String.ofList (trim text.toList)

/-- The string without the given character at its end. -/
def trimEndChar (last : Char) (text : String) : String :=
  String.ofList (trimEndBy (· == last) text.toList)

/-- Nothing but blanks. -/
def isBlankText (text : String) : Bool :=
  text.toList.all isBlank

/-- The maximal runs without blanks; `word` holds the characters of the open run, last first. -/
def wordsFrom (word : List Char) : List Char → List (List Char)
  | [] => if word.isEmpty then [] else [word.reverse]
  | c :: rest =>
      if isBlank c then
        if word.isEmpty then wordsFrom [] rest else word.reverse :: wordsFrom [] rest
      else wordsFrom (c :: word) rest

/-- The maximal runs without blanks, in order. -/
def words (text : List Char) : List (List Char) :=
  wordsFrom [] text

/-- The runs without blanks, one space between two of them and none at the ends. -/
def singleSpaced (text : List Char) : List Char :=
  List.intercalate [' '] (words text)

theorem isBlank_of_isWhitespace {c : Char} (white : c.isWhitespace = true) : isBlank c = true := by
  simp only [Char.isWhitespace, Bool.or_eq_true, decide_eq_true_eq] at white
  rcases white with ((rfl | rfl) | rfl) | rfl <;> decide

end PromScribe.Text

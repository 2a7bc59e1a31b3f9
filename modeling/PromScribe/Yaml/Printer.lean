import PromScribe.Json.Printer
import PromScribe.Text.Bytes
import PromScribe.Yaml.Scalar

/-!
# Printing in blocks

Structured values are written one entry a line, nested entries indented by two blanks, and lists
under a key not indented. Text is written plain where it reads back as that text, else in quotes;
text of several lines is written line by line.
-/

namespace PromScribe.Yaml

open Text

/-- A character that ends a line. -/
def isBreak (c : Char) : Bool :=
  ['\n', '\r', '\u0085', '\u2028', '\u2029'].contains c

/-- A character that stands for itself outside of double quotes. -/
def isPrintable (c : Char) : Bool :=
  let code := c.toNat
  code == 0xA || (0x20 ≤ code && code ≤ 0x7E) ||
    (0xA0 ≤ code && code != 0xFEFF && code != 0xFFFE && code != 0xFFFF)

/-- A blank, a tab, or the end of a line. -/
def isSeparator (c : Char) : Bool :=
  isGap c || isBreak c || c = '\x00'

/-- Plain words that read as nothing or as a truth value. -/
def reservedWords : List String :=
  ["", "~", "null", "Null", "NULL", "true", "True", "TRUE", "false", "False", "FALSE"]

/-- Plain words for numbers that are not finite. -/
def infinityWords : List String :=
  ["", "+", "-"].flatMap fun sign => [".inf", ".Inf", ".INF"].map (sign ++ ·)

/-- Plain words for the undefined number. -/
def undefinedWords : List String := [".nan", ".NaN", ".NAN"]

/-- The text without a sign at its head. -/
def unsigned (text : List Char) : List Char :=
  (NumberReader.splitSign text).2

/-- Digits behind a zero. -/
def hasLeadingZero (text : List Char) : Bool :=
  match unsigned text with
  | '0' :: c :: rest => (c :: rest).all Char.isDigit
  | _ => false

/-- An integer of at most 128 bits to one of three bases. -/
def isBasedInteger (text : List Char) : Bool :=
  let (negative, digits) := NumberReader.splitSign text
  let number? :=
    match digits with
    | '0' :: 'x' :: digits => basedNumber? 16 digits
    | '0' :: 'o' :: digits => basedNumber? 8 digits
    | '0' :: 'b' :: digits => basedNumber? 2 digits
    | _ => none
  number?.any fun number =>
    if negative then number ≤ Nat.pow 2 127 else number < Nat.pow 2 128

/-- The text writes a finite number. -/
def isFinite (text : String) : Bool :=
  match NumberReader.real? text with
  | some (.finite _) => true
  | _ => false

/-- The plain text would not read as that text everywhere. -/
def readsOtherwise (text : String) : Bool :=
  reservedWords.contains text || infinityWords.contains text || undefinedWords.contains text ||
    hasLeadingZero text.toList || isBasedInteger text.toList || isFinite text

/-- A mark that plain text cannot begin with. -/
def isOpeningMark (c : Char) : Bool :=
  "#,[]\x7b\x7d&*!|>'\"%@\x60".toList.contains c

/-- The text is at its end or goes on with a separator. -/
def breaksOff : List Char → Bool
  | [] => true
  | c :: _ => isSeparator c

/-- Plain text may begin like this. -/
def opensPlain : List Char → Bool
  | '-' :: '-' :: '-' :: _ => false
  | '.' :: '.' :: '.' :: _ => false
  | [] => false
  | c :: rest =>
      if ['?', ':', '-'].contains c then !breaksOff rest
      else !isOpeningMark c

/-- A colon in front of a separator or a number sign behind one stands behind the character
before. -/
def hasMark (before : Char) : List Char → Bool
  | [] => false
  | c :: rest =>
      (c = ':' && breaksOff rest) || (c = '#' && isSeparator before) || hasMark c rest

/-- Two characters of given classes stand side by side. -/
def hasPair (left right : Char → Bool) : List Char → Bool
  | c :: d :: rest => (left c && right d) || hasPair left right (d :: rest)
  | _ => false

/-- A blank. -/
def isSpace (c : Char) : Bool := c == ' '

/-- Every character stands for itself, and no blank stands in front of the end of a line. -/
def isQuotable (text : List Char) : Bool :=
  text.all isPrintable && !hasPair isSpace isBreak text

/-- The text can be written plain. -/
def isPlain (text : List Char) : Bool :=
  text.all isPrintable && !text.any isBreak && opensPlain text &&
    text.head? != some ' ' && text.getLast? != some ' ' && !hasMark 'x' text

/-- The text can be written in single quotes. -/
def isSingle (text : List Char) : Bool :=
  isQuotable text && !hasPair isBreak isSpace text

/-- The text can be written line by line. -/
def isLiteral (text : List Char) : Bool :=
  isQuotable text && text.getLast? != some ' '

/-- The blanks of an indentation. -/
def blanks (indent : Nat) : List Char :=
  List.replicate indent ' '

/-- The lines of a text, each indented; empty lines stay empty. -/
def indented (indent : Nat) (fresh : Bool) : List Char → List Char
  | [] => []
  | c :: rest =>
      if isBreak c then c :: indented indent true rest
      else (if fresh then blanks indent else []) ++ c :: indented indent false rest

/-- The mark that tells how a text of several lines ends. -/
def ending (text : List Char) : List Char :=
  match text.reverse with
  | [] => ['-']
  | [last] => if isBreak last then ['+'] else ['-']
  | last :: other :: _ => if !isBreak last then ['-'] else if isBreak other then ['+'] else []

/-- A text written line by line. -/
def literal (indent : Nat) (text : List Char) : List Char :=
  let opensBlank := text.head?.any fun c => isSpace c || isBreak c
  '|' :: ((if opensBlank then ['2'] else []) ++ ending text ++
    '\n' :: indented indent true text)

/-- A text in single quotes. -/
def single (indent : Nat) (text : List Char) : List Char :=
  let doubled := text.flatMap fun c => if c = '\'' then ['\'', '\''] else [c]
  let closing := if text.getLast?.any isBreak then blanks indent else []
  '\'' :: (indented indent false doubled ++ (closing ++ ['\'']))

/-- The letters of escapes. -/
def escapeLetters : List (Char × Char) :=
  [('\x00', '0'), ('\x07', 'a'), ('\x08', 'b'), ('\t', 't'), ('\n', 'n'), ('\x0b', 'v'),
    ('\x0c', 'f'), ('\r', 'r'), ('\x1b', 'e'), ('"', '"'), ('\\', '\\'), ('\u0085', 'N'),
    ('\u00a0', '_'), ('\u2028', 'L'), ('\u2029', 'P')]

/-- A character inside of double quotes. -/
def escaped (c : Char) : List Char :=
  if isPrintable c && !isBreak c && c != '"' && c != '\\' then [c]
  else
    match escapeLetters.lookup c with
    | some letter => ['\\', letter]
    | none =>
        let code := c.toNat
        if code ≤ 0xFF then '\\' :: 'x' :: capitalHexDigits 2 code
        else if code ≤ 0xFFFF then '\\' :: 'u' :: capitalHexDigits 4 code
        else '\\' :: 'U' :: capitalHexDigits 8 code

/-- A text in double quotes. -/
def double (text : List Char) : List Char :=
  '"' :: (text.flatMap escaped ++ ['"'])

/-- A text whose further lines are indented. -/
def scalarText (indent : Nat) (text : String) : List Char :=
  let chars := text.toList
  if chars.contains '\n' then
    if isLiteral chars then literal indent chars else double chars
  else if isPlain chars && !readsOtherwise text then chars
  else if isSingle chars then single indent chars
  else double chars

/-- A text that stands in front of a colon on one line. -/
def isSimpleKey (key : String) : Bool :=
  !key.toList.any isBreak && Text.byteCount key ≤ 128

/-- The break between two lines; a text that is written line by line may have brought it. -/
def lineEnd (text : List Char) : List Char :=
  if text.getLast? = some '\n' then [] else ['\n']

/-- The number of a leaf. -/
def numberText : JsonNumber → List Char
  | .integer value => Json.integerChars value
  | .double value => NumberStyle.sheet.chars value

/-- Entries one a line, all but the first indented. -/
def stacked (indent : Nat) : List (List Char) → List Char
  | [] => []
  | [entry] => entry
  | entry :: rest => entry ++ (lineEnd entry ++ (blanks indent ++ stacked indent rest))

/-- A key of several lines in front of its value. -/
def longKey (indent : Nat) (key : String) : List Char :=
  let first := '?' :: ' ' :: scalarText (indent + 2) key
  first ++ (lineEnd first ++ (blanks indent ++ [':', ' ']))

/-- The text of a truth value. -/
def truthText (value : Bool) : List Char :=
  if value then "true".toList else "false".toList

mutual

/-- A value whose further lines are indented. -/
def block (indent : Nat) : Json → List Char
  | .null => "null".toList
  | .bool value => truthText value
  | .number value => numberText value
  | .string text => scalarText indent text
  | .array list => if list.isEmpty then ['[', ']'] else stacked indent (items indent list)
  | .object members =>
      if members.isEmpty then ['\x7b', '\x7d'] else stacked indent (entries indent members)

/-- A value behind its key and the colon, where keys are indented. -/
def keyed (indent : Nat) : Json → List Char
  | .null => " null".toList
  | .bool value => ' ' :: truthText value
  | .number value => ' ' :: numberText value
  | .string text => ' ' :: scalarText (indent + 2) text
  | .array list =>
      if list.isEmpty then [' ', '[', ']']
      else '\n' :: (blanks indent ++ stacked indent (items indent list))
  | .object members =>
      if members.isEmpty then [' ', '\x7b', '\x7d']
      else '\n' :: (blanks (indent + 2) ++ stacked (indent + 2) (entries (indent + 2) members))

/-- The items of a list. -/
def items (indent : Nat) : List Json → List (List Char)
  | [] => []
  | item :: rest => ('-' :: ' ' :: block (indent + 2) item) :: items indent rest

/-- The entries of an object. -/
def entries (indent : Nat) : List (String × Json) → List (List Char)
  | [] => []
  | (key, value) :: rest =>
      (if isSimpleKey key then scalarText (indent + 2) key ++ ':' :: keyed indent value
        else longKey indent key ++ block (indent + 2) value) :: entries indent rest

end

/-- A whole document. -/
def document (value : Json) : String :=
  let text :=
    match value with
    | .string text => scalarText 2 text
    | _ => block 0 value
  String.ofList (text ++ lineEnd text)

end PromScribe.Yaml

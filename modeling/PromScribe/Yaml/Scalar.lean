import PromScribe.Decimal.Reader
import PromScribe.Settings.Value
import PromScribe.Text.Digits

/-!
# Scalars

Plain text that reads as nothing, a truth value or a number is that; any other plain text, and all
quoted text, is text.
-/

namespace PromScribe.Yaml

open Text

/-- The integer that plain text writes. -/
def integer? (text : List Char) : Option Int :=
  let based? :=
    match text with
    | '0' :: 'x' :: digits => (basedNumber? 16 digits).map Int.ofNat
    | '0' :: 'o' :: digits => (basedNumber? 8 digits).map Int.ofNat
    | _ => none
  (based?.or (NumberReader.integer? (String.ofList text))).filter SettingValue.isInteger

/-- Plain words for numbers that are not finite; none of them can be a setting. -/
def endlessWords : List String :=
  [".inf", ".Inf", ".INF", "+.inf", "+.Inf", "+.INF", "-.inf", "-.Inf", "-.INF", ".nan", ".NAN"]

/-- The value of plain text. -/
def plainValue? (text : List Char) : Option SettingValue :=
  let word := String.ofList text
  if text.isEmpty || word = "~" || word = "null" then some .nothing
  else if word = "true" then some (.truth true)
  else if word = "false" then some (.truth false)
  else if endlessWords.contains word then none
  else
    match integer? text with
    | some value => some (.integer value)
    | none =>
        match NumberReader.real? word with
        | some value => some (.real value)
        | none => some (.text word)

/-- The name that a plain key writes. -/
def plainKey? (text : List Char) : Option String :=
  match plainValue? text with
  | some (.text name) => some name
  | some (.integer value) => some (toString value)
  | _ => none

/-- Escapes of one letter. -/
def letterEscapes : List (Char × Char) :=
  [('0', '\x00'), ('a', '\x07'), ('b', '\x08'), ('t', '\t'), ('\t', '\t'), ('n', '\n'),
    ('v', '\x0b'), ('f', '\x0c'), ('r', '\r'), ('e', '\x1b'), (' ', ' '), ('"', '"'),
    ('\'', '\''), ('\\', '\\'), ('N', '\u0085'), ('_', '\u00a0'), ('L', '\u2028'),
    ('P', '\u2029')]

/-- The digits of a numbered escape. -/
def escapeWidth (c : Char) : Nat :=
  if c = 'x' then 2 else if c = 'u' then 4 else if c = 'U' then 8 else 0

/-- The text of double quotes whose opening quote was taken, and the rest. -/
def doubleQuoted : Nat → List Char → Option (List Char × List Char)
  | 0, _ => none
  | _, [] => none
  | fuel + 1, c :: rest =>
      if c = '"' then some ([], rest)
      else if c = '\\' then
        match rest with
        | [] => none
        | mark :: rest =>
            match letterEscapes.lookup mark with
            | some meant =>
                (doubleQuoted fuel rest).map fun taken => (meant :: taken.1, taken.2)
            | none => do
                let width := escapeWidth mark
                if width = 0 || rest.length < width then none
                let meant ← charOfHex? (rest.take width)
                let (more, rest) ← doubleQuoted fuel (rest.drop width)
                return (meant :: more, rest)
      else (doubleQuoted fuel rest).map fun taken => (c :: taken.1, taken.2)

/-- The text of single quotes whose opening quote was taken, and the rest; a quote in it is
doubled. -/
def singleQuoted : List Char → Option (List Char × List Char)
  | [] => none
  | '\'' :: '\'' :: rest => (singleQuoted rest).map fun taken => ('\'' :: taken.1, taken.2)
  | '\'' :: rest => some ([], rest)
  | c :: rest => (singleQuoted rest).map fun taken => (c :: taken.1, taken.2)

/-- Quoted text at the head of a text, and the rest. -/
def quoted? (text : List Char) : Option (String × List Char) :=
  let taken? :=
    match text with
    | '"' :: rest => doubleQuoted (text.length + 1) rest
    | '\'' :: rest => singleQuoted rest
    | _ => none
  taken?.map fun taken => (String.ofList taken.1, taken.2)

/-- A blank or a tab. -/
def isGap (c : Char) : Bool := c == ' ' || c == '\t'

/-- The text without blanks at its head. -/
def skipGap (text : List Char) : List Char := text.dropWhile isGap

/-- The text without blanks at its end. -/
def dropGap (text : List Char) : List Char := (text.reverse.dropWhile isGap).reverse

/-- Nothing but blanks and a comment. -/
def isIdle (text : List Char) : Bool :=
  match skipGap text with
  | [] => true
  | c :: _ => c == '#'

/-- A blank, or the end of the line. -/
def endsWord : List Char → Bool
  | [] => true
  | c :: _ => isGap c

/-- Plain text may begin here. -/
def beginsPlain : List Char → Bool
  | [] => false
  | c :: rest =>
      if ['-', '?', ':'].contains c then !endsWord rest
      else !",[]\x7b\x7d#&*!|>'\"%@\x60 \t".toList.contains c

/-- Plain text up to a comment, a colon that ends a key or, within brackets, a separator; the
comment mark counts behind a blank. -/
def plainRun (inFlow : Bool) (afterGap : Bool) : List Char → List Char × List Char
  | [] => ([], [])
  | c :: rest =>
      let colon := c = ':' && (endsWord rest ||
        (inFlow && [',', '[', ']', '\x7b', '\x7d'].contains (rest.headD 'x')))
      if (c = '#' && afterGap) || colon || (inFlow && [',', '[', ']', '\x7b', '\x7d'].contains c) then
        ([], c :: rest)
      else
        let (run, left) := plainRun inFlow (isGap c) rest
        (c :: run, left)

/-- Plain text at the head of a text, without blanks at its end, and the rest. -/
def plain? (inFlow : Bool) (text : List Char) : Option (List Char × List Char) :=
  if beginsPlain text then
    let (run, rest) := plainRun inFlow false text
    some (dropGap run, rest)
  else none

end PromScribe.Yaml

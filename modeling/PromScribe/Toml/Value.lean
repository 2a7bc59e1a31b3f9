import PromScribe.Decimal.Reader
import PromScribe.Settings.Value
import PromScribe.Toml.Text

/-!
# Values

Texts, truth values, numbers, dates and times, lists, and tables within braces. Dates and times are
taken as texts.
-/

namespace PromScribe.Toml

open Text

/-- A character of a number, a date or a word. -/
def isWordChar (c : Char) : Bool :=
  c.isAlphanum || ['+', '-', '.', ':', '_'].contains c

/-- The text is a row of digits in which each underscore stands between two digits. -/
def digitsHold (isDigit : Char → Bool) (afterDigit : Bool) : List Char → Bool
  | [] => afterDigit
  | c :: rest =>
      if isDigit c then digitsHold isDigit true rest
      else c == '_' && afterDigit && digitsHold isDigit false rest

/-- The digits of a number without the underscores between them. -/
def plainDigits? (isDigit : Char → Bool) (text : List Char) : Option (List Char) :=
  if digitsHold isDigit false text then some (text.filter (· != '_')) else none

/-- Digits without a needless zero in front. -/
def wholeDigits? (text : List Char) : Option (List Char) :=
  (plainDigits? Char.isDigit text).filter fun digits => digits.head? != some '0' || digits.length = 1

/-- The integer of digits to a base. -/
def basedInteger? (base : Nat) (text : List Char) : Option Int := do
  let digits ← plainDigits? (fun c => (hexDigit? c).any (· < base)) text
  return Int.ofNat (← basedNumber? base digits)

/-- The integer that a word writes. -/
def integer? (word : List Char) : Option Int :=
  let value? :=
    match word with
    | '0' :: 'x' :: digits => basedInteger? 16 digits
    | '0' :: 'o' :: digits => basedInteger? 8 digits
    | '0' :: 'b' :: digits => basedInteger? 2 digits
    | _ =>
        let (negative, digits) := NumberReader.splitSign word
        (wholeDigits? digits).map fun digits =>
          let value : Int := NumberReader.naturalOf digits
          if negative then -value else value
  value?.filter SettingValue.isInteger

/-- The exponent part of a fraction, without its underscores. -/
def exponentPart? (text : List Char) : Option (List Char) :=
  match text with
  | [] => some []
  | _ :: rest =>
      let digits := (NumberReader.splitSign rest).2
      let sign := rest.take (rest.length - digits.length)
      (plainDigits? Char.isDigit digits).map fun digits => 'e' :: (sign ++ digits)

/-- The fraction that a word writes. -/
def real? (word : List Char) : Option (Scalar Binary.double) :=
  let (negative, unsigned) := NumberReader.splitSign word
  if unsigned = "inf".toList then some (.infinite negative)
  else if unsigned = "nan".toList then some .undefined
  else do
    let mantissa := unsigned.takeWhile fun c => c != 'e' && c != 'E'
    let exponent ← exponentPart? (unsigned.drop mantissa.length)
    let whole ← wholeDigits? (mantissa.takeWhile (· != '.'))
    let fraction ←
      match mantissa.dropWhile (· != '.') with
      | [] => some []
      | _ :: digits => (plainDigits? Char.isDigit digits).map ('.' :: ·)
    if fraction.isEmpty && exponent.isEmpty then none
    NumberReader.unsigned? negative (whole ++ fraction ++ exponent)

/-- The word follows a pattern in which `0` stands for any digit. -/
def follows (pattern : String) (word : List Char) : Bool :=
  word.length == pattern.toList.length &&
    (word.zip pattern.toList).all fun pair =>
      if pair.2 = '0' then pair.1.isDigit else pair.1 == pair.2

/-- The word is an offset from universal time. -/
def isOffset (word : List Char) : Bool :=
  word = ['Z'] || word = ['z'] || follows "+00:00" word || follows "-00:00" word

/-- The word is a time of day. -/
def isTime (word : List Char) (offset : Bool) : Bool :=
  let rest := word.drop 8
  let fraction := if rest.head? = some '.' then (rest.drop 1).takeWhile Char.isDigit else []
  let behind := if rest.head? = some '.' then rest.drop (fraction.length + 1) else rest
  follows "00:00:00" (word.take 8) && (rest.head? != some '.' || !fraction.isEmpty) &&
    (behind.isEmpty || (offset && isOffset behind))

/-- The word is a date, a time of day, or both. -/
def isDateTime (word : List Char) : Bool :=
  isTime word false || follows "0000-00-00" word ||
    (follows "0000-00-00" (word.take 10) && ['T', 't', ' '].contains ((word.drop 10).headD 'x') &&
      isTime (word.drop 11) true)

/-- A date or a time as a text. -/
def dateTime? (word : List Char) : Option SettingValue :=
  if isDateTime word then
    some (.text (String.ofList (word.map fun c => if c = ' ' then 'T' else c.toUpper)))
  else none

/-- The value of a word. -/
def wordValue? (word : List Char) : Option SettingValue :=
  if word = "true".toList then some (.truth true)
  else if word = "false".toList then some (.truth false)
  else
    match integer? word with
    | some value => some (.integer value)
    | none =>
        match real? word with
        | some value => some (.real value)
        | none => dateTime? word

/-- A word at the head of the text; a date may go on after one blank. -/
def word (text : List Char) : List Char :=
  let first := text.takeWhile isWordChar
  match text.drop first.length with
  | ' ' :: rest =>
      let second := rest.takeWhile isWordChar
      if follows "0000-00-00" first && follows "00:" (second.take 3) then first ++ ' ' :: second
      else first
  | _ => first

/-- The text behind a comment at its head. -/
def skipComment (text : List Char) : List Char :=
  if text.head? = some '#' then text.dropWhile isTextChar else text

/-- The text without blanks, comments and line breaks at its head. -/
def skipLines : Nat → List Char → List Char
  | 0, text => text
  | fuel + 1, text =>
      let rest := skipComment (skipBlanks text)
      match afterBreak? rest with
      | some rest => skipLines fuel rest
      | none => rest

/-- Entries of a table with another one at a path; nothing where something is there already or the
path leads through what is no table. -/
def insertAt? (entries : List (String × SettingValue)) (value : SettingValue) :
    List String → Option (List (String × SettingValue))
  | [] => none
  | [name] => if (entries.lookup name).isSome then none else some (entries ++ [(name, value)])
  | name :: path =>
      match entries.lookup name with
      | none => (insertAt? [] value path).map fun inner => entries ++ [(name, .table inner)]
      | some (.table inner) =>
          (insertAt? inner value path).map fun inner =>
            entries.map fun entry => if entry.1 = name then (name, .table inner) else entry
      | some _ => none

mutual

/-- The value at the head of the text. -/
def value? : Nat → List Char → Option (SettingValue × List Char)
  | 0, _ => none
  | _, [] => none
  | fuel + 1, c :: rest =>
      if c = '"' || c = '\'' then
        (quoted? (c :: rest)).map fun taken => (.text taken.1, taken.2)
      else if c = '[' then (items? fuel rest).map fun taken => (.list taken.1, taken.2)
      else if c = '\x7b' then
        match skipBlanks rest with
        | '\x7d' :: rest => some (.table [], rest)
        | rest => (members? fuel [] rest).map fun taken => (.table taken.1, taken.2)
      else
        let found := word (c :: rest)
        (wordValue? found).map fun value => (value, (c :: rest).drop found.length)

/-- The items of a list whose bracket was taken. -/
def items? : Nat → List Char → Option (List SettingValue × List Char)
  | 0, _ => none
  | fuel + 1, text =>
      match skipLines text.length text with
      | ']' :: rest => some ([], rest)
      | rest => do
          let (item, rest) ← value? fuel rest
          match skipLines rest.length rest with
          | ',' :: rest => (items? fuel rest).map fun taken => (item :: taken.1, taken.2)
          | ']' :: rest => return ([item], rest)
          | _ => none

/-- The entries of a table within braces. -/
def members? : Nat → List (String × SettingValue) → List Char →
    Option (List (String × SettingValue) × List Char)
  | 0, _, _ => none
  | fuel + 1, found, text => do
      let (key, rest) ← key? (text.length + 1) text
      match rest with
      | '=' :: rest =>
          let (value, rest) ← value? fuel (skipBlanks rest)
          let found ← insertAt? found value key
          match skipBlanks rest with
          | ',' :: rest => members? fuel found rest
          | '\x7d' :: rest => return (found, rest)
          | _ => none
      | _ => none

end

end PromScribe.Toml

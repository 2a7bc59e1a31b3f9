import PromScribe.Text.Digits

/-!
# Quoted text and keys

Text between double quotes may hold escapes, text between single quotes is taken as it is; three
quotes of a kind begin text over several lines. A key is bare or quoted, and names with points
between them make a path.
-/

namespace PromScribe.Toml

open Text

/-- The text without blanks and tabs at its head. -/
def skipBlanks (text : List Char) : List Char :=
  text.dropWhile fun c => c == ' ' || c == '\t'

/-- A character that may stand in text on one line. -/
def isTextChar (c : Char) : Bool :=
  c == '\t' || (31 < c.toNat && c.toNat != 127)

/-- Escapes of one letter. -/
def letterEscapes : List (Char × Char) :=
  [('b', '\x08'), ('t', '\t'), ('n', '\n'), ('f', '\x0c'), ('r', '\r'), ('"', '"'), ('\\', '\\')]

/-- The character of the escape whose backslash was taken. -/
def escape? : List Char → Option (Char × List Char)
  | [] => none
  | c :: rest =>
      match letterEscapes.lookup c with
      | some meant => some (meant, rest)
      | none =>
          let width := if c = 'u' then 4 else if c = 'U' then 8 else 0
          if width = 0 || rest.length < width then none
          else (charOfHex? (rest.take width)).map fun meant => (meant, rest.drop width)

/-- The text after a line break, which is one or two characters. -/
def afterBreak? : List Char → Option (List Char)
  | '\n' :: rest => some rest
  | '\r' :: '\n' :: rest => some rest
  | _ => none

/-- The text up to a double quote on the same line. -/
def basicText : Nat → List Char → Option (List Char × List Char)
  | 0, _ => none
  | _, [] => none
  | fuel + 1, c :: rest =>
      if c = '"' then some ([], rest)
      else if c = '\\' then do
        let (meant, rest) ← escape? rest
        let (more, rest) ← basicText fuel rest
        return (meant :: more, rest)
      else if isTextChar c then (basicText fuel rest).map fun taken => (c :: taken.1, taken.2)
      else none

/-- The text up to a single quote on the same line. -/
def literalText : List Char → Option (List Char × List Char)
  | [] => none
  | c :: rest =>
      if c = '\'' then some ([], rest)
      else if isTextChar c then (literalText rest).map fun taken => (c :: taken.1, taken.2)
      else none

/-- The quotes of the given kind at the head of the text. -/
def quoteRun (quote : Char) (text : List Char) : Nat :=
  (text.takeWhile (· == quote)).length

/-- The end of text over several lines: up to two quotes more than three belong to the text. -/
def closing? (quote : Char) (text : List Char) : Option (List Char × List Char) :=
  let run := quoteRun quote text
  if run < 3 then none
  else
    let kept := Nat.min (run - 3) 2
    some (List.replicate kept quote, text.drop (kept + 3))

/-- The text without the blanks, tabs and line breaks at its head, of which one is a line break
behind nothing but blanks. -/
def afterFoldedBreak? (text : List Char) : Option (List Char) :=
  (afterBreak? (skipBlanks text)).map fun rest =>
    rest.dropWhile fun c => c == ' ' || c == '\t' || c == '\n' || c == '\r'

/-- Text over several lines up to three quotes; with `escapes`, backslashes are not taken as they
are. -/
def longText (quote : Char) (escapes : Bool) : Nat → List Char → Option (List Char × List Char)
  | 0, _ => none
  | _, [] => none
  | fuel + 1, c :: rest =>
      match closing? quote (c :: rest) with
      | some (kept, rest) => some (kept, rest)
      | none =>
          if c = '\\' && escapes then
            match afterFoldedBreak? rest with
            | some rest => longText quote escapes fuel rest
            | none => do
                let (meant, rest) ← escape? rest
                let (more, rest) ← longText quote escapes fuel rest
                return (meant :: more, rest)
          else
            match afterBreak? (c :: rest) with
            | some rest =>
                (longText quote escapes fuel rest).map fun taken => ('\n' :: taken.1, taken.2)
            | none =>
                if isTextChar c then
                  (longText quote escapes fuel rest).map fun taken => (c :: taken.1, taken.2)
                else none

/-- Quoted text, a quote standing at the head. -/
def quoted? (text : List Char) : Option (String × List Char) :=
  let fuel := text.length + 1
  let taken? : Option (List Char × List Char) :=
    match text with
    | '"' :: '"' :: '"' :: rest => longText '"' true fuel ((afterBreak? rest).getD rest)
    | '"' :: rest => basicText fuel rest
    | '\'' :: '\'' :: '\'' :: rest => longText '\'' false fuel ((afterBreak? rest).getD rest)
    | '\'' :: rest => literalText rest
    | _ => none
  taken?.map fun taken => (String.ofList taken.1, taken.2)

/-- A character of a bare key. -/
def isBareChar (c : Char) : Bool :=
  c.isAlphanum || c == '_' || c == '-'

/-- One name of a key. -/
def name? (text : List Char) : Option (String × List Char) :=
  match text with
  | '"' :: rest =>
      (basicText (text.length + 1) rest).map fun taken => (String.ofList taken.1, taken.2)
  | '\'' :: rest => (literalText rest).map fun taken => (String.ofList taken.1, taken.2)
  | _ =>
      let bare := text.takeWhile isBareChar
      if bare.isEmpty then none else some (String.ofList bare, text.drop bare.length)

/-- The names of a key with points between them, and blanks around those. -/
def key? : Nat → List Char → Option (List String × List Char)
  | 0, _ => none
  | fuel + 1, text => do
      let (name, rest) ← name? (skipBlanks text)
      match skipBlanks rest with
      | '.' :: rest => (key? fuel rest).map fun taken => (name :: taken.1, taken.2)
      | rest => return ([name], rest)

end PromScribe.Toml

import PromScribe.Json.Value
import PromScribe.Decimal.Shortest
import PromScribe.Text.Digits

/-!
# Printing structured values

Two forms: compact, without any blanks, and indented by two spaces a level.
-/

namespace PromScribe.Json

/-- A character inside of quotes. -/
def escaped (c : Char) : List Char :=
  if c = '"' then ['\\', '"']
  else if c = '\\' then ['\\', '\\']
  else if c = '\n' then ['\\', 'n']
  else if c = '\r' then ['\\', 'r']
  else if c = '\t' then ['\\', 't']
  else if c = '\x08' then ['\\', 'b']
  else if c = '\x0c' then ['\\', 'f']
  else if c.toNat < 0x20 then
    ['\\', 'u', '0', '0', Text.smallHexDigit (c.toNat / 16), Text.smallHexDigit (c.toNat % 16)]
  else [c]

/-- A quoted text. -/
def quoted (text : List Char) : List Char :=
  '"' :: (text.flatMap escaped ++ ['"'])

/-- The text of an integer. -/
def integerChars (value : Int) : List Char :=
  (if value < 0 then ['-'] else []) ++ Nat.toDigits 10 value.natAbs

/-- The text of a number. -/
def numberChars : JsonNumber → List Char
  | .integer value => integerChars value
  | .double value => NumberStyle.document.chars value

mutual

/-- The compact form. -/
def render : Json → List Char
  | .null => "null".toList
  | .bool true => "true".toList
  | .bool false => "false".toList
  | .number value => numberChars value
  | .string text => quoted text.toList
  | .array items => '[' :: (renderItems items ++ [']'])
  | .object members => '\x7b' :: (renderMembers members ++ ['\x7d'])

/-- The compact forms of items with commas between them. -/
def renderItems : List Json → List Char
  | [] => []
  | [item] => render item
  | item :: rest => render item ++ ',' :: renderItems rest

/-- The compact forms of members with commas between them. -/
def renderMembers : List (String × Json) → List Char
  | [] => []
  | [(key, value)] => quoted key.toList ++ ':' :: render value
  | (key, value) :: rest =>
      quoted key.toList ++ ':' :: (render value ++ ',' :: renderMembers rest)

end

/-- The compact form as a string. -/
def text (value : Json) : String :=
  String.ofList value.render

/-- A line break and the blanks of a level. -/
def lineAt (level : Nat) : List Char :=
  '\n' :: List.replicate (2 * level) ' '

mutual

/-- The indented form at a level. -/
def renderAt (level : Nat) : Json → List Char
  | .array [] => ['[', ']']
  | .array (item :: rest) =>
      '[' :: (renderItemsAt (level + 1) (item :: rest) ++ (lineAt level ++ [']']))
  | .object [] => ['\x7b', '\x7d']
  | .object (member :: rest) =>
      '\x7b' :: (renderMembersAt (level + 1) (member :: rest) ++ (lineAt level ++ ['\x7d']))
  | .null => "null".toList
  | .bool true => "true".toList
  | .bool false => "false".toList
  | .number value => numberChars value
  | .string text => quoted text.toList

/-- Items of a level, one a line. -/
def renderItemsAt (level : Nat) : List Json → List Char
  | [] => []
  | [item] => lineAt level ++ renderAt level item
  | item :: rest => lineAt level ++ renderAt level item ++ ',' :: renderItemsAt level rest

/-- Members of a level, one a line. -/
def renderMembersAt (level : Nat) : List (String × Json) → List Char
  | [] => []
  | [(key, value)] => lineAt level ++ quoted key.toList ++ ':' :: ' ' :: renderAt level value
  | (key, value) :: rest =>
      lineAt level ++ quoted key.toList ++ ':' :: ' ' :: (renderAt level value ++
        ',' :: renderMembersAt level rest)

end

/-- The indented form as a string. -/
def prettyText (value : Json) : String :=
  String.ofList (value.renderAt 0)

end PromScribe.Json

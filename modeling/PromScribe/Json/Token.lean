import PromScribe.Json.Number
import PromScribe.Json.Document
import PromScribe.Text.Digits
import PromScribe.Text.Sweep

/-!
# Tokens

The signs of the written form: brackets, separators, and the values that have no parts.
-/

namespace PromScribe

/-- A sign of the written form. -/
inductive Json.Token where
  | openArray
  | closeArray
  | openObject
  | closeObject
  | comma
  | colon
  | scalar (value : Document)
  /-- A character that begins no sign. -/
  | stray

namespace Json.Token

open PromScribe.Text

/-- The value of four hexadecimal digits. -/
def hexWord? (a b c d : Char) : Option Nat := do
  return (((← hexDigit? a) * 16 + (← hexDigit? b)) * 16 + (← hexDigit? c)) * 16 + (← hexDigit? d)

/-- The character that a one-letter escape stands for. -/
def escape? (c : Char) : Option Char :=
  match c with
  | '"' => some '"'
  | '\\' => some '\\'
  | '/' => some '/'
  | 'b' => some '\x08'
  | 'f' => some '\x0c'
  | 'n' => some '\n'
  | 'r' => some '\r'
  | 't' => some '\t'
  | _ => none

/-- The characters up to the closing quote. Control characters and unknown escapes are refused. -/
def quotedBody? : List Char → Option (List Char)
  | [] => none
  | '"' :: _ => some []
  | '\\' :: 'u' :: a :: b :: c :: d :: rest =>
      if (hexWord? a b c d).isSome then
        (quotedBody? rest).map fun body => '\\' :: 'u' :: a :: b :: c :: d :: body
      else none
  | '\\' :: c :: rest =>
      if (escape? c).isSome then (quotedBody? rest).map fun body => '\\' :: c :: body else none
  | c :: rest =>
      if c = '\\' || c.toNat < 0x20 then none else (quotedBody? rest).map fun body => c :: body

/-- The first half of a character beyond sixteen bits. -/
def isHighHalf (code : Nat) : Bool := 0xD800 ≤ code && code < 0xDC00

/-- The second half of a character beyond sixteen bits. -/
def isLowHalf (code : Nat) : Bool := 0xDC00 ≤ code && code < 0xE000

/-- The text that the characters between quotes stand for; nothing if half a character is named
alone. -/
def unescaped? : List Char → Option (List Char)
  | [] => some []
  | '\\' :: 'u' :: a :: b :: c :: d :: rest => do
      let code ← hexWord? a b c d
      if isHighHalf code then
        match rest with
        | '\\' :: 'u' :: e :: f :: g :: h :: rest => do
            let low ← hexWord? e f g h
            if isLowHalf low then
              let tail ← unescaped? rest
              return Char.ofNat (0x10000 + (code - 0xD800) * 0x400 + (low - 0xDC00)) :: tail
            else none
        | _ => none
      else if isLowHalf code then none
      else
        let tail ← unescaped? rest
        return Char.ofNat code :: tail
  | '\\' :: c :: rest => do
      let c ← escape? c
      let tail ← unescaped? rest
      return c :: tail
  | c :: rest => (unescaped? rest).map (c :: ·)

/-- A blank of the written form. -/
def isSpacing (c : Char) : Bool :=
  c == ' ' || c == '\n' || c == '\t' || c == '\r'

/-- Accepts a word. -/
def word (spelling : String) (value : Document) (text : List Char) : Option (Hit Token) :=
  if spelling.toList.isPrefixOf text then some ⟨spelling.length - 1, .scalar value⟩ else none

/-- Accepts one sign. -/
def sign : Recogniser Token := fun _ text =>
  match text with
  | [] => none
  | c :: rest =>
      match c with
      | '[' => some ⟨0, .openArray⟩
      | ']' => some ⟨0, .closeArray⟩
      | '\x7b' => some ⟨0, .openObject⟩
      | '\x7d' => some ⟨0, .closeObject⟩
      | ',' => some ⟨0, .comma⟩
      | ':' => some ⟨0, .colon⟩
      | '"' =>
          (quotedBody? rest).map fun body =>
            ⟨body.length + 1, .scalar (.string ((unescaped? body).map String.ofList))⟩
      | 'n' => word "null" .null text
      | 't' => word "true" (.bool true) text
      | 'f' => word "false" (.bool false) text
      | _ =>
          (NumberLiteral.atHead? text).map fun found =>
            ⟨found.2 - 1, .scalar (.number found.1.value?)⟩

/-- The signs of a text; blanks between them are dropped. -/
def ofText (text : List Char) : List Token :=
  (sweep sign text).filterMap fun
    | .plain c => if isSpacing c then none else some .stray
    | .hit _ token => some token

end Json.Token

end PromScribe

import PromScribe.Json.Token
import PromScribe.Proofs.Text.Digits

/-!
# The grammar of the written form

Which texts are written values, and what document each of them writes. Blanks may stand around the
items, keys and values of containers; between quotes stand characters and escapes.
-/

namespace PromScribe

open Text

namespace NumberLiteral

/-- Decimal digits, at least one. -/
structure IsDigits (digits : List Char) : Prop where
  nonempty : digits ≠ []
  decimal : ∀ c ∈ digits, c.isDigit = true

/-- A fraction is left out, or is digits behind a point. -/
inductive WritesFraction : Option (List Char) → List Char → Prop where
  | absent : WritesFraction none []
  | present {digits : List Char} (row : IsDigits digits) :
      WritesFraction (some digits) ('.' :: digits)

/-- An exponent is left out, or is digits behind a mark, with or without a sign. -/
inductive WritesExponent : Option (Bool × List Char) → List Char → Prop where
  | absent : WritesExponent none []
  | present {mark : Char} {negative : Bool} {sign digits : List Char} (marked : mark ∈ ['e', 'E'])
      (signed : (negative, sign) ∈ [(false, []), (false, ['+']), (true, ['-'])])
      (row : IsDigits digits) :
      WritesExponent (some (negative, digits)) (mark :: (sign ++ digits))

/-- The parts of a number in their order; a whole part of several digits has no leading zero. -/
inductive Writes : NumberLiteral → List Char → Prop where
  | parts {negative : Bool} {whole fractionText exponentText : List Char}
      {fraction : Option (List Char)} {exponent : Option (Bool × List Char)}
      (leading : whole = ['0'] ∨ IsCount whole) (behind : WritesFraction fraction fractionText)
      (power : WritesExponent exponent exponentText) :
      Writes ⟨negative, whole, fraction, exponent⟩
        ((if negative then ['-'] else []) ++ whole ++ fractionText ++ exponentText)

end NumberLiteral

namespace Json

open Token

/-- What may stand between quotes. -/
inductive IsQuotable : List Char → Prop where
  | done : IsQuotable []
  | plain {c : Char} {rest : List Char} (quote : c ≠ '"') (slash : c ≠ '\\')
      (printed : 0x20 ≤ c.toNat) (more : IsQuotable rest) : IsQuotable (c :: rest)
  | escape {c : Char} {rest : List Char} (known : c ∈ ['"', '\\', '/', 'b', 'f', 'n', 'r', 't'])
      (more : IsQuotable rest) : IsQuotable ('\\' :: c :: rest)
  | code {a b c d : Char} {rest : List Char}
      (hex : ∀ digit ∈ [a, b, c, d], (hexDigit? digit).isSome = true) (more : IsQuotable rest) :
      IsQuotable ('\\' :: 'u' :: a :: b :: c :: d :: rest)

/-- A text between quotes. -/
def inQuotes (body : List Char) : List Char := '"' :: (body ++ ['"'])

/-- The text that a quoted one stands for, if it is one. -/
def quotedValue? (body : List Char) : Option String := (unescaped? body).map String.ofList

/-- Blanks, possibly none. -/
def IsGap (text : List Char) : Prop := ∀ c ∈ text, isSpacing c = true

instance (text : List Char) : Decidable (IsGap text) :=
  decidable_of_iff (text.all isSpacing = true) List.all_eq_true

/-- A quoted key with blanks around it. -/
inductive WritesKey : Option String → List Char → Prop where
  | spaced {before body after : List Char} (gap : IsGap before) (quotable : IsQuotable body)
      (gapBehind : IsGap after) :
      WritesKey (quotedValue? body) (before ++ inQuotes body ++ after)

/-- What is written: a value, a value with blanks around it, or what stands between the brackets
of a container. -/
inductive Content where
  | value (document : Document)
  | spaced (document : Document)
  | items (items : List Document)
  | members (members : List (Option String × Document))

/-- The text writes the content. -/
inductive Writes : Content → List Char → Prop where
  | null : Writes (.value .null) "null".toList
  | yes : Writes (.value (.bool true)) "true".toList
  | no : Writes (.value (.bool false)) "false".toList
  | number {literal : NumberLiteral} {text : List Char} (parts : literal.Writes text) :
      Writes (.value (.number literal.value?)) text
  | string {body : List Char} (quotable : IsQuotable body) :
      Writes (.value (.string (quotedValue? body))) (inQuotes body)
  | array {items : List Document} {text : List Char} (inside : Writes (.items items) text) :
      Writes (.value (.array items true)) ('[' :: (text ++ [']']))
  | object {members : List (Option String × Document)} {text : List Char}
      (inside : Writes (.members members) text) :
      Writes (.value (.object members true)) ('\x7b' :: (text ++ ['\x7d']))
  | spaced {before text after : List Char} {document : Document} (gap : IsGap before)
      (value : Writes (.value document) text) (gapBehind : IsGap after) :
      Writes (.spaced document) (before ++ text ++ after)
  | noItem {text : List Char} (gap : IsGap text) : Writes (.items []) text
  | lastItem {text : List Char} {item : Document} (value : Writes (.spaced item) text) :
      Writes (.items [item]) text
  | moreItems {text more : List Char} {item next : Document} {items : List Document}
      (value : Writes (.spaced item) text) (others : Writes (.items (next :: items)) more) :
      Writes (.items (item :: next :: items)) (text ++ ',' :: more)
  | noMember {text : List Char} (gap : IsGap text) : Writes (.members []) text
  | lastMember {name text : List Char} {key : Option String} {item : Document}
      (named : WritesKey key name) (value : Writes (.spaced item) text) :
      Writes (.members [(key, item)]) (name ++ ':' :: text)
  | moreMembers {name text more : List Char} {key : Option String} {item : Document}
      {next : Option String × Document} {members : List (Option String × Document)}
      (named : WritesKey key name) (value : Writes (.spaced item) text)
      (others : Writes (.members (next :: members)) more) :
      Writes (.members ((key, item) :: next :: members)) (name ++ ':' :: (text ++ ',' :: more))

end Json

end PromScribe

import PromScribe.Json.Value

/-!
# Documents

A document is what was written: members in their order, keys that come twice, numbers that are too
large, quoted text that is no text, and the place where the writing breaks off. A structured value
is the meaning of a document without such defects.
-/

namespace PromScribe

/-- A written value. -/
inductive Document where
  | null
  | bool (value : Bool)
  /-- Nothing stands for a number that is too large. -/
  | number (value : Option JsonNumber)
  /-- Nothing stands for an escape that names half a character. -/
  | string (value : Option String)
  | array (items : List Document) (closed : Bool)
  | object (members : List (Option String × Document)) (closed : Bool)
  /-- The writing breaks off where a value is expected. -/
  | broken

/-- Why a document is not what is wanted. -/
inductive Json.Fault where
  /-- The writing breaks the rules. -/
  | syntaxFault
  /-- The value has another shape. -/
  | shapeFault
deriving DecidableEq, Repr

namespace Document

/-- Containers may be nested this deep where their content is read. -/
def depthLimit : Nat := 127

mutual

/-- The writing keeps the rules that hold even for what is skipped. -/
def isWhole : Document → Bool
  | .array items closed => wholeItems items && closed
  | .object members closed => wholeMembers members && closed
  | .broken => false
  | .null => true
  | .bool _ => true
  | .number _ => true
  | .string _ => true

/-- Every item is whole. -/
def wholeItems : List Document → Bool
  | [] => true
  | item :: rest => isWhole item && wholeItems rest

/-- Every member is whole. -/
def wholeMembers : List (Option String × Document) → Bool
  | [] => true
  | (_, value) :: rest => isWhole value && wholeMembers rest

end

mutual

/-- The meaning of a document with at most `room` nested containers. Of members with one key the
last one counts. -/
def meaning? (room : Nat) : Document → Option Json
  | .null => some .null
  | .bool value => some (.bool value)
  | .number value => value.map .number
  | .string value => value.map .string
  | .array items closed =>
      match room with
      | 0 => none
      | room + 1 => if closed then (itemMeanings? room items).map .array else none
  | .object members closed =>
      match room with
      | 0 => none
      | room + 1 =>
          if closed then
            (memberMeanings? room members).map fun members =>
              .object (Keyed.ofList members).entries
          else none
  | .broken => none

/-- The meanings of items. -/
def itemMeanings? (room : Nat) : List Document → Option (List Json)
  | [] => some []
  | item :: rest => do
      let item ← meaning? room item
      let rest ← itemMeanings? room rest
      return item :: rest

/-- The meanings of members. -/
def memberMeanings? (room : Nat) :
    List (Option String × Document) → Option (List (String × Json))
  | [] => some []
  | (key, value) :: rest => do
      let key ← key
      let value ← meaning? room value
      let rest ← memberMeanings? room rest
      return (key, value) :: rest

end

mutual

/-- The document that writes a value. -/
def ofJson : Json → Document
  | .null => .null
  | .bool value => .bool value
  | .number value => .number (some value)
  | .string value => .string (some value)
  | .array items => .array (ofItems items) true
  | .object members => .object (ofMembers members) true

/-- The documents that write items. -/
def ofItems : List Json → List Document
  | [] => []
  | item :: rest => ofJson item :: ofItems rest

/-- The documents that write members. -/
def ofMembers : List (String × Json) → List (Option String × Document)
  | [] => []
  | (key, value) :: rest => (some key, ofJson value) :: ofMembers rest

end

/-- The fault of a document where another kind of value is wanted. -/
def mismatch : Document → Json.Fault
  | .broken => .syntaxFault
  | .number none => .syntaxFault
  | .string none => .syntaxFault
  | _ => .shapeFault

end Document

end PromScribe

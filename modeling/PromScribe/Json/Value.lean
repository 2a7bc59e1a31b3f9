import PromScribe.Binary.Layout
import PromScribe.Keyed

/-!
# Structured values

The values of the data format that every answer and every reply is written in.
-/

namespace PromScribe

/-- A number: an integer of at most 64 bits, or a finite double. -/
inductive JsonNumber where
  | integer (value : Int)
  | double (value : Double)
deriving DecidableEq

/-- A structured value. -/
inductive Json where
  | null
  | bool (value : Bool)
  | number (value : JsonNumber)
  | string (value : String)
  | array (items : List Json)
  | object (members : List (String × Json))

namespace Json

/-- A natural number as a value. -/
def nat (value : Nat) : Json := .number (.integer value)

/-- Strings as a value. -/
def strings (items : List String) : Json := .array (items.map .string)

/-- A string, or nothing. -/
def optionalString (value : Option String) : Json :=
  match value with
  | some text => .string text
  | none => .null

/-- An object whose members are in ascending order of their keys. -/
def keyed {α : Type} (written : α → Json) (map : Keyed α) : Json :=
  .object (map.entries.map fun entry => (entry.1, written entry.2))

/-- The member of an object. -/
def member? (key : String) : Json → Option Json
  | .object members => members.lookup key
  | _ => none

/-- The string that the value is. -/
def string? : Json → Option String
  | .string text => some text
  | _ => none


end Json

/-- The double nearest to the number. -/
def JsonNumber.toDouble? : JsonNumber → Option Double
  | .integer value => Finite.ofInt? value
  | .double value => some value

end PromScribe

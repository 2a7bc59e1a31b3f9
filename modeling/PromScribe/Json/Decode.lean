import PromScribe.Json.Reader

/-!
# Decoding

Decoders take typed values from documents. A record is an object with named fields or an array of
the fields in their order. Faults are reported in the order in which they were written, so of two
faults the one that comes first decides.
-/

namespace PromScribe

/-- Takes a value from a document. -/
abbrev Decoder (α : Type) := Document → Except Json.Fault α

namespace Decoder

/-- A string. -/
def string : Decoder String
  | .string (some text) => .ok text
  | document => .error document.mismatch

/-- A truth value. -/
def bool : Decoder Bool
  | .bool value => .ok value
  | document => .error document.mismatch

/-- A natural number below a bound. -/
def natBelow (bound : Nat) : Decoder Nat
  | .number (some (.integer value)) =>
      if 0 ≤ value && value < bound then .ok value.toNat else .error .shapeFault
  | document => .error document.mismatch

/-- A number. -/
def number : Decoder JsonNumber
  | .number (some value) => .ok value
  | document => .error document.mismatch

/-- The double nearest to a number. -/
def double : Decoder Double := fun document => do
  let value ← number document
  match value.toDouble? with
  | some value => return value
  | none => throw .shapeFault

/-- Nothing for `null`. -/
def optional {α : Type} (decoder : Decoder α) : Decoder (Option α)
  | .null => .ok none
  | document => (decoder document).map some

/-- The items of an array. -/
def list {α : Type} (decoder : Decoder α) : Decoder (List α)
  | .array items closed => do
      let values ← items.mapM decoder
      if closed then return values else throw .syntaxFault
  | document => .error document.mismatch

/-- The members of an object in their order. -/
def members {α : Type} (decoder : Decoder α) : Decoder (List (String × α))
  | .object entries closed => do
      let values ← entries.mapM fun entry =>
        match entry.1 with
        | none => .error .syntaxFault
        | some key => (decoder entry.2).map fun value => (key, value)
      if closed then return values else throw .syntaxFault
  | document => .error document.mismatch

/-- The members of an object by key; of members with one key the last one counts. -/
def keyed {α : Type} (decoder : Decoder α) : Decoder (Keyed α) := fun document =>
  (members decoder document).map Keyed.ofList

/-- Any value with at most `room` nested containers. -/
def value (room : Nat) : Decoder Json := fun document =>
  match document.meaning? room with
  | some value => .ok value
  | none => .error .syntaxFault

/-- One of some names. An object with the name as its only key and `null` under it names it too. -/
def oneOf {α : Type} (name : α → String) (choices : List α) : Decoder α
  | .object [(key, .null)] true => pick key
  | .string text => pick text
  | document => .error document.mismatch
where
  /-- The choice with the given name. -/
  pick : Option String → Except Json.Fault α
    | none => .error .syntaxFault
    | some text =>
        match choices.find? fun choice => name choice == text with
        | some choice => .ok choice
        | none => .error .shapeFault

end Decoder

/-- What a record demands of a field. -/
inductive FieldNeed where
  | required
  /-- May be left out among named fields. -/
  | nullable
  /-- May be left out. -/
  | defaulted
deriving DecidableEq, Repr

/-- A field of a record: its name, whether it may be left out, and the fault of its value. -/
structure Field where
  name : String
  need : FieldNeed
  fault? : Document → Option Json.Fault

/-- A field whose value a decoder takes. -/
def Field.of {α : Type} (name : String) (need : FieldNeed) (decoder : Decoder α) : Field where
  name := name
  need := need
  fault? document :=
    match decoder document with
    | .ok _ => none
    | .error fault => some fault

/-- The fields of a record that were written. -/
abbrev Record := List (String × Document)

namespace Record

/-- Takes members in their order; keys that no field has are skipped. -/
def ofMembers (fields : List Field) (found : Record) :
    List (Option String × Document) → Except Json.Fault Record
  | [] => .ok found
  | (none, _) :: _ => .error .syntaxFault
  | (some key, value) :: rest =>
      match fields.find? fun field => field.name == key with
      | none => if value.isWhole then ofMembers fields found rest else .error .syntaxFault
      | some field =>
          if (found.lookup key).isSome then .error .shapeFault
          else
            match field.fault? value with
            | some fault => .error fault
            | none => ofMembers fields ((key, value) :: found) rest

/-- Takes items for the fields in their order. -/
def ofItems (closed : Bool) : List Field → List Document → Except Json.Fault Record
  | [], [] => if closed then .ok [] else .error .syntaxFault
  | [], _ :: _ => .error .syntaxFault
  | field :: fields, [] =>
      if !closed then .error .syntaxFault
      else if field.need = .defaulted then ofItems closed fields []
      else .error .shapeFault
  | field :: fields, item :: items =>
      match field.fault? item with
      | some fault => .error fault
      | none => (ofItems closed fields items).map ((field.name, item) :: ·)

/-- The written fields of a record. -/
def ofDocument (fields : List Field) : Decoder Record
  | .object members closed => do
      let found ← ofMembers fields [] members
      if !closed then throw .syntaxFault
      if fields.any fun field => field.need = .required && (found.lookup field.name).isNone then
        throw .shapeFault
      return found
  | .array items closed => ofItems closed fields items
  | document => .error document.mismatch

/-- The value of a field that must have been written. -/
def get {α : Type} (record : Record) (name : String) (decoder : Decoder α) :
    Except Json.Fault α :=
  match record.lookup name with
  | some document => decoder document
  | none => .error .shapeFault

/-- The value of a field, or a default if it was left out. -/
def getD {α : Type} (record : Record) (name : String) (decoder : Decoder α) (default : α) :
    Except Json.Fault α :=
  match record.lookup name with
  | some document => decoder document
  | none => .ok default

end Record

end PromScribe

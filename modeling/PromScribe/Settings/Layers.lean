import PromScribe.Settings.Value
import PromScribe.Text.Blank
import PromScribe.Text.Literal

/-!
# Layers of settings

Sources are laid over each other: the defaults at the bottom, then the file, then variables of the
environment that name a setting by its path, and short variables on top. Tables are merged entry by
entry, so a source changes only the settings that it names.
-/

namespace PromScribe

open Text

namespace SettingValue

/-- No entries. -/
def emptyTable : SettingValue := .table []

/-- The entries of a table; anything else has none. -/
def entries : SettingValue → List (String × SettingValue)
  | .table found => found
  | _ => []

/-- Entries with a value put under a name, in place of an earlier one. -/
def putEntry (name : String) (value : SettingValue) :
    List (String × SettingValue) → List (String × SettingValue)
  | [] => [(name, value)]
  | (other, kept) :: rest =>
      if other = name then (name, value) :: rest else (other, kept) :: putEntry name value rest

/-- The entry of a name, an empty table where there is none. -/
def entry (table : SettingValue) (name : String) : SettingValue :=
  (table.entries.lookup name).getD emptyTable

/-- A table with a value put under a name; what is no table is given up for one. -/
def put (table : SettingValue) (name : String) (value : SettingValue) : SettingValue :=
  .table (putEntry name value table.entries)

mutual

/-- A value laid over another one. -/
def covered (below : SettingValue) : SettingValue → SettingValue
  | .table found => coveredBy below found
  | .nothing => .nothing
  | .truth value => .truth value
  | .integer value => .integer value
  | .real value => .real value
  | .text value => .text value
  | .list items => .list items

/-- Entries laid over a value one by one. -/
def coveredBy (below : SettingValue) : List (String × SettingValue) → SettingValue
  | [] => below
  | (name, value) :: rest =>
      coveredBy (below.put name (covered (below.entry name) value)) rest

end

/-- The items of a list; anything else has none. -/
def items : SettingValue → List SettingValue
  | .list found => found
  | _ => []

/-- Items with the one at a place changed; there are as many empty ones in front of it as needed. -/
def changeItem (change : SettingValue → SettingValue) : Nat → List SettingValue → List SettingValue
  | 0, [] => [change .nothing]
  | 0, item :: rest => change item :: rest
  | place + 1, [] => .nothing :: changeItem change place []
  | place + 1, item :: rest => item :: changeItem change place rest

/-- A step from a value into it: to the entry of a name, or to the item at a place of a list. -/
inductive Step where
  | entry (name : String)
  | item (place : Nat)
deriving DecidableEq, Repr

/-- The value with another one laid over it at the end of a path; an item is replaced as a whole. -/
def coveredAt (below : SettingValue) (value : SettingValue) : List Step → SettingValue
  | [] => below.covered value
  | [.item place] => .list (changeItem (fun _ => value) place below.items)
  | .entry name :: path => below.put name ((below.entry name).coveredAt value path)
  | .item place :: path =>
      .list (changeItem (fun item => item.coveredAt value path) place below.items)

end SettingValue

/-- The entries of a source with the names that they are for. -/
abbrev SettingLayer := List (String × SettingValue)

namespace SettingLayer

/-- A character of a name in a path. -/
def isNameChar (c : Char) : Bool :=
  c.isAlphanum || c == '_' || c == '-' || c == ' '

/-- The steps that a text goes on with behind the first name of a path: a point and a name, or a
number within brackets. -/
def stepsOf? : Nat → List Char → Option (List SettingValue.Step)
  | 0, _ => none
  | _, [] => some []
  | fuel + 1, '.' :: text => do
      let name := text.takeWhile isNameChar
      if name.isEmpty then none
      return .entry (String.ofList name) :: (← stepsOf? fuel (text.drop name.length))
  | fuel + 1, '[' :: text => do
      let inner := text.takeWhile (· != ']')
      let place ← NumberReader.digits? (trim inner)
      if text.length = inner.length then none
      return .item place :: (← stepsOf? fuel (text.drop (inner.length + 1)))
  | _, _ => none

/-- The path that a text writes; a text that writes none is a name as a whole. -/
def pathOf (text : String) : List SettingValue.Step :=
  let first := text.toList.takeWhile isNameChar
  let rest := text.toList.drop first.length
  let steps? := if first.isEmpty then none else stepsOf? (rest.length + 1) rest
  match steps? with
  | some steps => .entry (String.ofList first) :: steps
  | none => [.entry text]

/-- The layer laid over what is below it. -/
def layOver (below : SettingValue) (layer : SettingLayer) : SettingValue :=
  layer.foldl (fun table entry => table.coveredAt entry.2 (pathOf entry.1)) below

/-- A decimal fraction as a value. -/
def fraction (numerator denominator : Nat) : SettingValue :=
  .real (Finite.nearest false numerator denominator)

/-- The defaults. -/
def defaults : SettingLayer :=
  [("server.host", .text "0.0.0.0"), ("server.port", .integer 8080),
    ("server.request_timeout_seconds", .integer 30), ("server.max_query_length", .integer 1000),
    ("prometheus.address", .text "http://localhost:9090"),
    ("prometheus.timeout_seconds", .integer 30), ("prometheus.schema_ttl_seconds", .integer 300),
    ("llm.model", .text "gpt-4o-mini"), ("llm.api_key", .text ""),
    ("llm.base_url", .text "https://api.openai.com/v1"), ("llm.temperature", fraction 7 10),
    ("llm.top_p", fraction 1 1), ("llm.max_tokens", .integer 512),
    ("knowledge_graph.enabled", .truth false), ("knowledge_graph.database", .text "neo4j"),
    ("knowledge_graph.connect_attempts", .integer 5),
    ("knowledge_graph.connect_backoff_seconds", .integer 2),
    ("knowledge_graph.timeout_seconds", .integer 10)]

end SettingLayer

end PromScribe

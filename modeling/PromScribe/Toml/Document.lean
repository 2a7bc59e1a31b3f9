import PromScribe.Toml.Value

/-!
# Documents of tables

A document is a row of lines: entries, headers of tables, and headers of tables that are items of a
list. A table is given its entries in one place; what headers and keys with points pass through is
created on the way, and only that may still be added to elsewhere.
-/

namespace PromScribe.Toml

/-- A line that says something. -/
inductive Line where
  | entry (key : List String) (value : SettingValue)
  | header (path : List String)
  | itemHeader (path : List String)

/-- How a table came to be. -/
inductive Origin where
  /-- A header passes through it. -/
  | implied
  /-- It has a header. -/
  | headed
  /-- A key with points passes through it. -/
  | dotted
deriving DecidableEq, Repr

/-- What a name stands for while the document is read. -/
inductive Node where
  | leaf (value : SettingValue)
  | table (origin : Origin) (entries : List (String × Node))
  /-- Tables with headers of their own, the last one first. -/
  | items (tables : List (List (String × Node)))

/-- The entries of a table while the document is read. -/
abbrev Nodes := List (String × Node)

/-- Entries with another node under a name. -/
def putNode (entries : Nodes) (name : String) (node : Node) : Nodes :=
  if (entries.lookup name).isSome then
    entries.map fun entry => if entry.1 = name then (name, node) else entry
  else entries ++ [(name, node)]

/-- Changes the entries that a path leads to, which may begin inside of a table with points. -/
def changeAt? (origin : Origin) (change : Option Origin → Nodes → Option Nodes)
    (here : Option Origin) (entries : Nodes) : List String → Option Nodes
  | [] => change here entries
  | name :: path =>
      match entries.lookup name with
      | none =>
          (changeAt? origin change (some origin) [] path).map fun inner =>
            putNode entries name (.table origin inner)
      | some (.table found inner) =>
          if origin = .dotted && found = .headed then none
          else
            (changeAt? origin change (some found) inner path).map fun inner =>
              putNode entries name (.table found inner)
      | some (.items (last :: others)) =>
          (changeAt? origin change (some .headed) last path).map fun last =>
            putNode entries name (.items (last :: others))
      | some _ => none

/-- Gives a table its header; it must not have one, and no key with points may have made it. -/
def openTable? (name : String) (entries : Nodes) : Option Nodes :=
  match entries.lookup name with
  | none => some (putNode entries name (.table .headed []))
  | some (.table .implied inner) => some (putNode entries name (.table .headed inner))
  | some _ => none

/-- Begins another table of a list. -/
def openItem? (name : String) (entries : Nodes) : Option Nodes :=
  match entries.lookup name with
  | none => some (putNode entries name (.items [[]]))
  | some (.items tables) => some (putNode entries name (.items ([] :: tables)))
  | some _ => none

/-- Puts a value under the last name of a key; what the names before it passed through must be made
by such keys alone. -/
def addValue? (name : String) (dotted : Bool) (value : SettingValue) (here : Option Origin)
    (entries : Nodes) : Option Nodes :=
  if (entries.lookup name).isSome || (here == some .dotted) != dotted then none
  else some (putNode entries name (.leaf value))

/-- The tables so far, and the path of the table that entries belong to. -/
structure Reading where
  root : Nodes
  current : List String

/-- Takes in a line. -/
def Reading.take? (reading : Reading) : Line → Option Reading
  | .header path => do
      let name ← path.getLast?
      let root ← changeAt? .implied (fun _ => openTable? name) none reading.root path.dropLast
      return ⟨root, path⟩
  | .itemHeader path => do
      let name ← path.getLast?
      let root ← changeAt? .implied (fun _ => openItem? name) none reading.root path.dropLast
      return ⟨root, path⟩
  | .entry key value => do
      let name ← key.getLast?
      let add := addValue? name (1 < key.length) value
      let inside := fun _ entries => changeAt? .dotted add none entries key.dropLast
      let root ← changeAt? .implied inside none reading.root reading.current
      return { reading with root }

mutual

/-- The value of a node. -/
def Node.value : Node → SettingValue
  | .leaf value => value
  | .table _ entries => .table (entryValues entries)
  | .items tables => .list (itemValues tables).reverse

/-- The values of entries. -/
def entryValues : Nodes → List (String × SettingValue)
  | [] => []
  | (name, node) :: rest => (name, node.value) :: entryValues rest

/-- The values of tables. -/
def itemValues : List Nodes → List SettingValue
  | [] => []
  | table :: rest => .table (entryValues table) :: itemValues rest

end

/-- The line at the head of the text, if it says something, without what ends it. -/
def line? (text : List Char) : Option (Option Line × List Char) :=
  let fuel := text.length + 1
  match skipBlanks text with
  | [] => some (none, [])
  | '\n' :: rest => some (none, '\n' :: rest)
  | '\r' :: rest => some (none, '\r' :: rest)
  | '#' :: rest => some (none, '#' :: rest)
  | '[' :: '[' :: rest => do
      let (path, rest) ← key? fuel rest
      match rest with
      | ']' :: ']' :: rest => return (some (.itemHeader path), rest)
      | _ => none
  | '[' :: rest => do
      let (path, rest) ← key? fuel rest
      match rest with
      | ']' :: rest => return (some (.header path), rest)
      | _ => none
  | rest => do
      let (key, rest) ← key? fuel rest
      match rest with
      | '=' :: rest =>
          let (value, rest) ← value? fuel (skipBlanks rest)
          return (some (.entry key value), rest)
      | _ => none

/-- Takes in every line of a text. -/
def readLines : Nat → Reading → List Char → Option Reading
  | 0, _, _ => none
  | fuel + 1, reading, text => do
      let (line, rest) ← line? text
      let reading ←
        match line with
        | some line => reading.take? line
        | none => some reading
      match skipComment (skipBlanks rest) with
      | [] => return reading
      | rest => readLines fuel reading (← afterBreak? rest)

/-- The entries of a document. -/
def read? (text : String) : Option (List (String × SettingValue)) :=
  let characters := text.toList
  (readLines (characters.length + 1) ⟨[], []⟩ characters).map fun reading => entryValues reading.root

end PromScribe.Toml

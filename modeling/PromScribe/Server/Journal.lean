import PromScribe.Text.Literal

/-!
# The journal

The server tells what it does in entries of five levels, each from a part of the program. A filter
says up to which level entries are kept, for all parts or for those whose names begin in a certain
way; of several rules the one with the longest name decides.
-/

namespace PromScribe.Server

open Text

/-- How important an entry is. -/
inductive Level where
  | error
  | warn
  | info
  | debug
  | trace
deriving DecidableEq, Repr

namespace Level

/-- The levels from the most important one on. -/
def all : List Level := [.error, .warn, .info, .debug, .trace]

/-- The name of the level. -/
def name : Level → String
  | .error => "ERROR"
  | .warn => "WARN"
  | .info => "INFO"
  | .debug => "DEBUG"
  | .trace => "TRACE"

/-- The place of the level from one on. -/
def place : Level → Nat
  | .error => 1
  | .warn => 2
  | .info => 3
  | .debug => 4
  | .trace => 5

end Level

/-- An entry of the journal. -/
structure Entry where
  level : Level
  source : String
  message : String
deriving DecidableEq, Repr

/-- Keeps entries from sources whose names begin with a text, up to a place among the levels. -/
structure JournalRule where
  start : String
  reach : Nat
deriving DecidableEq, Repr

namespace JournalRule

/-- The reach that a level by its name or number gives. -/
def reachOf? (text : String) : Option Nat :=
  let word := String.ofList (text.toList.map Char.toUpper)
  match ("OFF", 0) :: Level.all.map (fun level => (level.name, level.place)) |>.lookup word with
  | some reach => some reach
  | none => (["0", "1", "2", "3", "4", "5"].findIdx? (· == text))

/-- A rule: a level for all sources, or the start of sources with a level or without one. -/
def read? (text : String) : Option JournalRule :=
  match reachOf? text with
  | some reach => some ⟨"", reach⟩
  | none =>
      match splitAtFirst? '=' text.toList with
      | none => some ⟨text, Level.trace.place⟩
      | some (start, level) =>
          (reachOf? (String.ofList level)).map fun reach => ⟨String.ofList start, reach⟩

end JournalRule

/-- The rules of a filter; without any, only errors are kept. -/
abbrev JournalFilter := List JournalRule

namespace JournalFilter

/-- The filter that a text writes, its rules apart by commas. -/
def read? (text : String) : Option JournalFilter := do
  let parts := ((partsBetween ',' text.toList).filter (· != [])).map String.ofList
  let rules ← parts.mapM JournalRule.read?
  return if rules.isEmpty then [⟨"", Level.error.place⟩] else rules

/-- The longer name decides, and of equal names the later rule. -/
def stronger (kept next : JournalRule) : JournalRule :=
  if kept.start.length ≤ next.start.length then next else kept

/-- The entry is kept. -/
def keeps (filter : JournalFilter) (entry : Entry) : Bool :=
  match filter.filter fun rule => hasStart entry.source rule.start with
  | [] => false
  | rule :: rest => entry.level.place ≤ (rest.foldl stronger rule).reach

/-- The filter that a text writes, or else that of a level. -/
def ofText (text? : Option String) (level : String) : JournalFilter :=
  ((text?.bind read?).or (read? level)).getD []

end JournalFilter

end PromScribe.Server

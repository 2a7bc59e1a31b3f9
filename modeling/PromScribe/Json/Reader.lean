import PromScribe.Json.Token

/-!
# Reading documents

Signs are taken one by one; the state holds the containers that are open. Where a sign does not
fit, the writing breaks off: all that was read until then is kept, in containers marked as open.
-/

namespace PromScribe

namespace Json

/-- A place for a value inside of an open container; what stands before it, last first. -/
inductive Slot where
  | item (before : List Document)
  | member (before : List (Option String × Document)) (key : Option String)

/-- What was read and what may come next. The open slots are listed from the innermost one. -/
inductive Progress where
  | value (slots : List Slot)
  | firstItem (slots : List Slot)
  | afterItem (before : List Document) (slots : List Slot)
  | firstKey (slots : List Slot)
  | nextKey (before : List (Option String × Document)) (slots : List Slot)
  | afterKey (before : List (Option String × Document)) (key : Option String) (slots : List Slot)
  | afterMember (before : List (Option String × Document)) (slots : List Slot)
  | complete (document : Document)

namespace Progress

/-- A value fills the innermost slot. -/
def fill (filling : Document) : List Slot → Progress
  | [] => .complete filling
  | .item before :: slots => .afterItem (filling :: before) slots
  | .member before key :: slots => .afterMember ((key, filling) :: before) slots

/-- Takes a sign where a value is expected. -/
def takeValue (slots : List Slot) : Token → Option Progress
  | .scalar leaf => some (fill leaf slots)
  | .openArray => some (.firstItem slots)
  | .openObject => some (.firstKey slots)
  | _ => none

/-- Takes a sign where a key is expected. -/
def takeKey (before : List (Option String × Document)) (slots : List Slot) :
    Token → Option Progress
  | .scalar (.string key) => some (.afterKey before key slots)
  | _ => none

/-- Takes a sign; nothing if it does not fit. -/
def take : Progress → Token → Option Progress
  | .value slots, token => takeValue slots token
  | .firstItem slots, .closeArray => some (fill (.array [] true) slots)
  | .firstItem slots, token => takeValue (.item [] :: slots) token
  | .afterItem before slots, .comma => some (.value (.item before :: slots))
  | .afterItem before slots, .closeArray => some (fill (.array before.reverse true) slots)
  | .firstKey slots, .closeObject => some (fill (.object [] true) slots)
  | .firstKey slots, token => takeKey [] slots token
  | .nextKey before slots, token => takeKey before slots token
  | .afterKey before key slots, .colon => some (.value (.member before key :: slots))
  | .afterMember before slots, .comma => some (.nextKey before slots)
  | .afterMember before slots, .closeObject => some (fill (.object before.reverse true) slots)
  | _, _ => none

/-- A document inside of the containers that are still open. -/
def enclose (document : Document) : List Slot → Document
  | [] => document
  | .item before :: slots => enclose (.array (before.reverse ++ [document]) false) slots
  | .member before key :: slots =>
      enclose (.object (before.reverse ++ [(key, document)]) false) slots

/-- What was read when the writing breaks off. -/
def abandoned : Progress → Document
  | .value slots => enclose .broken slots
  | .firstItem slots => enclose (.array [] false) slots
  | .afterItem before slots => enclose (.array before.reverse false) slots
  | .firstKey slots => enclose (.object [] false) slots
  | .nextKey before slots => enclose (.object before.reverse false) slots
  | .afterKey before key slots =>
      enclose (.object (before.reverse ++ [(key, .broken)]) false) slots
  | .afterMember before slots => enclose (.object before.reverse false) slots
  | .complete document => document

/-- One value was read and nothing is open. -/
def isComplete : Progress → Bool
  | .complete _ => true
  | _ => false

/-- Takes signs to the end; gives the document and whether it took all of them as one value. -/
def run (progress : Progress) : List Token → Document × Bool
  | [] => (progress.abandoned, progress.isComplete)
  | token :: rest =>
      match progress.take token with
      | some next => run next rest
      | none => (progress.abandoned, false)

end Progress

/-- The document of a text, and whether the text is that document and nothing else. -/
def readDocument (text : List Char) : Document × Bool :=
  (Progress.value []).run (Token.ofText text)

/-- What a decoder makes of a text that is one document. -/
def decode {α : Type} (decoder : Document → Except Fault α) (text : String) : Except Fault α :=
  let (document, entire) := readDocument text.toList
  match decoder document with
  | .error fault => .error fault
  | .ok value => if entire then .ok value else .error .syntaxFault

/-- The value that a text means, if it is the written form of one. -/
def read? (text : String) : Option Json :=
  let (document, entire) := readDocument text.toList
  if entire then document.meaning? Document.depthLimit else none

end Json

end PromScribe

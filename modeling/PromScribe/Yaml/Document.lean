import PromScribe.Yaml.Flow

/-!
# Documents by indentation

Tables and lists are written line by line; what belongs to an entry is indented deeper than it is.
A text holds one document, whose value must be a table.
-/

namespace PromScribe.Yaml

/-- A line without the blanks that it is indented by. -/
structure Line where
  indent : Nat
  text : List Char
deriving DecidableEq, Repr

/-- The line of characters, without what ends it. -/
def Line.ofText (text : List Char) : Line :=
  let text := if text.getLast? = some '\r' then text.dropLast else text
  let indent := (text.takeWhile (· == ' ')).length
  ⟨indent, text.drop indent⟩

/-- The lines of a text. -/
def linesOf : List Char → List (List Char)
  | [] => [[]]
  | c :: rest =>
      if c = '\n' then [] :: linesOf rest
      else
        match linesOf rest with
        | [] => [[c]]
        | line :: lines => (c :: line) :: lines

/-- The lines from the first one on that says something. -/
def skipIdle (lines : List Line) : List Line :=
  lines.dropWhile fun line => isIdle line.text

/-- The line begins an item of a list. -/
def Line.isItem (line : Line) : Bool :=
  match line.text with
  | '-' :: rest => endsWord rest
  | _ => false

/-- A plain key at the head of a text, and the rest. -/
def plainName? (text : List Char) : Option (String × List Char) := do
  let (plain, rest) ← plain? false text
  return (← plainKey? plain, rest)

/-- The key that a line begins with, and what stands behind its colon. -/
def Line.key? (line : Line) : Option (String × List Char) := do
  let (name, rest) ← (quoted? line.text).or (plainName? line.text)
  match skipGap rest with
  | ':' :: rest => if endsWord rest then return (name, skipGap rest) else none
  | _ => none

/-- The text that lines go on with until brackets and quotes are closed, and the lines left. -/
def closeText (text : List Char) : List Line → List Char × List Line
  | [] => (text, [])
  | line :: rest =>
      if isOpen text then closeText (text ++ ' ' :: line.text) rest else (text, line :: rest)

/-- Lines that go on with plain text, indented deeper than its entry. -/
def plainLines (indent : Nat) : List Line → Option (List (List Char) × List Line)
  | [] => some ([], [])
  | line :: rest =>
      if isIdle line.text || line.indent ≤ indent then some ([], line :: rest)
      else do
        let (run, left) := plainRun false false line.text
        if !isIdle left then none
        let (more, rest) ← plainLines indent rest
        return (dropGap run :: more, rest)

/-- The lines of a block of text, each without the block's indentation. -/
def blockLines (indent : Nat) (width : Option Nat) : List Line → List (List Char) × List Line
  | [] => ([], [])
  | line :: rest =>
      if line.text.isEmpty then
        let (more, left) := blockLines indent width rest
        ([] :: more, left)
      else if line.indent ≤ indent || line.indent < width.getD 0 then ([], line :: rest)
      else
        let width := width.getD line.indent
        let (more, left) := blockLines indent (some width) rest
        ((List.replicate (line.indent - width) ' ' ++ line.text) :: more, left)

/-- The lines without empty ones at their end. -/
def dropEmptyEnd (lines : List (List Char)) : List (List Char) :=
  (lines.reverse.dropWhile List.isEmpty).reverse

/-- The lines of a folded block in one text: a break becomes a blank, an empty line a break. -/
def foldLines : List (List Char) → List Char
  | [] => []
  | [line] => line
  | line :: next :: rest =>
      if line.isEmpty then '\n' :: foldLines (next :: rest)
      else if next.isEmpty then line ++ foldLines (next :: rest)
      else line ++ ' ' :: foldLines (next :: rest)

/-- The text of a block: `folded` joins its lines, and `ending` says whether no line break, one, or
all of them stay at its end. -/
def blockText (folded : Bool) (ending : Option Char) (lines : List (List Char)) : List Char :=
  let body := dropEmptyEnd lines
  let text := if folded then foldLines body else List.intercalate ['\n'] body
  match ending with
  | some '-' => text
  | some _ => text ++ List.replicate (lines.length - body.length + 1) '\n'
  | none => if body.isEmpty then [] else text ++ ['\n']

mutual

/-- The value of the lines from the first one on, and the lines left. -/
def block? : Nat → List Line → Option (SettingValue × List Line)
  | 0, _ => none
  | _, [] => none
  | fuel + 1, line :: rest =>
      if line.isItem then
        (items? fuel line.indent (line :: rest)).map fun taken => (.list taken.1, taken.2)
      else if line.key?.isSome then
        (entries? fuel line.indent [] (line :: rest)).map fun taken => (.table taken.1, taken.2)
      else inline? fuel (if line.indent = 0 then 0 else line.indent - 1) line.text rest

/-- The value that begins behind a key or an item mark. -/
def inline? : Nat → Nat → List Char → List Line → Option (SettingValue × List Line)
  | 0, _, _, _ => none
  | fuel + 1, indent, text, rest =>
      match text with
      | [] => none
      | c :: more =>
          if c = '|' || c = '>' then
            let ending := more.head?.filter fun mark => mark = '-' || mark = '+'
            if !isIdle (more.drop (if ending.isSome then 1 else 0)) then none
            else
              let (lines, left) := blockLines indent none rest
              some (.text (String.ofList (blockText (c = '>') ending lines)), left)
          else if ['[', '\x7b', '"', '\''].contains c then
            let (whole, left) := closeText text rest
            match flowValue? (fuel + whole.length) whole with
            | some (value, behind) => if isIdle behind then some (value, left) else none
            | none => none
          else do
            let (plain, behind) ← plain? false text
            if !isIdle behind then none
            let (further, left) ← if behind.isEmpty then plainLines indent rest else some ([], rest)
            return (← plainValue? (List.intercalate [' '] (plain :: further)), left)

/-- The value of an entry: what stands behind its mark, or the lines below it. -/
def valueOf? : Nat → Nat → Bool → List Char → List Line → Option (SettingValue × List Line)
  | 0, _, _, _, _ => none
  | fuel + 1, indent, listBeside, text, rest =>
      if !isIdle text then inline? fuel indent text rest
      else
        match skipIdle rest with
        | [] => some (.nothing, [])
        | line :: rest =>
            if indent < line.indent || (listBeside && line.indent = indent && line.isItem) then
              block? fuel (line :: rest)
            else some (.nothing, line :: rest)

/-- The entries of a table at an indentation. -/
def entries? : Nat → Nat → List (String × SettingValue) → List Line →
    Option (List (String × SettingValue) × List Line)
  | 0, _, _, _ => none
  | fuel + 1, indent, found, lines =>
      match skipIdle lines with
      | [] => some (found, [])
      | line :: rest =>
          if line.indent < indent then some (found, line :: rest)
          else if indent < line.indent || line.isItem then none
          else do
            let (name, behind) ← line.key?
            let (value, left) ← valueOf? fuel indent true behind rest
            entries? fuel indent (withEntry found name value) left

/-- The items of a list at an indentation. -/
def items? : Nat → Nat → List Line → Option (List SettingValue × List Line)
  | 0, _, _ => none
  | fuel + 1, indent, lines =>
      match skipIdle lines with
      | [] => some ([], [])
      | line :: rest =>
          if line.indent < indent then some ([], line :: rest)
          else if indent < line.indent then none
          else if !line.isItem then some ([], line :: rest)
          else do
            let gap := (line.text.drop 1).takeWhile isGap
            let behind := line.text.drop (1 + gap.length)
            let inner : Line := ⟨indent + 1 + gap.length, behind⟩
            let (item, left) ←
              if isIdle behind then valueOf? fuel indent false [] rest
              else if inner.isItem || inner.key?.isSome then block? fuel (inner :: rest)
              else inline? fuel indent behind rest
            (items? fuel indent left).map fun taken => (item :: taken.1, taken.2)

end

/-- A line that marks the begin or the end of a document. -/
def Line.isMark (line : Line) (mark : String) : Bool :=
  line.indent = 0 && mark.toList.isPrefixOf line.text && isIdle (line.text.drop 3)

/-- The lines of the only document; nothing if there are more. -/
def onlyDocument? (lines : List Line) : Option (List Line) :=
  let lines := skipIdle lines
  let body := match lines with
    | line :: rest => if line.isMark "---" then rest else line :: rest
    | [] => []
  let document := body.takeWhile fun line => !line.isMark "..."
  let behind := body.drop (document.length + 1)
  if document.any (·.isMark "---") || !(skipIdle behind).isEmpty then none else some document

/-- The entries of a text. -/
def read? (text : String) : Option (List (String × SettingValue)) := do
  let lines := (linesOf text.toList).map Line.ofText
  let document ← onlyDocument? lines
  match skipIdle document with
  | [] => if (skipIdle lines).isEmpty then some [] else none
  | line :: rest =>
      match block? (4 * (text.length + 4)) (line :: rest) with
      | some (.table found, left) => if (skipIdle left).isEmpty then some found else none
      | _ => none

end PromScribe.Yaml

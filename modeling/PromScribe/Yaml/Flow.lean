import PromScribe.Yaml.Scalar

/-!
# Flow collections

Lists within brackets and tables within braces, in which blanks and line breaks do not matter.
-/

namespace PromScribe.Yaml

/-- Entries with another one, in place of an earlier one under its name. -/
def withEntry (entries : List (String × SettingValue)) (name : String) (value : SettingValue) :
    List (String × SettingValue) :=
  if (entries.lookup name).isSome then
    entries.map fun entry => if entry.1 = name then (name, value) else entry
  else entries ++ [(name, value)]

/-- A key at the head of a text, and the rest. -/
def flowKey? (text : List Char) : Option (String × List Char) :=
  match quoted? text with
  | some taken => some taken
  | none => do
      let (plain, rest) ← plain? true text
      return (← plainKey? plain, rest)

mutual

/-- The value at the head of a text, and the rest. -/
def flowValue? : Nat → List Char → Option (SettingValue × List Char)
  | 0, _ => none
  | _, [] => none
  | fuel + 1, c :: rest =>
      if c = '[' then (flowItems? fuel rest).map fun taken => (.list taken.1, taken.2)
      else if c = '\x7b' then (flowEntries? fuel [] rest).map fun taken => (.table taken.1, taken.2)
      else if c = '"' || c = '\'' then
        (quoted? (c :: rest)).map fun taken => (.text taken.1, taken.2)
      else do
        let (plain, rest) ← plain? true (c :: rest)
        return (← plainValue? plain, rest)

/-- The items of a list whose bracket was taken. -/
def flowItems? : Nat → List Char → Option (List SettingValue × List Char)
  | 0, _ => none
  | fuel + 1, text =>
      match skipGap text with
      | ']' :: rest => some ([], rest)
      | text => do
          let (item, rest) ← flowValue? fuel text
          match skipGap rest with
          | ',' :: rest => (flowItems? fuel rest).map fun taken => (item :: taken.1, taken.2)
          | ']' :: rest => return ([item], rest)
          | _ => none

/-- The entries of a table whose brace was taken. -/
def flowEntries? : Nat → List (String × SettingValue) → List Char →
    Option (List (String × SettingValue) × List Char)
  | 0, _, _ => none
  | fuel + 1, found, text =>
      match skipGap text with
      | '\x7d' :: rest => some (found, rest)
      | text => do
          let (name, rest) ← flowKey? text
          let (value, rest) ←
            match skipGap rest with
            | ':' :: rest =>
                let rest := skipGap rest
                if [',', '\x7d'].contains (rest.headD ',') then some (.nothing, rest)
                else flowValue? fuel rest
            | rest => some (.nothing, rest)
          let found := withEntry found name value
          match skipGap rest with
          | ',' :: rest => flowEntries? fuel found rest
          | '\x7d' :: rest => return (found, rest)
          | _ => none

end

/-- How many brackets and braces a text leaves open, and the quote that it leaves open. -/
def openAfter (depth : Nat) (quote : Option Char) : List Char → Nat × Option Char
  | [] => (depth, quote)
  | c :: rest =>
      match quote with
      | some mark =>
          if c = '\\' && mark = '"' then
            match rest with
            | [] => (depth, quote)
            | _ :: rest => openAfter depth quote rest
          else openAfter depth (if c = mark then none else quote) rest
      | none =>
          if c = '"' || c = '\'' then openAfter depth (some c) rest
          else if c = '[' || c = '\x7b' then openAfter (depth + 1) none rest
          else if c = ']' || c = '\x7d' then openAfter (depth - 1) none rest
          else openAfter depth none rest

/-- The text leaves a bracket, a brace or a quote open. -/
def isOpen (text : List Char) : Bool :=
  let (depth, quote) := openAfter 0 none text
  0 < depth || quote.isSome

end PromScribe.Yaml

import PromScribe.Json.Reader
import PromScribe.Settings.Layers
import PromScribe.Settings.Section
import PromScribe.Text.Lower
import PromScribe.Toml.Document
import PromScribe.Yaml.Document

/-!
# Sources of settings

A file is read in the format that its name ends in; one that does not exist, or whose format is not
known, adds nothing. A file that breaks the rules of its format spoils all.
-/

namespace PromScribe

open Text

/-!
## Settings in the environment

A variable may name a setting by its path, its names separated by two underscores and marked by the
program's own name; a few settings have short variables, which do not count when they are empty.
-/

/-- The variables of an environment with their values, later ones in place of earlier ones. -/
abbrev Environment := List (String × String)

namespace Environment

/-- The value of a variable, unless it is empty. -/
def value? (environment : Environment) (name : String) : Option String :=
  (environment.reverse.lookup name).filter (· != "")

/-- What the names of variables for single settings begin with, in any case. -/
def pathMark : String := "promql__"

/-- What stands between the names of a path. -/
def pathSeparator : String := "__"

/-- The setting that a variable names, if it does. -/
def settingOf? (name : String) : Option String :=
  let name := lowerString name
  if hasStart name pathMark then
    some (substituteString pathSeparator "." (String.ofList (name.toList.drop pathMark.length)))
  else none

/-- The settings that variables name by their paths. -/
def pathLayer (environment : Environment) : SettingLayer :=
  environment.filterMap fun entry =>
    (settingOf? entry.1).map fun name => (name, .ofVariable entry.2)

/-- Short variables with the settings that they stand for. -/
def shortNames : List (String × String) :=
  [("SERVER_PORT", "server.port"), ("PROMETHEUS_URL", "prometheus.address"),
    ("OPENAI_API_KEY", "llm.api_key"), ("OPENAI_MODEL", "llm.model"),
    ("NEO4J_URI", "knowledge_graph.uri"), ("NEO4J_USER", "knowledge_graph.user"),
    ("NEO4J_PASSWORD", "knowledge_graph.password")]

/-- The variable that puts the graph to use. -/
def graphVariable : String := "NEO4J_URI"

/-- The settings that short variables stand for. -/
def shortLayer (environment : Environment) : SettingLayer :=
  (shortNames.filterMap fun pair =>
    (environment.value? pair.1).map fun value => (pair.2, SettingValue.text value)) ++
    (if (environment.value? graphVariable).isSome then [("knowledge_graph.enabled", .truth true)]
      else [])

end Environment

/-! ## Settings in files -/

/-- A file: its name, and its content if it exists. -/
structure SettingsFile where
  name : String
  content : Option String
deriving DecidableEq, Repr

/-- A format of files. -/
inductive FileFormat where
  | toml
  | yaml
  | json
deriving DecidableEq, Repr

namespace FileFormat

/-- What file names of the formats end in, behind a point. -/
def endings : List (String × FileFormat) :=
  [("toml", .toml), ("yaml", .yaml), ("yml", .yaml), ("json", .json)]

/-- What stands behind the last point of a file name, if something stands before that point. -/
def endingOf? (name : String) : Option String :=
  match ((partsBetween '/' name.toList).filter (· != [])).getLast? with
  | none => none
  | some file =>
      let ending := (file.reverse.takeWhile (· != '.')).reverse
      if ending.length + 1 < file.length then some (String.ofList ending) else none

/-- The format of a file name. -/
def ofName? (name : String) : Option FileFormat :=
  (endingOf? name).bind fun ending => endings.lookup ending

end FileFormat

mutual

/-- A structured value as a value of a source. -/
def SettingValue.ofJson : Json → SettingValue
  | .null => .nothing
  | .bool value => .truth value
  | .number (.integer value) =>
      if SettingValue.isInteger value then .integer value
      else .real (Finite.nearest (value < 0) value.natAbs 1)
  | .number (.double value) => .real (.finite value)
  | .string value => .text value
  | .array items => .list (SettingValue.ofItems items)
  | .object members => .table (SettingValue.ofMembers members)

/-- Items as values of a source. -/
def SettingValue.ofItems : List Json → List SettingValue
  | [] => []
  | item :: rest => .ofJson item :: SettingValue.ofItems rest

/-- Members as entries of a source. -/
def SettingValue.ofMembers : List (String × Json) → List (String × SettingValue)
  | [] => []
  | (key, value) :: rest => (key, .ofJson value) :: SettingValue.ofMembers rest

end

/-- The entries of a text in structured form. -/
def jsonEntries? (text : String) : Option SettingLayer :=
  match Json.read? text with
  | some (.object members) => some (SettingValue.ofMembers members)
  | _ => none

/-- The entries of a text in a format. -/
def FileFormat.entries? (format : FileFormat) (text : String) : Option SettingLayer :=
  match format with
  | .toml => Toml.read? text
  | .yaml => Yaml.read? text
  | .json => jsonEntries? text

/-- The text without a byte order mark at its head. -/
def withoutOrderMark (text : String) : String :=
  String.ofList (if text.toList.head? = some '\ufeff' then text.toList.drop 1 else text.toList)

/-- What a file adds; nothing if it breaks the rules of its format. -/
def SettingsFile.layer? (file : SettingsFile) : Option SettingLayer :=
  match FileFormat.ofName? file.name, file.content with
  | some format, some content => format.entries? (withoutOrderMark content)
  | _, _ => some []

/-- All sources laid over each other. -/
def SettingLayer.stacked (file : SettingLayer) (environment : Environment) : SettingValue :=
  [SettingLayer.defaults, file, environment.pathLayer, environment.shortLayer].foldl
    SettingLayer.layOver .emptyTable

/-- The settings of a file's entries and an environment. -/
def Settings.ofLayers (file : SettingLayer) (environment : Environment) :
    Except SettingsFault Settings :=
  match Settings.ofTable? (SettingLayer.stacked file environment) with
  | some settings => settings.validated
  | none => .error .unusable

/-- The settings of a file, if there is one, and an environment. -/
def Settings.load (file : Option SettingsFile) (environment : Environment) :
    Except SettingsFault Settings :=
  match file.elim (some []) SettingsFile.layer? with
  | some layer => Settings.ofLayers layer environment
  | none => .error .unusable

end PromScribe

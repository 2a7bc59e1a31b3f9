import PromScribe.Proofs.Keyed
import PromScribe.Settings.Source

/-!
# Variables for single settings

What the variables for single settings begin with ends in two underscores. A variable that has one
underscore there, between the name of the program and that of a section, names no setting, whatever
its key and its value are.
-/

namespace PromScribe

open Text

namespace Environment

variable {name : String} {environment : Environment}

/-- The names of the sections of settings. -/
def sectionNames : List String := ["server", "prometheus", "llm", "knowledge_graph"]

/-- The name of the program, one underscore, a section and two underscores stand in front, in any
case. -/
def isSingleMarked (name : String) : Bool :=
  sectionNames.any fun group => hasStart (lowerString name) ("promql_" ++ group ++ pathSeparator)

/-- The environment without the variables that are marked with one underscore. -/
def withoutSingleMarked (environment : Environment) : Environment :=
  environment.filter fun entry => !isSingleMarked entry.1

theorem settingOf?_of_isSingleMarked (marked : isSingleMarked name = true) :
    settingOf? name = none := by
  obtain ⟨group, known, starts⟩ := List.any_eq_true.mp marked
  have apart : ∀ group ∈ sectionNames,
      hasStart ("promql_" ++ group ++ pathSeparator) pathMark = false ∧
        pathMark.toList.length ≤ ("promql_" ++ group ++ pathSeparator).toList.length := by decide
  obtain ⟨other, longer⟩ := apart group known
  unfold settingOf?
  dsimp only
  refine if_neg fun both => ?_
  -- Of two beginnings of one name the shorter one begins the longer; but no section begins with an
  -- underscore.
  have first := List.isPrefixOf_iff_prefix.mp both
  have second := List.isPrefixOf_iff_prefix.mp starts
  have within := List.isPrefixOf_iff_prefix.mpr (List.prefix_of_prefix_length_le first second longer)
  rw [hasStart, within] at other
  cases other

theorem pathLayer_withoutSingleMarked (environment : Environment) :
    environment.withoutSingleMarked.pathLayer = environment.pathLayer := by
  unfold pathLayer withoutSingleMarked
  rw [List.filterMap_filter]
  refine List.filterMap_congr fun entry _ => ?_
  cases marked : isSingleMarked entry.1 with
  | false => rfl
  | true => simp [settingOf?_of_isSingleMarked marked]

theorem value?_withoutSingleMarked (apart : isSingleMarked name = false) :
    environment.withoutSingleMarked.value? name = environment.value? name := by
  unfold value? withoutSingleMarked
  rw [← List.filter_reverse, Keyed.lookup_filter]
  simp [apart]

theorem shortLayer_withoutSingleMarked (environment : Environment) :
    environment.withoutSingleMarked.shortLayer = environment.shortLayer := by
  have others : ∀ pair ∈ shortNames, isSingleMarked pair.1 = false := by decide +kernel
  have graph : isSingleMarked graphVariable = false := by decide +kernel
  unfold shortLayer
  rw [value?_withoutSingleMarked graph]
  congr 1
  refine List.filterMap_congr fun pair known => ?_
  rw [value?_withoutSingleMarked (others pair known)]

end Environment

/-- Variables that are marked with one underscore change nothing, whatever the file and the other
variables are. -/
theorem load_withoutSingleMarked (file : Option SettingsFile) (environment : Environment) :
    Settings.load file environment = Settings.load file environment.withoutSingleMarked := by
  unfold Settings.load Settings.ofLayers SettingLayer.stacked
  rw [environment.pathLayer_withoutSingleMarked, environment.shortLayer_withoutSingleMarked]

/-- A port that is named with one underscore is not the one that is used. -/
theorem exists_unused_port :
    (SettingValue.ofVariable "9000").word? (Nat.pow 2 16) = some 9000 ∧
      ((Settings.load none [("PROMQL_SERVER__PORT", "9000")]).toOption.map (·.server.port)) =
        some 8080 := by
  decide +kernel

end PromScribe

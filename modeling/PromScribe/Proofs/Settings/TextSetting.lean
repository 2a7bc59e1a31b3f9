import PromScribe.Proofs.Settings.Key
import PromScribe.Proofs.Settings.Spelling

/-!
# Settings that are texts

A setting that is a text and has one variable for it gets what the value of the variable is taken
for, which is the value itself just if its spelling is kept. A short variable is never taken for
anything but a text.
-/

namespace PromScribe

open SettingLayer

/-- A setting that is a text. -/
inductive TextSetting where
  | host
  | backendAddress
  | model
  | apiKey
  | baseUrl
  | proxy
  | organization
  | graphUri
  | graphUser
  | graphPassword
  | graphDatabase
deriving DecidableEq, Repr

namespace TextSetting

variable {setting : TextSetting} {settings : Settings} {table value : SettingValue}

/-- All settings that are texts. -/
def all : List TextSetting :=
  [.host, .backendAddress, .model, .apiKey, .baseUrl, .proxy, .organization, .graphUri, .graphUser,
    .graphPassword, .graphDatabase]

/-- The section that the setting stands in. -/
def group : TextSetting → String
  | .host => "server"
  | .backendAddress => "prometheus"
  | .model | .apiKey | .baseUrl | .proxy | .organization => "llm"
  | .graphUri | .graphUser | .graphPassword | .graphDatabase => "knowledge_graph"

/-- The key of the setting in its section. -/
def key : TextSetting → String
  | .host => "host"
  | .backendAddress => "address"
  | .model => "model"
  | .apiKey => "api_key"
  | .baseUrl => "base_url"
  | .proxy => "proxy"
  | .organization => "organization"
  | .graphUri => "uri"
  | .graphUser => "user"
  | .graphPassword => "password"
  | .graphDatabase => "database"

/-- The name of the setting in a layer. -/
def path (setting : TextSetting) : String :=
  setting.group ++ "." ++ setting.key

/-- The setting of a program, if it has one. -/
def of : TextSetting → Settings → Option String
  | .host, settings => some settings.server.host
  | .backendAddress, settings => some settings.backend.address
  | .model, settings => some settings.completion.model
  | .apiKey, settings => some settings.completion.apiKey
  | .baseUrl, settings => some settings.completion.baseUrl
  | .proxy, settings => settings.completion.proxy
  | .organization, settings => settings.completion.organization
  | .graphUri, settings => some settings.graph.uri
  | .graphUser, settings => some settings.graph.user
  | .graphPassword, settings => some settings.graph.password
  | .graphDatabase, settings => some settings.graph.database

theorem mem_all (setting : TextSetting) : setting ∈ all := by
  cases setting <;> decide

theorem pathOf_path (setting : TextSetting) :
    pathOf setting.path = [.entry setting.group, .entry setting.key] := by
  have each : ∀ setting ∈ all,
      pathOf setting.path = [.entry setting.group, .entry setting.key] := by decide +kernel
  exact each setting setting.mem_all

end TextSetting

theorem Settings.sections_of_ofTable? {table : SettingValue} {loaded : Settings}
    (read : Settings.ofTable? table = some loaded) :
    table.keyD 0 "server" ServerSettings.ofSection? {} = some loaded.server ∧
      table.keyD 1 "prometheus" BackendSettings.ofSection? {} = some loaded.backend ∧
      table.keyD 2 "llm" CompletionSettings.ofSection? {} = some loaded.completion ∧
      table.keyD 3 "knowledge_graph" GraphSettings.ofSection? {} = some loaded.graph := by
  unfold Settings.ofTable? at read
  simp only [Option.bind_eq_bind, Option.pure_def, Option.bind_eq_some_iff,
    Option.some.injEq] at read
  obtain ⟨server, readServer, backend, readBackend, completion, readCompletion, graph, readGraph,
    rfl⟩ := read
  exact ⟨readServer, readBackend, readCompletion, readGraph⟩

namespace TextSetting

open Environment SettingValue

variable {setting : TextSetting} {settings : Settings} {table value : SettingValue}
variable {name text : String} {front back environment : Environment}

/-- A text that may be missing is there where its value has a text. -/
theorem eq_of_optionalText? {found : Option String} (taken : value.text? = some text)
    (read : value.optionalText? = some found) : found = some text := by
  cases value with
  | nothing => cases taken
  | _ =>
      rw [optionalText?, taken] at read
      · exact (Option.some.inj read).symm
      · exact SettingValue.noConfusion

/-- A setting is the text of what is held under its key. -/
theorem of_eq_some (read : Settings.ofTable? table = some settings)
    (holds : table.at? setting.group setting.key = some value) (taken : value.text? = some text) :
    setting.of settings = some text := by
  obtain ⟨group, found, held⟩ := Option.bind_eq_some_iff.mp holds
  obtain ⟨entries, rfl⟩ : ∃ entries, group = .table entries := by
    cases group with
    | table entries => exact ⟨entries, rfl⟩
    | _ => cases held
  have kept : entries.lookup setting.key = some value := held
  obtain ⟨server, backend, completion, graph⟩ := Settings.sections_of_ofTable? read
  have plain {default : Option String} {field : String}
      (takes : (entries.lookup setting.key).elim default text? = some field) :
      some field = some text := by
    rw [kept] at takes
    exact takes.symm.trans taken
  have optional {default : Option (Option String)} {field : Option String}
      (takes : (entries.lookup setting.key).elim default optionalText? = some field) :
      field = some text := by
    rw [kept] at takes
    exact eq_of_optionalText? taken takes
  cases setting with
  | host =>
      obtain ⟨host, -⟩ :=
        ServerSettings.ofSection?_eq_some_iff.mp ((keyD_of_lookup found).symm.trans server)
      exact plain host
  | backendAddress =>
      obtain ⟨address, -⟩ :=
        BackendSettings.ofSection?_eq_some_iff.mp ((keyD_of_lookup found).symm.trans backend)
      exact plain address
  | model | apiKey | baseUrl | proxy | organization =>
      obtain ⟨model, apiKey, baseUrl, -, -, -, proxy, organization, -⟩ :=
        CompletionSettings.ofSection?_eq_some_iff.mp ((keyD_of_lookup found).symm.trans completion)
      first
        | exact plain model
        | exact plain apiKey
        | exact plain baseUrl
        | exact optional proxy
        | exact optional organization
  | graphUri | graphUser | graphPassword | graphDatabase =>
      obtain ⟨-, uri, user, password, database, -⟩ :=
        GraphSettings.ofSection?_eq_some_iff.mp ((keyD_of_lookup found).symm.trans graph)
      first
        | exact plain uri
        | exact plain user
        | exact plain password
        | exact plain database

/-- One variable of the environment names the setting and has the text as its value. No other one is
for the setting, for the section around it or for a part of it, and neither is a short variable. -/
structure IsOnlyVariable (setting : TextSetting) (name text : String) (environment : Environment) :
    Prop where
  names : settingOf? name = some setting.path
  alone : ∃ front back, environment = front ++ (name, text) :: back ∧
    ∀ entry ∈ front ++ back, ∀ path, settingOf? entry.1 = some path →
      leadsElsewhere setting.group setting.key (pathOf path) = true
  noShort : ∀ pair ∈ shortNames, pair.2 = setting.path → environment.value? pair.1 = none

theorem leadsElsewhere_shortNames (setting : TextSetting) :
    ∀ pair ∈ shortNames, pair.2 ≠ setting.path →
      leadsElsewhere setting.group setting.key (pathOf pair.2) = true := by
  have each : ∀ setting ∈ all, ∀ pair ∈ shortNames, pair.2 ≠ setting.path →
      leadsElsewhere setting.group setting.key (pathOf pair.2) = true := by decide +kernel
  exact each setting setting.mem_all

theorem leadsElsewhere_enabled (setting : TextSetting) :
    leadsElsewhere setting.group setting.key (pathOf "knowledge_graph.enabled") = true := by
  have each : ∀ setting ∈ all, leadsElsewhere setting.group setting.key
      (pathOf "knowledge_graph.enabled") = true := by decide +kernel
  exact each setting setting.mem_all

theorem leadsElsewhere_of_mem_pathLayer
    (others : ∀ entry ∈ environment, ∀ path, settingOf? entry.1 = some path →
      leadsElsewhere setting.group setting.key (pathOf path) = true)
    {entry : String × SettingValue} (mem : entry ∈ environment.pathLayer) :
    leadsElsewhere setting.group setting.key (pathOf entry.1) = true := by
  obtain ⟨source, known, same⟩ := List.mem_filterMap.mp mem
  obtain ⟨path, named, rfl⟩ := Option.map_eq_some_iff.mp same
  exact others source known path named

theorem leadsElsewhere_of_mem_shortLayer
    (noShort : ∀ pair ∈ shortNames, pair.2 = setting.path → environment.value? pair.1 = none)
    {entry : String × SettingValue} (mem : entry ∈ environment.shortLayer) :
    leadsElsewhere setting.group setting.key (pathOf entry.1) = true := by
  rcases List.mem_append.mp mem with named | enabled
  · obtain ⟨pair, known, same⟩ := List.mem_filterMap.mp named
    obtain ⟨value, there, rfl⟩ := Option.map_eq_some_iff.mp same
    refine leadsElsewhere_shortNames setting pair known fun here => ?_
    rw [noShort pair known here] at there
    cases there
  · split at enabled
    · obtain rfl := List.mem_singleton.mp enabled
      exact leadsElsewhere_enabled setting
    · cases enabled

/-- Whatever the defaults and the file hold, the variable decides what the key holds. -/
theorem IsOnlyVariable.at?_stacked (only : IsOnlyVariable setting name text environment)
    (file : SettingLayer) : (stacked file environment).at? setting.group setting.key =
      some (ofVariable text) := by
  obtain ⟨front, back, rfl, others⟩ := only.alone
  have behind : ∀ entry ∈ Environment.pathLayer back,
      leadsElsewhere setting.group setting.key (pathOf entry.1) = true := fun _ mem =>
    leadsElsewhere_of_mem_pathLayer
      (fun source known => others source (List.mem_append_right front known)) mem
  have layer : Environment.pathLayer (front ++ (name, text) :: back) =
      Environment.pathLayer front ++ (setting.path, ofVariable text) ::
        Environment.pathLayer back := by
    unfold Environment.pathLayer
    rw [List.filterMap_append, List.filterMap_cons, only.names]
    rfl
  unfold stacked
  rw [List.foldl_cons, List.foldl_cons, List.foldl_cons, List.foldl_cons, List.foldl_nil,
    at?_layOver_elsewhere fun _ mem => leadsElsewhere_of_mem_shortLayer only.noShort mem, layer]
  exact at?_layOver_last (isPlain_ofVariable text) setting.pathOf_path behind

end TextSetting

/-- Settings that are loaded are those of all sources laid over each other. -/
theorem Settings.exists_of_load {file : Option SettingsFile} {environment : Environment}
    {settings : Settings} (loaded : Settings.load file environment = .ok settings) :
    ∃ layer, Settings.ofTable? (SettingLayer.stacked layer environment) = some settings := by
  unfold Settings.load at loaded
  split at loaded
  · next layer _ =>
      unfold Settings.ofLayers at loaded
      split at loaded
      · next found read =>
          unfold Settings.validated at loaded
          split at loaded
          · cases loaded
          · exact ⟨layer, read.trans (congrArg some (Except.ok.inj loaded))⟩
      · cases loaded
  · cases loaded

/-- A setting with one variable for it is what the value of the variable is taken for, whatever the
file and the other variables are. That is the value itself just if it keeps its spelling. -/
theorem text_setting_taken {file : Option SettingsFile} {environment : Environment}
    {settings : Settings} {setting : TextSetting} {name text : String}
    (only : setting.IsOnlyVariable name text environment)
    (loaded : Settings.load file environment = .ok settings) :
    ∃ taken, SettingValue.Respelled text taken ∧ setting.of settings = some taken ∧
      (taken = text ↔ SettingValue.KeepsSpelling text) := by
  obtain ⟨layer, read⟩ := Settings.exists_of_load loaded
  obtain ⟨taken, same, respelled⟩ := SettingValue.exists_respelled text
  refine ⟨taken, respelled, TextSetting.of_eq_some read (only.at?_stacked layer) same, ?_⟩
  rw [SettingValue.keepsSpelling_iff, ← SettingValue.text?_ofVariable_iff, same]
  exact Option.some_inj.symm

theorem text_setting_taken_password :
    ∃ settings, Settings.load none
        [("NEO4J_USER", "reader"), ("PROMQL__KNOWLEDGE_GRAPH__PASSWORD", "s3cret")] = .ok settings ∧
      ∃ taken, SettingValue.Respelled "s3cret" taken ∧
        TextSetting.graphPassword.of settings = some taken ∧
        (taken = "s3cret" ↔ SettingValue.KeepsSpelling "s3cret") := by
  have loaded : Settings.load none
      [("NEO4J_USER", "reader"), ("PROMQL__KNOWLEDGE_GRAPH__PASSWORD", "s3cret")] =
        .ok { graph := { user := "reader", password := "s3cret" } } := by
    decide +kernel
  have only : TextSetting.graphPassword.IsOnlyVariable "PROMQL__KNOWLEDGE_GRAPH__PASSWORD" "s3cret"
      [("NEO4J_USER", "reader"), ("PROMQL__KNOWLEDGE_GRAPH__PASSWORD", "s3cret")] :=
    { names := by decide +kernel
      alone := ⟨[("NEO4J_USER", "reader")], [], rfl, by
        intro entry mem path named
        obtain rfl := List.mem_singleton.mp mem
        have unnamed : Environment.settingOf? "NEO4J_USER" = none := by decide +kernel
        rw [unnamed] at named
        cases named⟩
      noShort := by decide +kernel }
  exact ⟨_, loaded, text_setting_taken only loaded⟩

/-- Digits with leading zeros lose them, unless they are the value of a short variable. -/
theorem exists_respelled_key :
    ((Settings.load none [("promql__llm__api_key", "007")]).toOption.map (·.completion.apiKey)) =
        some "7" ∧
      ((Settings.load none [("OPENAI_API_KEY", "007")]).toOption.map (·.completion.apiKey)) =
        some "007" := by
  decide +kernel

end PromScribe

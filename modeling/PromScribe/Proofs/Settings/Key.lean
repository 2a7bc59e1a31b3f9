import PromScribe.Proofs.Settings.Layers
import PromScribe.Proofs.Settings.Overrides

/-!
# Keys of settings

Every setting has a section, a name within it and a kind, and the kind says how a value of a source
is converted. The settings in a table of sections are those that each key takes from the value under
it, or its default where there is none.
-/

namespace PromScribe

open SettingValue Text

/-- A kind of settings, with the type of their values. -/
inductive SettingKind : Type → Type where
  | text : SettingKind String
  /-- A natural number of so many bits. -/
  | word (bits : Nat) : SettingKind Nat
  | truth : SettingKind Bool
  | single : SettingKind Single
  | optionalText : SettingKind (Option String)
  | headers : SettingKind (List HeaderSetting)

/-- The value of a source as a setting of the kind wants it. -/
def SettingKind.convert {α : Type} : SettingKind α → SettingValue → Option α
  | .text => text?
  | .word bits => word? (Nat.pow 2 bits)
  | .truth => truth?
  | .single => single?
  | .optionalText => optionalText?
  | .headers => list? HeaderSetting.ofSection?

/-- A setting, with the type of its values. -/
inductive SettingKey : Type → Type where
  | host : SettingKey String
  | port : SettingKey Nat
  | requestTimeout : SettingKey Nat
  | maxQueryLength : SettingKey Nat
  | backendAddress : SettingKey String
  | backendTimeout : SettingKey Nat
  | schemaTtl : SettingKey Nat
  | model : SettingKey String
  | apiKey : SettingKey String
  | baseUrl : SettingKey String
  | temperature : SettingKey Single
  | topP : SettingKey Single
  | maxTokens : SettingKey Nat
  | proxy : SettingKey (Option String)
  | organization : SettingKey (Option String)
  | headers : SettingKey (List HeaderSetting)
  | graphEnabled : SettingKey Bool
  | graphUri : SettingKey String
  | graphUser : SettingKey String
  | graphPassword : SettingKey String
  | graphDatabase : SettingKey String
  | connectAttempts : SettingKey Nat
  | connectBackoff : SettingKey Nat
  | graphTimeout : SettingKey Nat

namespace SettingKey

variable {α β : Type}

/-- The section that the setting stands in. -/
def group : SettingKey α → String
  | .host | .port | .requestTimeout | .maxQueryLength => "server"
  | .backendAddress | .backendTimeout | .schemaTtl => "prometheus"
  | .model | .apiKey | .baseUrl | .temperature | .topP | .maxTokens | .proxy | .organization
  | .headers => "llm"
  | .graphEnabled | .graphUri | .graphUser | .graphPassword | .graphDatabase | .connectAttempts
  | .connectBackoff | .graphTimeout => "knowledge_graph"

/-- The name of the setting in its section. -/
def name : SettingKey α → String
  | .host => "host"
  | .port => "port"
  | .requestTimeout => "request_timeout_seconds"
  | .maxQueryLength => "max_query_length"
  | .backendAddress => "address"
  | .backendTimeout => "timeout_seconds"
  | .schemaTtl => "schema_ttl_seconds"
  | .model => "model"
  | .apiKey => "api_key"
  | .baseUrl => "base_url"
  | .temperature => "temperature"
  | .topP => "top_p"
  | .maxTokens => "max_tokens"
  | .proxy => "proxy"
  | .organization => "organization"
  | .headers => "custom_headers"
  | .graphEnabled => "enabled"
  | .graphUri => "uri"
  | .graphUser => "user"
  | .graphPassword => "password"
  | .graphDatabase => "database"
  | .connectAttempts => "connect_attempts"
  | .connectBackoff => "connect_backoff_seconds"
  | .graphTimeout => "timeout_seconds"

/-- The kind of the setting. -/
def kind : SettingKey α → SettingKind α
  | .host => .text
  | .port => .word 16
  | .requestTimeout => .word 64
  | .maxQueryLength => .word 64
  | .backendAddress => .text
  | .backendTimeout => .word 64
  | .schemaTtl => .word 64
  | .model => .text
  | .apiKey => .text
  | .baseUrl => .text
  | .temperature => .single
  | .topP => .single
  | .maxTokens => .word 32
  | .proxy => .optionalText
  | .organization => .optionalText
  | .headers => .headers
  | .graphEnabled => .truth
  | .graphUri => .text
  | .graphUser => .text
  | .graphPassword => .text
  | .graphDatabase => .text
  | .connectAttempts => .word 64
  | .connectBackoff => .word 64
  | .graphTimeout => .word 64

/-- The setting of a program. -/
def of (settings : Settings) : SettingKey α → α
  | .host => settings.server.host
  | .port => settings.server.port
  | .requestTimeout => settings.server.requestTimeout
  | .maxQueryLength => settings.server.maxQueryLength
  | .backendAddress => settings.backend.address
  | .backendTimeout => settings.backend.timeout
  | .schemaTtl => settings.backend.schemaTtl
  | .model => settings.completion.model
  | .apiKey => settings.completion.apiKey
  | .baseUrl => settings.completion.baseUrl
  | .temperature => settings.completion.temperature
  | .topP => settings.completion.topP
  | .maxTokens => settings.completion.maxTokens
  | .proxy => settings.completion.proxy
  | .organization => settings.completion.organization
  | .headers => settings.completion.headers
  | .graphEnabled => settings.graph.enabled
  | .graphUri => settings.graph.uri
  | .graphUser => settings.graph.user
  | .graphPassword => settings.graph.password
  | .graphDatabase => settings.graph.database
  | .connectAttempts => settings.graph.connectAttempts
  | .connectBackoff => settings.graph.connectBackoff
  | .graphTimeout => settings.graph.timeout

/-- The built-in default of the setting. -/
def default (key : SettingKey α) : α := key.of {}

/-- The name of the setting in a layer. -/
def path (key : SettingKey α) : String := key.group ++ "." ++ key.name

/-- What the setting takes from the value that is given to it: the value as it wants it, or its
default where none is given. -/
def Takes (key : SettingKey α) (given : Option SettingValue) (taken : α) : Prop :=
  given.elim (some key.default) key.kind.convert = some taken

/-- The settings of the service. -/
def serverKeys : List (Sigma SettingKey) :=
  [⟨_, .host⟩, ⟨_, .port⟩, ⟨_, .requestTimeout⟩, ⟨_, .maxQueryLength⟩]

/-- The settings of the backend. -/
def backendKeys : List (Sigma SettingKey) :=
  [⟨_, .backendAddress⟩, ⟨_, .backendTimeout⟩, ⟨_, .schemaTtl⟩]

/-- The settings of the completion provider. -/
def completionKeys : List (Sigma SettingKey) :=
  [⟨_, .model⟩, ⟨_, .apiKey⟩, ⟨_, .baseUrl⟩, ⟨_, .temperature⟩, ⟨_, .topP⟩, ⟨_, .maxTokens⟩,
    ⟨_, .proxy⟩, ⟨_, .organization⟩, ⟨_, .headers⟩]

/-- The settings of the graph. -/
def graphKeys : List (Sigma SettingKey) :=
  [⟨_, .graphEnabled⟩, ⟨_, .graphUri⟩, ⟨_, .graphUser⟩, ⟨_, .graphPassword⟩, ⟨_, .graphDatabase⟩,
    ⟨_, .connectAttempts⟩, ⟨_, .connectBackoff⟩, ⟨_, .graphTimeout⟩]

/-- Every setting. -/
def all : List (Sigma SettingKey) :=
  serverKeys ++ backendKeys ++ completionKeys ++ graphKeys

theorem group_mem (key : SettingKey α) : key.group ∈ Environment.sectionNames := by
  cases key <;> decide

theorem pathOf_path (key : SettingKey α) :
    SettingLayer.pathOf key.path = [.entry key.group, .entry key.name] := by
  cases key <;> decide +kernel

/-- Settings of one path have one section and one name. -/
theorem eq_of_path_eq {key : SettingKey α} {other : SettingKey β} (same : key.path = other.path) :
    key.group = other.group ∧ key.name = other.name := by
  have paths := congrArg SettingLayer.pathOf same
  rw [key.pathOf_path, other.pathOf_path] at paths
  simpa using paths

/-- Settings of another path are elsewhere. -/
theorem leadsElsewhere_of_ne {key : SettingKey α} {other : SettingKey β}
    (apart : other.path ≠ key.path) :
    leadsElsewhere key.group key.name (SettingLayer.pathOf other.path) = true := by
  rw [other.pathOf_path, leadsElsewhere]
  by_contra both
  simp only [Bool.or_eq_true, decide_eq_true_eq, not_or, not_not] at both
  refine apart ?_
  rw [path, path, both.1, both.2]

end SettingKey

/-- Settings with a value for each key. -/
def Settings.ofKeys (value : ∀ {α : Type}, SettingKey α → α) : Settings where
  server :=
    { host := value .host, port := value .port, requestTimeout := value .requestTimeout
      maxQueryLength := value .maxQueryLength }
  backend :=
    { address := value .backendAddress, timeout := value .backendTimeout
      schemaTtl := value .schemaTtl }
  completion :=
    { model := value .model, apiKey := value .apiKey, baseUrl := value .baseUrl
      temperature := value .temperature, topP := value .topP, maxTokens := value .maxTokens
      proxy := value .proxy, organization := value .organization, headers := value .headers }
  graph :=
    { enabled := value .graphEnabled, uri := value .graphUri, user := value .graphUser
      password := value .graphPassword, database := value .graphDatabase
      connectAttempts := value .connectAttempts, connectBackoff := value .connectBackoff
      timeout := value .graphTimeout }

@[simp] theorem SettingKey.of_ofKeys {α : Type} (value : ∀ {α : Type}, SettingKey α → α)
    (key : SettingKey α) : key.of (Settings.ofKeys value) = value key := by
  cases key <;> rfl

/-- Settings are the same if they are the same under each key. -/
theorem Settings.ext_keys {first second : Settings}
    (same : ∀ {α : Type} (key : SettingKey α), key.of first = key.of second) : first = second := by
  have whole (settings : Settings) : Settings.ofKeys (fun key => key.of settings) = settings := rfl
  have each : (fun {α : Type} (key : SettingKey α) => key.of first) =
      fun {α : Type} (key : SettingKey α) => key.of second := by
    funext α key
    exact same key
  rw [← whole first, ← whole second, each]

section Sections

variable {α : Type} {found : List (String × SettingValue)}

/-- What a setting takes from the entries of its section. -/
def SettingKey.TakesFrom (key : SettingKey α) (found : List (String × SettingValue)) (taken : α) :
    Prop :=
  key.Takes (found.lookup key.name) taken

/-- Entries of a section are found by their names alone. -/
theorem SettingKey.keyD_eq_some_iff {place : Nat} {taken : α} (key : SettingKey α) :
    (SettingValue.table found).keyD place key.name key.kind.convert key.default = some taken ↔
      key.TakesFrom found taken := by
  unfold SettingKey.TakesFrom SettingKey.Takes SettingValue.keyD SettingValue.key?
  dsimp only
  cases found.lookup key.name <;> rfl

theorem ServerSettings.ofSection?_eq_some_iff {server : ServerSettings} :
    ServerSettings.ofSection? (.table found) = some server ↔
      SettingKey.host.TakesFrom found server.host ∧
      SettingKey.port.TakesFrom found server.port ∧
      SettingKey.requestTimeout.TakesFrom found server.requestTimeout ∧
      SettingKey.maxQueryLength.TakesFrom found server.maxQueryLength := by
  unfold ServerSettings.ofSection?
  simp only [isSection, Bool.not_true, Bool.false_eq_true, if_false, Option.bind_eq_bind,
    Option.bind_eq_some_iff, Option.pure_def, Option.some.injEq]
  constructor
  · rintro ⟨_, host, _, port, _, timeout, _, length, rfl⟩
    exact ⟨SettingKey.host.keyD_eq_some_iff.mp host, SettingKey.port.keyD_eq_some_iff.mp port,
      SettingKey.requestTimeout.keyD_eq_some_iff.mp timeout,
      SettingKey.maxQueryLength.keyD_eq_some_iff.mp length⟩
  · rintro ⟨host, port, timeout, length⟩
    exact ⟨_, SettingKey.host.keyD_eq_some_iff.mpr host,
      _, SettingKey.port.keyD_eq_some_iff.mpr port,
      _, SettingKey.requestTimeout.keyD_eq_some_iff.mpr timeout,
      _, SettingKey.maxQueryLength.keyD_eq_some_iff.mpr length, rfl⟩

theorem BackendSettings.ofSection?_eq_some_iff {backend : BackendSettings} :
    BackendSettings.ofSection? (.table found) = some backend ↔
      SettingKey.backendAddress.TakesFrom found backend.address ∧
      SettingKey.backendTimeout.TakesFrom found backend.timeout ∧
      SettingKey.schemaTtl.TakesFrom found backend.schemaTtl := by
  unfold BackendSettings.ofSection?
  simp only [isSection, Bool.not_true, Bool.false_eq_true, if_false, Option.bind_eq_bind,
    Option.bind_eq_some_iff, Option.pure_def, Option.some.injEq]
  constructor
  · rintro ⟨_, address, _, timeout, _, ttl, rfl⟩
    exact ⟨SettingKey.backendAddress.keyD_eq_some_iff.mp address,
      SettingKey.backendTimeout.keyD_eq_some_iff.mp timeout,
      SettingKey.schemaTtl.keyD_eq_some_iff.mp ttl⟩
  · rintro ⟨address, timeout, ttl⟩
    exact ⟨_, SettingKey.backendAddress.keyD_eq_some_iff.mpr address,
      _, SettingKey.backendTimeout.keyD_eq_some_iff.mpr timeout,
      _, SettingKey.schemaTtl.keyD_eq_some_iff.mpr ttl, rfl⟩

theorem CompletionSettings.ofSection?_eq_some_iff {completion : CompletionSettings} :
    CompletionSettings.ofSection? (.table found) = some completion ↔
      SettingKey.model.TakesFrom found completion.model ∧
      SettingKey.apiKey.TakesFrom found completion.apiKey ∧
      SettingKey.baseUrl.TakesFrom found completion.baseUrl ∧
      SettingKey.temperature.TakesFrom found completion.temperature ∧
      SettingKey.topP.TakesFrom found completion.topP ∧
      SettingKey.maxTokens.TakesFrom found completion.maxTokens ∧
      SettingKey.proxy.TakesFrom found completion.proxy ∧
      SettingKey.organization.TakesFrom found completion.organization ∧
      SettingKey.headers.TakesFrom found completion.headers := by
  unfold CompletionSettings.ofSection?
  simp only [isSection, Bool.not_true, Bool.false_eq_true, if_false, Option.bind_eq_bind,
    Option.bind_eq_some_iff, Option.pure_def, Option.some.injEq]
  constructor
  · rintro ⟨_, model, _, apiKey, _, url, _, temperature, _, top, _, tokens, _, proxy,
      _, organization, _, headers, rfl⟩
    exact ⟨SettingKey.model.keyD_eq_some_iff.mp model, SettingKey.apiKey.keyD_eq_some_iff.mp apiKey,
      SettingKey.baseUrl.keyD_eq_some_iff.mp url,
      SettingKey.temperature.keyD_eq_some_iff.mp temperature,
      SettingKey.topP.keyD_eq_some_iff.mp top, SettingKey.maxTokens.keyD_eq_some_iff.mp tokens,
      SettingKey.proxy.keyD_eq_some_iff.mp proxy,
      SettingKey.organization.keyD_eq_some_iff.mp organization,
      SettingKey.headers.keyD_eq_some_iff.mp headers⟩
  · rintro ⟨model, apiKey, url, temperature, top, tokens, proxy, organization, headers⟩
    exact ⟨_, SettingKey.model.keyD_eq_some_iff.mpr model,
      _, SettingKey.apiKey.keyD_eq_some_iff.mpr apiKey,
      _, SettingKey.baseUrl.keyD_eq_some_iff.mpr url,
      _, SettingKey.temperature.keyD_eq_some_iff.mpr temperature,
      _, SettingKey.topP.keyD_eq_some_iff.mpr top,
      _, SettingKey.maxTokens.keyD_eq_some_iff.mpr tokens,
      _, SettingKey.proxy.keyD_eq_some_iff.mpr proxy,
      _, SettingKey.organization.keyD_eq_some_iff.mpr organization,
      _, SettingKey.headers.keyD_eq_some_iff.mpr headers, rfl⟩

theorem GraphSettings.ofSection?_eq_some_iff {graph : GraphSettings} :
    GraphSettings.ofSection? (.table found) = some graph ↔
      SettingKey.graphEnabled.TakesFrom found graph.enabled ∧
      SettingKey.graphUri.TakesFrom found graph.uri ∧
      SettingKey.graphUser.TakesFrom found graph.user ∧
      SettingKey.graphPassword.TakesFrom found graph.password ∧
      SettingKey.graphDatabase.TakesFrom found graph.database ∧
      SettingKey.connectAttempts.TakesFrom found graph.connectAttempts ∧
      SettingKey.connectBackoff.TakesFrom found graph.connectBackoff ∧
      SettingKey.graphTimeout.TakesFrom found graph.timeout := by
  unfold GraphSettings.ofSection?
  simp only [isSection, Bool.not_true, Bool.false_eq_true, if_false, Option.bind_eq_bind,
    Option.bind_eq_some_iff, Option.pure_def, Option.some.injEq]
  constructor
  · rintro ⟨_, enabled, _, uri, _, user, _, password, _, database, _, attempts, _, backoff,
      _, timeout, rfl⟩
    exact ⟨SettingKey.graphEnabled.keyD_eq_some_iff.mp enabled,
      SettingKey.graphUri.keyD_eq_some_iff.mp uri, SettingKey.graphUser.keyD_eq_some_iff.mp user,
      SettingKey.graphPassword.keyD_eq_some_iff.mp password,
      SettingKey.graphDatabase.keyD_eq_some_iff.mp database,
      SettingKey.connectAttempts.keyD_eq_some_iff.mp attempts,
      SettingKey.connectBackoff.keyD_eq_some_iff.mp backoff,
      SettingKey.graphTimeout.keyD_eq_some_iff.mp timeout⟩
  · rintro ⟨enabled, uri, user, password, database, attempts, backoff, timeout⟩
    exact ⟨_, SettingKey.graphEnabled.keyD_eq_some_iff.mpr enabled,
      _, SettingKey.graphUri.keyD_eq_some_iff.mpr uri,
      _, SettingKey.graphUser.keyD_eq_some_iff.mpr user,
      _, SettingKey.graphPassword.keyD_eq_some_iff.mpr password,
      _, SettingKey.graphDatabase.keyD_eq_some_iff.mpr database,
      _, SettingKey.connectAttempts.keyD_eq_some_iff.mpr attempts,
      _, SettingKey.connectBackoff.keyD_eq_some_iff.mpr backoff,
      _, SettingKey.graphTimeout.keyD_eq_some_iff.mpr timeout, rfl⟩

end Sections

/-- The value holds each section as a table. -/
def SettingValue.HasSections (table : SettingValue) : Prop :=
  ∀ group ∈ Environment.sectionNames, ∃ found, table.entries.lookup group = some (.table found)

/-- The settings in a table of sections are those that each key takes from the table. -/
theorem Settings.ofTable?_eq_some_iff {table : SettingValue} {settings : Settings}
    (sections : table.HasSections) : Settings.ofTable? table = some settings ↔
      ∀ {α : Type} (key : SettingKey α),
        key.Takes (table.at? key.group key.name) (key.of settings) := by
  obtain ⟨serverEntries, server⟩ := sections "server" (by decide)
  obtain ⟨backendEntries, backend⟩ := sections "prometheus" (by decide)
  obtain ⟨completionEntries, completion⟩ := sections "llm" (by decide)
  obtain ⟨graphEntries, graph⟩ := sections "knowledge_graph" (by decide)
  have within {α : Type} {settings : Settings} {found : List (String × SettingValue)}
      (key : SettingKey α) (held : table.entries.lookup key.group = some (.table found)) :
      key.Takes (table.at? key.group key.name) (key.of settings) ↔
        key.TakesFrom found (key.of settings) := by
    rw [SettingValue.at?, held]
    rfl
  unfold Settings.ofTable?
  rw [keyD_of_lookup server, keyD_of_lookup backend, keyD_of_lookup completion,
    keyD_of_lookup graph]
  simp only [Option.bind_eq_bind, Option.bind_eq_some_iff, Option.pure_def, Option.some.injEq]
  constructor
  · rintro ⟨_, serverRead, _, backendRead, _, completionRead, _, graphRead, rfl⟩ α key
    obtain ⟨host, port, timeout, length⟩ := ServerSettings.ofSection?_eq_some_iff.mp serverRead
    obtain ⟨address, wait, ttl⟩ := BackendSettings.ofSection?_eq_some_iff.mp backendRead
    obtain ⟨model, apiKey, url, temperature, top, tokens, proxy, organization, headers⟩ :=
      CompletionSettings.ofSection?_eq_some_iff.mp completionRead
    obtain ⟨enabled, uri, user, password, database, attempts, backoff, patience⟩ :=
      GraphSettings.ofSection?_eq_some_iff.mp graphRead
    cases key with
    | host => exact (within .host server).mpr host
    | port => exact (within .port server).mpr port
    | requestTimeout => exact (within .requestTimeout server).mpr timeout
    | maxQueryLength => exact (within .maxQueryLength server).mpr length
    | backendAddress => exact (within .backendAddress backend).mpr address
    | backendTimeout => exact (within .backendTimeout backend).mpr wait
    | schemaTtl => exact (within .schemaTtl backend).mpr ttl
    | model => exact (within .model completion).mpr model
    | apiKey => exact (within .apiKey completion).mpr apiKey
    | baseUrl => exact (within .baseUrl completion).mpr url
    | temperature => exact (within .temperature completion).mpr temperature
    | topP => exact (within .topP completion).mpr top
    | maxTokens => exact (within .maxTokens completion).mpr tokens
    | proxy => exact (within .proxy completion).mpr proxy
    | organization => exact (within .organization completion).mpr organization
    | headers => exact (within .headers completion).mpr headers
    | graphEnabled => exact (within .graphEnabled graph).mpr enabled
    | graphUri => exact (within .graphUri graph).mpr uri
    | graphUser => exact (within .graphUser graph).mpr user
    | graphPassword => exact (within .graphPassword graph).mpr password
    | graphDatabase => exact (within .graphDatabase graph).mpr database
    | connectAttempts => exact (within .connectAttempts graph).mpr attempts
    | connectBackoff => exact (within .connectBackoff graph).mpr backoff
    | graphTimeout => exact (within .graphTimeout graph).mpr patience
  · intro each
    have taken {α : Type} {found : List (String × SettingValue)} (key : SettingKey α)
        (held : table.entries.lookup key.group = some (.table found)) :=
      (within key held).mp (each key)
    refine ⟨settings.server, ServerSettings.ofSection?_eq_some_iff.mpr ?_,
      settings.backend, BackendSettings.ofSection?_eq_some_iff.mpr ?_,
      settings.completion, CompletionSettings.ofSection?_eq_some_iff.mpr ?_,
      settings.graph, GraphSettings.ofSection?_eq_some_iff.mpr ?_, rfl⟩
    · exact ⟨taken .host server, taken .port server, taken .requestTimeout server,
        taken .maxQueryLength server⟩
    · exact ⟨taken .backendAddress backend, taken .backendTimeout backend,
        taken .schemaTtl backend⟩
    · exact ⟨taken .model completion, taken .apiKey completion, taken .baseUrl completion,
        taken .temperature completion, taken .topP completion, taken .maxTokens completion,
        taken .proxy completion, taken .organization completion, taken .headers completion⟩
    · exact ⟨taken .graphEnabled graph, taken .graphUri graph, taken .graphUser graph,
        taken .graphPassword graph, taken .graphDatabase graph, taken .connectAttempts graph,
        taken .connectBackoff graph, taken .graphTimeout graph⟩

end PromScribe

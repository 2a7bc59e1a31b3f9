import Mathlib.Data.List.Find
import Mathlib.Data.List.Induction
import PromScribe.Proofs.Settings.Key

/-!
# Ranked sources

A short variable outranks a variable that names a setting by its path, which outranks the file, and
the defaults come last. What the sources laid over each other hold under a key is the value of the
highest ranking source that gives it one; no other key has a part in that.
-/

namespace PromScribe

open SettingValue Text

variable {α : Type}

namespace SettingKey

/-- Values of the setting are no lists. -/
def isScalar : SettingKey α → Bool
  | .headers => false
  | _ => true

/-- The name of a variable that names the setting by its path, in small letters. -/
def markedName (key : SettingKey α) : String :=
  Environment.pathMark ++ key.group ++ Environment.pathSeparator ++ key.name

/-- The short variable for the setting, if it has one. -/
def shortName? : SettingKey α → Option String
  | .port => some "SERVER_PORT"
  | .backendAddress => some "PROMETHEUS_URL"
  | .apiKey => some "OPENAI_API_KEY"
  | .model => some "OPENAI_MODEL"
  | .graphUri => some "NEO4J_URI"
  | .graphUser => some "NEO4J_USER"
  | .graphPassword => some "NEO4J_PASSWORD"
  | _ => none

end SettingKey

namespace Environment

/-- What short variables give to a setting. An empty one does not count; the one for the address of
the graph also puts the graph to use. -/
def short? (environment : Environment) (key : SettingKey α) : Option SettingValue :=
  match key with
  | .graphEnabled => (environment.value? "NEO4J_URI").map fun _ => .truth true
  | key => key.shortName?.bind fun name => (environment.value? name).map .text

/-- What variables that name the setting by its path give to it; the last one counts. -/
def marked? (environment : Environment) (key : SettingKey α) : Option SettingValue :=
  (environment.reverse.find? fun entry => lowerString entry.1 = key.markedName).map fun entry =>
    .ofVariable entry.2

/-- Every variable that is marked as one for a single setting names one whose values are no lists. -/
def NamesScalars (environment : Environment) : Prop :=
  ∀ entry ∈ environment, hasStart (lowerString entry.1) pathMark = true →
    ∃ (α : Type) (key : SettingKey α), key.isScalar = true ∧ lowerString entry.1 = key.markedName

/-- Variables for two settings, one of them by its path, and one that is empty. -/
def redirected : Environment :=
  [("PROMQL__SERVER__PORT", "9100"), ("NEO4J_URI", "bolt://new"), ("SERVER_PORT", "")]

theorem namesScalars_redirected : redirected.NamesScalars := by
  have unmarked : hasStart (lowerString "NEO4J_URI") pathMark = false ∧
      hasStart (lowerString "SERVER_PORT") pathMark = false := by
    decide +kernel
  intro entry mem marked
  simp only [redirected, List.mem_cons, List.not_mem_nil, or_false] at mem
  obtain rfl | rfl | rfl := mem
  · exact ⟨Nat, .port, rfl, by decide +kernel⟩
  · exact absurd marked (by simp [unmarked.1])
  · exact absurd marked (by simp [unmarked.2])

end Environment

namespace SettingLayer

/-- A table with each key at most once, and no tables within it. -/
structure IsFlat (held : SettingValue) : Prop where
  table : held.isPlain = false
  distinct : (held.entries.map Prod.fst).Nodup
  plain : ∀ inner ∈ held.entries, inner.2.isPlain = true

/-- Flat tables of sections, each of them at most once. -/
structure WellFormed (layer : SettingLayer) : Prop where
  distinct : (layer.map Prod.fst).Nodup
  sections : ∀ entry ∈ layer, entry.1 ∈ Environment.sectionNames ∧ IsFlat entry.2

instance (held : SettingValue) : Decidable (IsFlat held) :=
  decidable_of_iff (held.isPlain = false ∧ (held.entries.map Prod.fst).Nodup ∧
      ∀ inner ∈ held.entries, inner.2.isPlain = true)
    ⟨fun ⟨whole, distinct, plain⟩ => ⟨whole, distinct, plain⟩,
      fun flat => ⟨flat.table, flat.distinct, flat.plain⟩⟩

instance (layer : SettingLayer) : Decidable (WellFormed layer) :=
  decidable_of_iff ((layer.map Prod.fst).Nodup ∧
      ∀ entry ∈ layer, entry.1 ∈ Environment.sectionNames ∧ IsFlat entry.2)
    ⟨fun ⟨distinct, sections⟩ => ⟨distinct, sections⟩,
      fun formed => ⟨formed.distinct, formed.sections⟩⟩

/-- What the file gives to a setting. -/
def given? (file : SettingLayer) (key : SettingKey α) : Option SettingValue :=
  (SettingValue.table file).at? key.group key.name

/-- What the highest ranking source that sets the setting gives to it, the defaults apart. -/
def ranked? (file : SettingLayer) (environment : Environment) (key : SettingKey α) :
    Option SettingValue :=
  (environment.short? key).or ((environment.marked? key).or (file.given? key))

end SettingLayer

namespace SettingValue

variable {below value : SettingValue} {name : String} {found : List (String × SettingValue)}

theorem lookup_coveredBy (distinct : (found.map Prod.fst).Nodup)
    (plain : ∀ inner ∈ found, inner.2.isPlain = true) :
    (coveredBy below found).entries.lookup name =
      (found.lookup name).or (below.entries.lookup name) := by
  induction found generalizing below with
  | nil => rfl
  | cons inner found ih =>
      obtain ⟨first, value⟩ := inner
      obtain ⟨apart, others⟩ := List.nodup_cons.mp distinct
      rw [coveredBy, ih others fun other mem => plain other (List.mem_cons_of_mem _ mem), lookup_put,
        covered_of_isPlain (plain _ List.mem_cons_self), Keyed.lookup_cons_eq_ite]
      split
      · next here =>
          subst here
          rw [List.lookup_eq_none_iff.mpr fun other mem =>
            bne_iff_ne.mpr fun same => apart (List.mem_map.mpr ⟨other, mem, same.symm⟩)]
          rfl
      · rfl

/-- A table with entries laid over it stays a table. -/
theorem exists_coveredBy (table : ∃ entries, below = .table entries) :
    ∃ entries, coveredBy below found = .table entries := by
  induction found generalizing below with
  | nil => exact table
  | cons inner found ih => exact ih ⟨_, rfl⟩

theorem HasSections.coveredAt_pair {first second : String} (sections : below.HasSections) :
    (below.coveredAt value [.entry first, .entry second]).HasSections := by
  intro group known
  rw [coveredAt, lookup_put]
  split
  · exact ⟨_, rfl⟩
  · exact sections group known

theorem HasSections.coveredAt_table {first : String} (sections : below.HasSections)
    (known : first ∈ Environment.sectionNames) :
    (below.coveredAt (.table found) [.entry first]).HasSections := by
  intro group knownGroup
  rw [coveredAt, lookup_put]
  split
  · obtain ⟨entries, there⟩ := sections first known
    have held : below.entry first = .table entries := by
      rw [entry, there]
      rfl
    obtain ⟨kept, same⟩ := @exists_coveredBy _ found ⟨entries, held⟩
    exact ⟨kept, congrArg some same⟩
  · exact sections group knownGroup

end SettingValue

namespace SettingLayer

variable {layer file : SettingLayer} {below : SettingValue} {environment : Environment}

section Flat

/-- Every entry is a value for a key. -/
def NamesKeys (layer : SettingLayer) : Prop :=
  ∀ entry ∈ layer, entry.2.isPlain = true ∧
    ∃ (α : Type) (key : SettingKey α), entry.1 = key.path

/-- The last value for a key is what the key holds, if there is one. -/
theorem NamesKeys.at?_layOver (names : NamesKeys layer) (key : SettingKey α) :
    (layOver below layer).at? key.group key.name =
      (layer.reverse.lookup key.path).or (below.at? key.group key.name) := by
  induction layer using List.reverseRecOn with
  | nil => rfl
  | append_singleton layer entry ih =>
      obtain ⟨plain, β, other, named⟩ := names entry (by simp)
      have front := ih fun entry mem => names entry (List.mem_append_left _ mem)
      have last : layOver below (layer ++ [entry]) =
          (layOver below layer).coveredAt entry.2 (pathOf entry.1) := layOver_append
      rw [last, List.reverse_append, List.reverse_singleton, List.singleton_append,
        ← Prod.mk.eta (p := entry), Keyed.lookup_cons_eq_ite]
      split
      · next here =>
          rw [← here, key.pathOf_path, at?_coveredAt plain]
          rfl
      · next apart =>
          rw [named] at apart ⊢
          rw [at?_coveredAt_elsewhere (SettingKey.leadsElsewhere_of_ne (Ne.symm apart)), front]

theorem NamesKeys.hasSections_layOver (names : NamesKeys layer) (sections : below.HasSections) :
    (layOver below layer).HasSections := by
  induction layer generalizing below with
  | nil => exact sections
  | cons entry layer ih =>
      obtain ⟨-, β, other, named⟩ := names entry List.mem_cons_self
      have first : (below.coveredAt entry.2 (pathOf entry.1)).HasSections := by
        rw [named, other.pathOf_path]
        exact sections.coveredAt_pair
      exact ih (fun entry mem => names entry (List.mem_cons_of_mem _ mem)) first

theorem exists_key_of_mem {path : String} (known : path ∈ SettingKey.all.map fun key => key.2.path) :
    ∃ (α : Type) (key : SettingKey α), path = key.path := by
  obtain ⟨⟨α, key⟩, -, rfl⟩ := List.mem_map.mp known
  exact ⟨α, key, rfl⟩

theorem namesKeys_defaults : NamesKeys defaults := by
  have each : ∀ entry ∈ defaults, entry.2.isPlain = true ∧
      entry.1 ∈ SettingKey.all.map fun key => key.2.path := by
    decide +kernel
  exact fun entry mem => (each entry mem).imp id exists_key_of_mem

theorem hasSections_defaults : (layOver emptyTable defaults).HasSections := by
  have each : ∀ group ∈ Environment.sectionNames,
      ((layOver emptyTable defaults).entries.lookup group).any (fun held => !held.isPlain) =
        true := by
    decide +kernel
  intro group known
  obtain ⟨held, found, table⟩ := Option.any_eq_true _ _ |>.mp (each group known)
  cases held with
  | table entries => exact ⟨entries, found⟩
  | _ => cases table

/-- The defaults that are laid at the bottom are the built-in ones. -/
theorem takes_defaults (key : SettingKey α) :
    key.Takes (defaults.reverse.lookup key.path) key.default := by
  unfold SettingKey.Takes
  cases key <;> decide +kernel

end Flat

section Variables

open Environment

theorem settingOf?_of_markedName {name : String} {key : SettingKey α}
    (named : lowerString name = key.markedName) : settingOf? name = some key.path := by
  unfold settingOf?
  rw [named]
  cases key <;> decide +kernel

theorem hasStart_of_settingOf? {name path : String} (named : settingOf? name = some path) :
    hasStart (lowerString name) pathMark = true := by
  by_contra unmarked
  unfold settingOf? at named
  rw [if_neg unmarked] at named
  cases named

/-- A variable is for a setting if it is marked and has the setting's name, and only then. -/
theorem settingOf?_eq_some_iff (names : environment.NamesScalars) {entry : String × String}
    (mem : entry ∈ environment) (key : SettingKey α) :
    settingOf? entry.1 = some key.path ↔ lowerString entry.1 = key.markedName := by
  refine ⟨fun named => ?_, settingOf?_of_markedName⟩
  obtain ⟨β, other, -, there⟩ := names entry mem (hasStart_of_settingOf? named)
  have same : other.path = key.path :=
    Option.some.inj ((settingOf?_of_markedName there).symm.trans named)
  obtain ⟨group, name⟩ := SettingKey.eq_of_path_eq same
  rw [there, SettingKey.markedName, SettingKey.markedName, group, name]

theorem namesKeys_pathLayer (names : environment.NamesScalars) :
    NamesKeys environment.pathLayer := by
  intro entry mem
  obtain ⟨source, known, same⟩ := List.mem_filterMap.mp mem
  obtain ⟨path, named, rfl⟩ := Option.map_eq_some_iff.mp same
  obtain ⟨β, other, -, there⟩ := names source known (hasStart_of_settingOf? named)
  exact ⟨isPlain_ofVariable source.2, β, other,
    Option.some.inj (named.symm.trans (settingOf?_of_markedName there))⟩

theorem findSome?_cons_or {β : Type} {found? : β → Option SettingValue} (source : β)
    (sources : List β) :
    (source :: sources).findSome? found? = (found? source).or (sources.findSome? found?) := by
  rw [List.findSome?_cons]
  cases found? source <;> rfl

/-- Among entries that are made of others the first one for a key is that of the first other one. -/
theorem lookup_filterMap {β : Type} {made : β → Option (String × SettingValue)} {path : String}
    (sources : List β) : (sources.filterMap made).lookup path =
      sources.findSome? fun source =>
        (made source).bind fun entry => if path = entry.1 then some entry.2 else none := by
  induction sources with
  | nil => rfl
  | cons source sources ih =>
      rw [findSome?_cons_or, List.filterMap_cons]
      cases made source with
      | none => exact ih
      | some entry =>
          rw [← Prod.mk.eta (p := entry), Keyed.lookup_cons_eq_ite, ih]
          by_cases here : path = entry.1 <;> simp [here]

theorem lookup_pathLayer (names : environment.NamesScalars) (key : SettingKey α) :
    environment.pathLayer.reverse.lookup key.path = environment.marked? key := by
  unfold pathLayer marked?
  rw [← List.filterMap_reverse, lookup_filterMap]
  have named : ∀ entry ∈ environment.reverse, entry ∈ environment := fun _ => List.mem_reverse.mp
  generalize environment.reverse = sources at named ⊢
  induction sources with
  | nil => rfl
  | cons entry entries ih =>
      have here := settingOf?_eq_some_iff names (named entry List.mem_cons_self) key
      rw [findSome?_cons_or, List.find?_cons,
        ih fun other mem => named other (List.mem_cons_of_mem _ mem)]
      by_cases same : lowerString entry.1 = key.markedName
      · simp [here.mpr same, same]
      · cases other : settingOf? entry.1 with
        | none => simp [same]
        | some path =>
            have apart : key.path ≠ path := fun equal => same (here.mp (equal ▸ other))
            simp [same, apart]

theorem namesKeys_shortLayer (environment : Environment) : NamesKeys environment.shortLayer := by
  have known : ∀ pair ∈ shortNames, pair.2 ∈ SettingKey.all.map fun key => key.2.path := by
    decide +kernel
  intro entry mem
  rcases List.mem_append.mp mem with named | enabled
  · obtain ⟨pair, there, same⟩ := List.mem_filterMap.mp named
    obtain ⟨value, -, rfl⟩ := Option.map_eq_some_iff.mp same
    exact ⟨rfl, exists_key_of_mem (known pair there)⟩
  · split at enabled
    · obtain rfl := List.mem_singleton.mp enabled
      exact ⟨rfl, Bool, .graphEnabled, rfl⟩
    · cases enabled

theorem lookup_shortLayer (key : SettingKey α) :
    environment.shortLayer.reverse.lookup key.path = environment.short? key := by
  unfold shortLayer
  rw [List.reverse_append, List.lookup_append, ← List.filterMap_reverse, lookup_filterMap]
  have enabled : (if (environment.value? graphVariable).isSome then
      [("knowledge_graph.enabled", SettingValue.truth true)] else []).reverse.lookup key.path =
        if key.path = "knowledge_graph.enabled" then
          (environment.value? graphVariable).map fun _ => .truth true else none := by
    cases environment.value? graphVariable with
    | none => simp
    | some value => simp [Keyed.lookup_cons_eq_ite]
  have whole (found : Option String) :
      (found.bind fun value => some (SettingValue.text value)) = found.map .text := by
    cases found <;> rfl
  rw [enabled]
  cases key <;>
    simp [SettingKey.path, SettingKey.group, SettingKey.name, short?, SettingKey.shortName?,
      shortNames, graphVariable, findSome?_cons_or, Option.bind_map, whole]

end Variables

section File

theorem pathOf_section {name : String} (known : name ∈ Environment.sectionNames) :
    pathOf name = [.entry name] := by
  have each : ∀ name ∈ Environment.sectionNames, pathOf name = [.entry name] := by decide +kernel
  exact each name known

theorem WellFormed.of_cons {entry : String × SettingValue} (formed : WellFormed (entry :: layer)) :
    WellFormed layer where
  distinct := (List.nodup_cons.mp formed.distinct).2
  sections inner mem := formed.sections inner (List.mem_cons_of_mem entry mem)

theorem exists_table {held : SettingValue} (table : held.isPlain = false) :
    ∃ found, held = .table found := by
  cases held with
  | table found => exact ⟨found, rfl⟩
  | _ => cases table

theorem given?_cons {name : String} {found : List (String × SettingValue)} (key : SettingKey α) :
    given? ((name, .table found) :: layer) key =
      if key.group = name then found.lookup key.name else layer.given? key := by
  unfold given? at?
  rw [entries, entries, Keyed.lookup_cons_eq_ite]
  split <;> rfl

/-- What a file gives to a setting takes the place of what was there; the rest of its section
stays. -/
theorem WellFormed.at?_layOver (formed : WellFormed layer) (key : SettingKey α) :
    (layOver below layer).at? key.group key.name =
      (layer.given? key).or (below.at? key.group key.name) := by
  induction layer generalizing below with
  | nil => rfl
  | cons entry layer ih =>
      obtain ⟨name, value⟩ := entry
      obtain ⟨known, table, distinct, plain⟩ := formed.sections _ List.mem_cons_self
      obtain ⟨found, rfl⟩ := exists_table table
      have rest : (layOver below ((name, .table found) :: layer)).at? key.group key.name = _ :=
        @ih (below.coveredAt (.table found) (pathOf name)) formed.of_cons
      have kept : (coveredBy (below.entry name) found).entries.lookup key.name = _ :=
        lookup_coveredBy distinct plain
      rw [rest, given?_cons, pathOf_section known, coveredAt, at?_put, coveredAt, covered, kept]
      split
      · next here =>
          have absent : given? layer key = none := by
            have apart := (List.nodup_cons.mp formed.distinct).1
            have missing : layer.lookup key.group = none :=
              List.lookup_eq_none_iff.mpr fun other mem => bne_iff_ne.mpr fun same =>
                apart (List.mem_map.mpr ⟨other, mem, same.symm.trans here⟩)
            unfold given? at?
            rw [entries, missing]
            rfl
          rw [absent, Option.none_or, at?_eq_entry, here]
      · rfl

theorem WellFormed.hasSections_layOver (formed : WellFormed layer) (sections : below.HasSections) :
    (layOver below layer).HasSections := by
  induction layer generalizing below with
  | nil => exact sections
  | cons entry layer ih =>
      obtain ⟨name, value⟩ := entry
      obtain ⟨known, flat⟩ := formed.sections _ List.mem_cons_self
      obtain ⟨found, rfl⟩ := exists_table flat.table
      have first : (below.coveredAt (.table found) (pathOf name)).HasSections := by
        rw [pathOf_section known]
        exact sections.coveredAt_table known
      exact ih formed.of_cons first

end File

/-- What all sources hold under a key is the value of the highest ranking one that sets it. -/
theorem at?_stacked (formed : file.WellFormed) (names : environment.NamesScalars)
    (key : SettingKey α) : (stacked file environment).at? key.group key.name =
      (file.ranked? environment key).or (defaults.reverse.lookup key.path) := by
  unfold stacked ranked?
  rw [List.foldl_cons, List.foldl_cons, List.foldl_cons, List.foldl_cons, List.foldl_nil,
    (namesKeys_shortLayer environment).at?_layOver, (namesKeys_pathLayer names).at?_layOver,
    formed.at?_layOver, namesKeys_defaults.at?_layOver, lookup_shortLayer, lookup_pathLayer names,
    Option.or_assoc, Option.or_assoc]
  exact congrArg _ (congrArg _ (congrArg _ Option.or_none))

theorem hasSections_stacked (formed : file.WellFormed) (names : environment.NamesScalars) :
    (stacked file environment).HasSections :=
  (namesKeys_shortLayer environment).hasSections_layOver
    ((namesKeys_pathLayer names).hasSections_layOver
      (formed.hasSections_layOver hasSections_defaults))

/-- A default at the bottom and none at all are the same to a setting. -/
theorem takes_or_defaults {given : Option SettingValue} {key : SettingKey α} {taken : α} :
    key.Takes (given.or (defaults.reverse.lookup key.path)) taken ↔ key.Takes given taken := by
  cases given with
  | some value => rfl
  | none =>
      have built : (defaults.reverse.lookup key.path).elim (some key.default) key.kind.convert =
          some key.default := takes_defaults key
      unfold SettingKey.Takes
      rw [Option.none_or, built]
      rfl

end SettingLayer

theorem Settings.validated_eq_ok_iff {found settings : Settings} :
    found.validated = .ok settings ↔ found = settings ∧ settings.fault? = none := by
  constructor
  · intro sound
    unfold Settings.validated at sound
    split at sound
    · cases sound
    · next none =>
        obtain rfl := Except.ok.inj sound
        exact ⟨rfl, none⟩
  · rintro ⟨rfl, none⟩
    unfold Settings.validated
    rw [none]

theorem Settings.load_eq_ofLayers {file : Option SettingsFile} {layer : SettingLayer}
    (read : file.elim (some []) SettingsFile.layer? = some layer) (environment : Environment) :
    Settings.load file environment = Settings.ofLayers layer environment := by
  unfold Settings.load
  rw [read]

theorem SettingLayer.ofTable?_stacked_eq_some_iff {file : SettingLayer} {environment : Environment}
    {settings : Settings} (formed : file.WellFormed) (names : environment.NamesScalars) :
    Settings.ofTable? (file.stacked environment) = some settings ↔
      ∀ {α : Type} (key : SettingKey α),
        key.Takes (file.ranked? environment key) (key.of settings) := by
  rw [Settings.ofTable?_eq_some_iff (hasSections_stacked formed names)]
  simp only [at?_stacked formed names, takes_or_defaults]

/-- Settings are loaded just if each key of theirs is what it takes from the highest ranking source
that sets it, its own default if there is none, and there is no reason to refuse them. No key has a
part in what another one takes. -/
theorem load_ranked {file : Option SettingsFile} {layer : SettingLayer}
    {environment : Environment} {settings : Settings}
    (read : file.elim (some []) SettingsFile.layer? = some layer) (formed : layer.WellFormed)
    (names : environment.NamesScalars) :
    Settings.load file environment = .ok settings ↔
      (∀ {α : Type} (key : SettingKey α),
        key.Takes (layer.ranked? environment key) (key.of settings)) ∧ settings.fault? = none := by
  rw [Settings.load_eq_ofLayers read, ← SettingLayer.ofTable?_stacked_eq_some_iff formed names]
  unfold Settings.ofLayers
  cases Settings.ofTable? (layer.stacked environment) with
  | none => simp
  | some found =>
      rw [Option.some.injEq]
      exact Settings.validated_eq_ok_iff

/-- Each of three settings of the file has a variable. The short one outranks the file and puts the
graph to use, and the empty one does not count; the host of the file stays beside the new port. -/
theorem load_ranked_graph :
    ∃ file layer settings, file = some (SettingsFile.mk "prom.toml" (some (
          "[server]\nport = 9000\n" ++
            "host = \"127.0.0.1\"\n[knowledge_graph]\nuri = \"bolt://old\"\n"))) ∧
      file.elim (some []) SettingsFile.layer? = some layer ∧
      settings.server.host = "127.0.0.1" ∧ settings.server.port = 9100 ∧
      settings.graph.uri = "bolt://new" ∧ settings.graph.enabled = true ∧
      (∀ {α : Type} (key : SettingKey α), key.Takes (SettingLayer.ranked? layer
        [("PROMQL__SERVER__PORT", "9100"), ("NEO4J_URI", "bolt://new"), ("SERVER_PORT", "")] key)
          (key.of settings)) ∧ settings.fault? = none := by
  obtain ⟨file, same⟩ : ∃ file, file = some (SettingsFile.mk "prom.toml" (some (
    "[server]\nport = 9000\n" ++
      "host = \"127.0.0.1\"\n[knowledge_graph]\nuri = \"bolt://old\"\n"))) := ⟨_, rfl⟩
  have readable : (file.elim (some []) SettingsFile.layer?).any
      (fun layer => decide (SettingLayer.WellFormed layer)) = true := by
    rw [same]
    decide +kernel
  have loaded : Settings.load file Environment.redirected =
      .ok { server := { host := "127.0.0.1", port := 9100 }
            graph := { enabled := true, uri := "bolt://new" } } := by
    rw [same]
    decide +kernel
  obtain ⟨layer, read, formed⟩ := Option.any_eq_true _ _ |>.mp readable
  exact ⟨file, layer, _, same, read, rfl, rfl, rfl, rfl,
    (load_ranked read (of_decide_eq_true formed) Environment.namesScalars_redirected).mp loaded⟩

end PromScribe

import Mathlib.Data.Option.Basic
import PromScribe.Proofs.Json.Decoding
import PromScribe.Proofs.Settings.Key
import PromScribe.Proofs.Settings.Ranking
import PromScribe.Settings.Document

/-!
# Written settings

A document that writes values for some of the settings, in any order, is taken for the settings that
have these values and their defaults elsewhere.
-/

namespace PromScribe

open Document

variable {α : Type}

/-- A header as it is written, with its parts in either order. -/
inductive HeaderSetting.Written : Json → HeaderSetting → Prop where
  | keyFirst (header : HeaderSetting) :
      Written (.object [("key", .string header.key), ("value", .string header.value)]) header
  | valueFirst (header : HeaderSetting) :
      Written (.object [("value", .string header.value), ("key", .string header.key)]) header

/-- A value of a kind of settings as it is written. -/
inductive SettingKind.Written : {α : Type} → SettingKind α → Json → α → Prop where
  | text (value : String) : Written .text (.string value) value
  | word {bits number : Nat} (within : number < Nat.pow 2 bits) :
      Written (.word bits) (.nat number) number
  | truth (value : Bool) : Written .truth (.bool value) value
  /-- A whole number stands for the nearest one of thirty-two bits. -/
  | whole (value : Int) :
      Written .single (.number (.integer value)) (Finite.nearest (value < 0) value.natAbs 1)
  | fraction (value : Double) :
      Written .single (.number (.double value)) (value.convert Binary.single)
  | missing : Written .optionalText .null none
  | given (value : String) : Written .optionalText (.string value) (some value)
  | headers {items : List Json} {headers : List HeaderSetting}
      (each : List.Forall₂ HeaderSetting.Written items headers) :
      Written .headers (.array items) headers

/-- What takes a value of the kind from a document. -/
def SettingKind.decoder : SettingKind α → Decoder α
  | .text => Decoder.string
  | .word bits => Decoder.natBelow (wordLimit bits)
  | .truth => Decoder.bool
  | .single => Decoder.single
  | .optionalText => Decoder.optionalText
  | .headers => Decoder.list HeaderSetting.decode

section Kinds

variable {kind : SettingKind α} {value : Json} {taken : α}

theorem HeaderSetting.Written.decode_eq {header : HeaderSetting} (written : Written value header) :
    HeaderSetting.decode (ofJson value) = .ok header := by
  cases written <;> rfl

theorem HeaderSetting.decode_list {items : List Json} {headers : List HeaderSetting}
    (each : List.Forall₂ Written items headers) :
    Decoder.list HeaderSetting.decode (ofJson (.array items)) = .ok headers := by
  have taken : (ofItems items).mapM HeaderSetting.decode = .ok headers := by
    induction each with
    | nil => rfl
    | cons first _ rest =>
        rw [ofItems, List.mapM_cons, first.decode_eq, rest]
        rfl
  rw [ofJson, Decoder.list, taken]
  rfl

theorem SettingKind.Written.decoder_eq (written : kind.Written value taken) :
    kind.decoder (ofJson value) = .ok taken := by
  cases written with
  | word within =>
      rename_i bits number
      have fits : (decide (0 ≤ (number : Int)) && decide ((number : Int) < (wordLimit bits : Nat))) =
          true :=
        Bool.and_eq_true_iff.mpr
          ⟨decide_eq_true (Int.natCast_nonneg number), decide_eq_true (Int.ofNat_lt.mpr within)⟩
      exact if_pos fits
  | headers each => exact HeaderSetting.decode_list each
  | text | truth | whole | fraction | missing | given => rfl

end Kinds

/-- Values for some of the settings. -/
structure PartialSettings where
  of? : {α : Type} → SettingKey α → Option α

/-- The values, and the defaults of the settings that have none. -/
def PartialSettings.settings (given : PartialSettings) : Settings :=
  Settings.ofKeys fun key => (given.of? key).getD key.default

/-- The members are settings of a section, each of them once, and have the given values. -/
structure PartialSettings.IsWrittenIn (given : PartialSettings) (group : String)
    (inner : List (String × Json)) : Prop where
  distinct : (inner.map Prod.fst).Nodup
  known : ∀ field ∈ inner, ∃ (α : Type) (key : SettingKey α), key.group = group ∧ key.name = field.1
  each : ∀ {α : Type} (key : SettingKey α), key.group = group →
    Option.Rel key.kind.Written (inner.lookup key.name) (given.of? key)

/-- The members are sections, each of them once, and the given values are those of their settings. -/
structure PartialSettings.IsWritten (given : PartialSettings) (members : List (String × Json)) :
    Prop where
  distinct : (members.map Prod.fst).Nodup
  sections : ∀ member ∈ members, member.1 ∈ Environment.sectionNames ∧
    ∃ inner, member.2 = .object inner ∧ given.IsWrittenIn member.1 inner
  absent : ∀ {α : Type} (key : SettingKey α), members.lookup key.group = none →
    given.of? key = none

section Decoding

variable {given : PartialSettings} {members inner : List (String × Json)}

theorem shows_of_written {kind : SettingKind α} {value? : Option Json} {taken? : Option α}
    (default : α) (written : Option.Rel kind.Written value? taken?) :
    Shows kind.decoder default (taken?.getD default) value? := by
  cases written with
  | none => rfl
  | some written => exact written.decoder_eq

/-- What a record has for a setting. -/
def SettingKey.field (key : SettingKey α) : Field :=
  .of key.name .defaulted key.kind.decoder

/-- A section in which the given values are written is taken as a record that has them. -/
theorem PartialSettings.IsWrittenIn.exists_record {group : String} (keys : List (Sigma SettingKey))
    (groups : ∀ key ∈ keys, key.2.group = group)
    (complete : ∀ {α : Type} (key : SettingKey α), key.group = group → Sigma.mk α key ∈ keys)
    (written : given.IsWrittenIn group inner) :
    ∃ record, Record.ofDocument (keys.map fun key => key.2.field) (ofJson (.object inner)) =
        .ok record ∧
      ∀ {α : Type} (key : SettingKey α), key.group = group →
        record.getD key.name key.kind.decoder key.default =
          .ok ((given.of? key).getD key.default) := by
  have within : inner.map Prod.fst ⊆ (keys.map fun key => key.2.field).map Field.name := by
    intro name mem
    obtain ⟨field, there, rfl⟩ := List.mem_map.mp mem
    obtain ⟨α, key, here, named⟩ := written.known field there
    rw [← named]
    exact List.mem_map_of_mem (List.mem_map_of_mem (complete key here))
  obtain ⟨record, taken, held⟩ :=
    Record.exists_record_of_distinct _ inner written.distinct within fun field mem => by
      obtain ⟨key, known, rfl⟩ := List.mem_map.mp mem
      exact Field.fits_of_shows nofun
        (shows_of_written key.2.default (written.each key.2 (groups key known)))
  exact ⟨record, taken, fun key here =>
    Record.getD_eq held (shows_of_written key.default (written.each key here))⟩

theorem ServerSettings.decode_eq (written : given.IsWrittenIn "server" inner) :
    ServerSettings.decode (ofJson (.object inner)) = .ok given.settings.server := by
  obtain ⟨record, taken, held⟩ := written.exists_record SettingKey.serverKeys (by decide)
    fun key here => by cases key <;> simp [SettingKey.group, SettingKey.serverKeys] at here ⊢
  exact bind_eq_ok_iff.mpr ⟨_, taken, bind_eq_ok_iff.mpr ⟨_, held .host rfl,
    bind_eq_ok_iff.mpr ⟨_, held .port rfl, bind_eq_ok_iff.mpr ⟨_, held .requestTimeout rfl,
      bind_eq_ok_iff.mpr ⟨_, held .maxQueryLength rfl, rfl⟩⟩⟩⟩⟩

theorem BackendSettings.decode_eq (written : given.IsWrittenIn "prometheus" inner) :
    BackendSettings.decode (ofJson (.object inner)) = .ok given.settings.backend := by
  obtain ⟨record, taken, held⟩ := written.exists_record SettingKey.backendKeys (by decide)
    fun key here => by cases key <;> simp [SettingKey.group, SettingKey.backendKeys] at here ⊢
  exact bind_eq_ok_iff.mpr ⟨_, taken, bind_eq_ok_iff.mpr ⟨_, held .backendAddress rfl,
    bind_eq_ok_iff.mpr ⟨_, held .backendTimeout rfl,
      bind_eq_ok_iff.mpr ⟨_, held .schemaTtl rfl, rfl⟩⟩⟩⟩

theorem CompletionSettings.decode_eq (written : given.IsWrittenIn "llm" inner) :
    CompletionSettings.decode (ofJson (.object inner)) = .ok given.settings.completion := by
  obtain ⟨record, taken, held⟩ := written.exists_record SettingKey.completionKeys (by decide)
    fun key here => by cases key <;> simp [SettingKey.group, SettingKey.completionKeys] at here ⊢
  exact bind_eq_ok_iff.mpr ⟨_, taken, bind_eq_ok_iff.mpr ⟨_, held .model rfl,
    bind_eq_ok_iff.mpr ⟨_, held .apiKey rfl, bind_eq_ok_iff.mpr ⟨_, held .baseUrl rfl,
      bind_eq_ok_iff.mpr ⟨_, held .temperature rfl, bind_eq_ok_iff.mpr ⟨_, held .topP rfl,
        bind_eq_ok_iff.mpr ⟨_, held .maxTokens rfl, bind_eq_ok_iff.mpr ⟨_, held .proxy rfl,
          bind_eq_ok_iff.mpr ⟨_, held .organization rfl,
            bind_eq_ok_iff.mpr ⟨_, held .headers rfl, rfl⟩⟩⟩⟩⟩⟩⟩⟩⟩⟩

theorem GraphSettings.decode_eq (written : given.IsWrittenIn "knowledge_graph" inner) :
    GraphSettings.decode (ofJson (.object inner)) = .ok given.settings.graph := by
  obtain ⟨record, taken, held⟩ := written.exists_record SettingKey.graphKeys (by decide)
    fun key here => by cases key <;> simp [SettingKey.group, SettingKey.graphKeys] at here ⊢
  exact bind_eq_ok_iff.mpr ⟨_, taken, bind_eq_ok_iff.mpr ⟨_, held .graphEnabled rfl,
    bind_eq_ok_iff.mpr ⟨_, held .graphUri rfl, bind_eq_ok_iff.mpr ⟨_, held .graphUser rfl,
      bind_eq_ok_iff.mpr ⟨_, held .graphPassword rfl, bind_eq_ok_iff.mpr ⟨_, held .graphDatabase rfl,
        bind_eq_ok_iff.mpr ⟨_, held .connectAttempts rfl,
          bind_eq_ok_iff.mpr ⟨_, held .connectBackoff rfl,
            bind_eq_ok_iff.mpr ⟨_, held .graphTimeout rfl, rfl⟩⟩⟩⟩⟩⟩⟩⟩⟩

namespace PartialSettings

/-- A section is taken for its given values, and for its default where it is left out. -/
theorem IsWritten.shows_section {β : Type} {group : String} {decoder : Decoder β}
    {default taken : β} (written : given.IsWritten members)
    (read : ∀ {inner}, given.IsWrittenIn group inner →
      decoder (ofJson (.object inner)) = .ok taken)
    (built : (∀ {α : Type} (key : SettingKey α), key.group = group → given.of? key = none) →
      default = taken) : Shows decoder default taken (members.lookup group) := by
  cases found : members.lookup group with
  | none => exact built fun key here => written.absent key (here ▸ found)
  | some value =>
      obtain ⟨front, back, rfl, -⟩ := List.lookup_eq_some_iff.mp found
      obtain ⟨-, inner, rfl, within⟩ := written.sections (group, value) (by simp)
      exact read within

/-- A document in which the given values are written is taken for them and the defaults. -/
theorem IsWritten.decode_eq (written : given.IsWritten members) :
    Settings.decode (ofJson (.object members)) = .ok given.settings := by
  have server : Shows ServerSettings.decode {} given.settings.server
      (members.lookup "server") := by
    refine written.shows_section ServerSettings.decode_eq fun none => ?_
    simp only [settings, Settings.ofKeys, none .host rfl, none .port rfl, none .requestTimeout rfl,
      none .maxQueryLength rfl]
    rfl
  have backend : Shows BackendSettings.decode {} given.settings.backend
      (members.lookup "prometheus") := by
    refine written.shows_section BackendSettings.decode_eq fun none => ?_
    simp only [settings, Settings.ofKeys, none .backendAddress rfl, none .backendTimeout rfl,
      none .schemaTtl rfl]
    rfl
  have completion : Shows CompletionSettings.decode {} given.settings.completion
      (members.lookup "llm") := by
    refine written.shows_section CompletionSettings.decode_eq fun none => ?_
    simp only [settings, Settings.ofKeys, none .model rfl, none .apiKey rfl, none .baseUrl rfl,
      none .temperature rfl, none .topP rfl, none .maxTokens rfl, none .proxy rfl,
      none .organization rfl, none .headers rfl]
    rfl
  have graph : Shows GraphSettings.decode {} given.settings.graph
      (members.lookup "knowledge_graph") := by
    refine written.shows_section GraphSettings.decode_eq fun none => ?_
    simp only [settings, Settings.ofKeys, none .graphEnabled rfl, none .graphUri rfl,
      none .graphUser rfl, none .graphPassword rfl, none .graphDatabase rfl,
      none .connectAttempts rfl, none .connectBackoff rfl, none .graphTimeout rfl]
    rfl
  have within : members.map Prod.fst ⊆ Environment.sectionNames := by
    intro name mem
    obtain ⟨member, there, rfl⟩ := List.mem_map.mp mem
    exact (written.sections member there).1
  obtain ⟨record, taken, held⟩ := Record.exists_record_of_distinct
    [.of "server" .defaulted ServerSettings.decode,
      .of "prometheus" .defaulted BackendSettings.decode,
      .of "llm" .defaulted CompletionSettings.decode,
      .of "knowledge_graph" .defaulted GraphSettings.decode] members written.distinct within (by
        refine List.forall_mem_cons.mpr ⟨Field.fits_of_shows nofun server, ?_⟩
        refine List.forall_mem_cons.mpr ⟨Field.fits_of_shows nofun backend, ?_⟩
        refine List.forall_mem_cons.mpr ⟨Field.fits_of_shows nofun completion, ?_⟩
        exact List.forall_mem_singleton.mpr (Field.fits_of_shows nofun graph))
  exact bind_eq_ok_iff.mpr ⟨_, taken, bind_eq_ok_iff.mpr ⟨_, Record.getD_eq held server,
    bind_eq_ok_iff.mpr ⟨_, Record.getD_eq held backend,
      bind_eq_ok_iff.mpr ⟨_, Record.getD_eq held completion,
        bind_eq_ok_iff.mpr ⟨_, Record.getD_eq held graph, rfl⟩⟩⟩⟩⟩

end PartialSettings

end Decoding

/-!
## Settings in files

A file in which values for some of the settings are written is read as entries that have these
values. Structured text is read with the members of its objects in the order of their keys, whatever
their order in the text.
-/

/-- What a document has for a setting. -/
def SettingKey.member? (key : SettingKey α) (document : Json) : Option Json :=
  (document.member? key.group).bind (Json.member? key.name)

section Meaning

variable {room : Nat} {value : Json}

theorem HeaderSetting.Written.meaning?_eq {header : HeaderSetting} (written : Written value header) :
    (ofJson value).meaning? (room + 1) =
      some (.object [("key", .string header.key), ("value", .string header.value)]) := by
  have ahead : "key" < "value" := by decide
  have behind : ¬"value" < "key" := by decide
  cases written <;>
    simp [ofJson, ofMembers, meaning?, memberMeanings?, Keyed.ofList, Keyed.insert,
      Keyed.insertEntry, Keyed.empty, ahead, behind]

/-- A written value means a value that is written for the same setting. -/
theorem SettingKind.Written.exists_meaning {kind : SettingKind α} {taken : α} (room : Nat)
    (written : kind.Written value taken) :
    ∃ meant, (ofJson value).meaning? (room + 2) = some meant ∧ kind.Written meant taken := by
  cases written with
  | @headers items headers each =>
      have read : ∃ meant, itemMeanings? (room + 1) (ofItems items) = some meant ∧
          List.Forall₂ HeaderSetting.Written meant headers := by
        induction each with
        | nil => exact ⟨[], rfl, .nil⟩
        | cons first _ ih =>
            rename_i header _ _ _
            obtain ⟨meant, rest, all⟩ := ih
            refine ⟨_ :: meant, ?_, .cons (.keyFirst header) all⟩
            rw [ofItems, itemMeanings?, first.meaning?_eq, rest]
            rfl
      obtain ⟨meant, read, all⟩ := read
      refine ⟨.array meant, ?_, .headers all⟩
      rw [ofJson, meaning?, if_pos rfl, read]
      rfl
  | text value => exact ⟨_, rfl, .text value⟩
  | word within => exact ⟨_, rfl, .word within⟩
  | truth value => exact ⟨_, rfl, .truth value⟩
  | whole value => exact ⟨_, rfl, .whole value⟩
  | fraction value => exact ⟨_, rfl, .fraction value⟩
  | missing => exact ⟨_, rfl, .missing⟩
  | given value => exact ⟨_, rfl, .given value⟩

end Meaning

namespace PartialSettings

variable {given : PartialSettings} {members inner : List (String × Json)} {group : String}

/-- The value is that of the settings which have the name in the section. -/
def AreAt (given : PartialSettings) (group name : String) (value : Json) : Prop :=
  ∀ {α : Type} (key : SettingKey α), key.group = group → key.name = name →
    ∃ taken, given.of? key = some taken ∧ key.kind.Written value taken

theorem IsWrittenIn.exists_meaning (room : Nat) (written : given.IsWrittenIn group inner) :
    ∃ meant, (ofJson (.object inner)).meaning? (room + 3) = some (.object meant) ∧
      given.IsWrittenIn group meant := by
  have each : ∀ field ∈ inner, ∃ meant, (ofJson field.2).meaning? (room + 2) = some meant ∧
      field.1 ∈ inner.map Prod.fst ∧ given.AreAt group field.1 meant := by
    intro field mem
    have values : given.AreAt group field.1 field.2 := by
      intro α key here named
      have held := written.each key here
      rw [named, Keyed.lookup_of_mem written.distinct mem] at held
      cases same : given.of? key with
      | none =>
          rw [same] at held
          cases held
      | some taken =>
          rw [same] at held
          cases held with
          | some fits => exact ⟨taken, rfl, fits⟩
    obtain ⟨β, first, here, named⟩ := written.known field mem
    -- All settings of one name have one value, so what it means is one for all of them.
    obtain ⟨_, _, fits⟩ := values first here named
    obtain ⟨meant, means, -⟩ := fits.exists_meaning room
    refine ⟨meant, means, List.mem_map_of_mem mem, fun key here named => ?_⟩
    obtain ⟨taken, same, fits⟩ := values key here named
    obtain ⟨other, also, kept⟩ := fits.exists_meaning room
    obtain rfl : other = meant := Option.some.inj (also.symm.trans means)
    exact ⟨taken, same, kept⟩
  obtain ⟨meant, means, distinct, missing, all⟩ := exists_meaning_object
    (fun name value => name ∈ inner.map Prod.fst ∧ given.AreAt group name value)
    written.distinct each
  refine ⟨meant, means, distinct, fun field mem => ?_, fun key here => ?_⟩
  · obtain ⟨other, known, same⟩ := List.mem_map.mp (all field mem).1
    rw [← same]
    exact written.known other known
  · cases found : meant.lookup key.name with
    | none =>
        have held := written.each key here
        rw [(missing key.name).mp found] at held
        generalize given.of? key = value? at held ⊢
        cases held
        exact .none
    | some value =>
        obtain ⟨front, back, rfl, -⟩ := List.lookup_eq_some_iff.mp found
        obtain ⟨taken, same, fits⟩ := (all (key.name, value) (by simp)).2 key here rfl
        rw [same]
        exact .some fits

theorem IsWritten.exists_meaning (room : Nat) (written : given.IsWritten members) :
    ∃ meant, (ofJson (.object members)).meaning? (room + 4) = some (.object meant) ∧
      given.IsWritten meant := by
  have each : ∀ member ∈ members, ∃ meant, (ofJson member.2).meaning? (room + 3) = some meant ∧
      member.1 ∈ Environment.sectionNames ∧
        ∃ inner, meant = .object inner ∧ given.IsWrittenIn member.1 inner := by
    intro member mem
    obtain ⟨known, inner, same, within⟩ := written.sections member mem
    obtain ⟨meant, means, kept⟩ := within.exists_meaning room
    exact ⟨_, same ▸ means, known, meant, rfl, kept⟩
  obtain ⟨meant, means, distinct, missing, all⟩ := exists_meaning_object
    (fun name value => name ∈ Environment.sectionNames ∧
      ∃ inner, value = .object inner ∧ given.IsWrittenIn name inner)
    written.distinct each
  exact ⟨meant, means, distinct, all, fun key none =>
    written.absent key ((missing key.group).mp none)⟩

end PartialSettings

namespace SettingValue

variable {members : List (String × Json)} {name : String}

theorem ofMembers_eq_map (members : List (String × Json)) :
    SettingValue.ofMembers members = members.map fun member => (member.1, ofJson member.2) := by
  induction members with
  | nil => rfl
  | cons member members ih => rw [ofMembers, ih, List.map_cons]

theorem keys_ofMembers (members : List (String × Json)) :
    (SettingValue.ofMembers members).map Prod.fst = members.map Prod.fst := by
  rw [ofMembers_eq_map, List.map_map]
  rfl

theorem lookup_ofMembers :
    (SettingValue.ofMembers members).lookup name = (members.lookup name).map ofJson := by
  induction members with
  | nil => rfl
  | cons member members ih =>
      obtain ⟨first, value⟩ := member
      rw [ofMembers, Keyed.lookup_cons_eq_ite, Keyed.lookup_cons_eq_ite, ih]
      split <;> rfl

theorem ofJson_integer (value : Int) : ofJson (.number (.integer value)) =
    if isInteger value then .integer value
    else .real (Finite.nearest (value < 0) value.natAbs 1) := by
  rw [ofJson]

theorem isPlain_of_written {kind : SettingKind α} {value : Json} {taken : α}
    (written : kind.Written value taken) : (ofJson value).isPlain = true := by
  have whole (number : Int) : (ofJson (.number (.integer number))).isPlain = true := by
    rw [ofJson_integer]
    split <;> rfl
  cases written with
  | @word bits number within => exact whole number
  | whole number => exact whole number
  | _ => rfl

end SettingValue

namespace PartialSettings

variable {given : PartialSettings} {members : List (String × Json)}

theorem IsWritten.wellFormed (written : given.IsWritten members) :
    SettingLayer.WellFormed (SettingValue.ofMembers members) where
  distinct := by
    rw [SettingValue.keys_ofMembers]
    exact written.distinct
  sections entry mem := by
    rw [SettingValue.ofMembers_eq_map] at mem
    obtain ⟨member, there, rfl⟩ := List.mem_map.mp mem
    obtain ⟨known, inner, same, within⟩ := written.sections member there
    have table : SettingValue.ofJson member.2 = .table (SettingValue.ofMembers inner) := by
      rw [same, SettingValue.ofJson]
    refine ⟨known, ?_, ?_, ?_⟩
    · rw [table]
      rfl
    · rw [table, SettingValue.entries, SettingValue.keys_ofMembers]
      exact within.distinct
    · rw [table, SettingValue.entries, SettingValue.ofMembers_eq_map]
      intro field mem
      obtain ⟨field, there, rfl⟩ := List.mem_map.mp mem
      obtain ⟨β, key, here, named⟩ := within.known field there
      have held := within.each key here
      rw [named, Keyed.lookup_of_mem within.distinct there] at held
      generalize given.of? key = value? at held
      cases held with
      | some fits => exact SettingValue.isPlain_of_written fits

/-- What a document in which values are written has for a setting. -/
theorem IsWritten.rel_member? (written : given.IsWritten members) (key : SettingKey α) :
    Option.Rel key.kind.Written (key.member? (.object members)) (given.of? key) := by
  unfold SettingKey.member? Json.member?
  dsimp only
  cases found : members.lookup key.group with
  | none =>
      rw [written.absent key found]
      exact .none
  | some value =>
      obtain ⟨front, back, rfl, -⟩ := List.lookup_eq_some_iff.mp found
      obtain ⟨-, inner, rfl, within⟩ := written.sections (key.group, value) (by simp)
      exact within.each key rfl

end PartialSettings

/-- The file has the content of a document: as structured text, or as entries in another format. -/
inductive SettingsFile.Writes (members : List (String × Json)) : SettingsFile → Prop where
  | text {name content : String} (format : FileFormat.ofName? name = some .json)
      (reads : Json.readDocument (withoutOrderMark content).toList =
        (Document.ofJson (.object members), true)) :
      Writes members ⟨name, some content⟩
  | entries {file : SettingsFile} {layer : SettingLayer} (read : file.layer? = some layer)
      (formed : layer.WellFormed)
      (each : ∀ {α : Type} (key : SettingKey α),
        layer.given? key = (key.member? (.object members)).map SettingValue.ofJson) :
      Writes members file

theorem SettingLayer.given?_ofMembers (members : List (String × Json)) (key : SettingKey α) :
    SettingLayer.given? (SettingValue.ofMembers members) key =
      (key.member? (.object members)).map SettingValue.ofJson := by
  unfold SettingLayer.given? SettingValue.at? SettingKey.member? Json.member?
  rw [SettingValue.entries, SettingValue.lookup_ofMembers]
  dsimp only
  cases members.lookup key.group with
  | none => rfl
  | some value =>
      cases value with
      | object inner => exact SettingValue.lookup_ofMembers
      | number number =>
          cases number with
          | integer whole =>
              rw [Option.map_some, Option.bind_some, SettingValue.ofJson_integer]
              split <;> rfl
          | double fraction => rfl
      | _ => rfl

/-- A file with the content of a document has an entry for each value that is written in it. -/
theorem PartialSettings.IsWritten.exists_layer {given : PartialSettings}
    {members : List (String × Json)} {file : SettingsFile} (written : given.IsWritten members)
    (writes : file.Writes members) :
    ∃ layer, file.layer? = some layer ∧ SettingLayer.WellFormed layer ∧
      ∀ {α : Type} (key : SettingKey α), ∃ value?,
        SettingLayer.given? layer key = value?.map SettingValue.ofJson ∧
          Option.Rel key.kind.Written value? (given.of? key) := by
  cases writes with
  | entries read formed each =>
      exact ⟨_, read, formed, fun key => ⟨_, each key, written.rel_member? key⟩⟩
  | text format reads =>
      obtain ⟨meant, means, kept⟩ := written.exists_meaning 123
      refine ⟨SettingValue.ofMembers meant, ?_, kept.wellFormed, fun key =>
        ⟨_, SettingLayer.given?_ofMembers meant key, kept.rel_member? key⟩⟩
      unfold SettingsFile.layer?
      dsimp only
      rw [format]
      dsimp only
      unfold FileFormat.entries? jsonEntries? Json.read?
      dsimp only
      rw [reads]
      dsimp only
      have whole : (ofJson (.object members)).meaning? depthLimit = some (.object meant) := means
      rw [if_pos rfl, whole]

end PromScribe

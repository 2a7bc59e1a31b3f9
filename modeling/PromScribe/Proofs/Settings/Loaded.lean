import PromScribe.Proofs.Binary.Nearest
import PromScribe.Proofs.Settings.Written

/-!
# Loaded settings

A file and the document that it writes give the same settings, but for counts of more than
sixty-three bits: those of a file are nearest numbers. The file is refused just if the settings of
the document are.
-/

namespace PromScribe

open Binary

variable {α : Type}

/-- The count that a file gives for one that is written in it: one of more than sixty-three bits is
read as the nearest double. -/
def loadedWord (number : Nat) : Nat :=
  if number < Nat.pow 2 63 then number
  else SettingValue.roundedWord (Finite.nearest false number 1)

section Words

theorem loadedWord_of_lt {number : Nat} (small : number < Nat.pow 2 63) :
    loadedWord number = number :=
  if_pos small

theorem roundedWord_le (number : Scalar double) :
    SettingValue.roundedWord number ≤ SettingValue.maxWord := by
  unfold SettingValue.roundedWord
  split
  · split
    · exact Nat.zero_le _
    · exact Nat.min_le_left _ _
  · split
    · exact Nat.zero_le _
    · exact Nat.le_refl _
  · exact Nat.zero_le _

theorem roundedWord_finite_ne_zero {number : Double} (sign : number.negative = false)
    (least : double.one ≤ number.units) : SettingValue.roundedWord (.finite number) ≠ 0 := by
  have quotient {one units : Nat} (positive : 0 < one) (least : one ≤ units) :
      0 < (2 * units + one) / (2 * one) :=
    Nat.div_pos (by omega) (by omega)
  have whole := quotient double.one_pos least
  have some : 0 < SettingValue.maxWord := by decide
  unfold SettingValue.roundedWord
  dsimp only
  rw [sign, if_neg Bool.false_ne_true]
  generalize (2 * number.units + double.one) / (2 * double.one) = rounded at whole ⊢
  generalize SettingValue.maxWord = most at some ⊢
  exact Nat.ne_of_gt (Nat.lt_min.mpr ⟨some, whole⟩)

/-- What is one or more is at least one as a word. -/
theorem roundedWord_nearest_ne_zero {number : Nat} (above : 1 ≤ number) :
    SettingValue.roundedWord (Finite.nearest false number 1) ≠ 0 := by
  rcases Finite.nearest_cases double false number 1 with ⟨found, near⟩ | near
  · rw [near]
    exact roundedWord_finite_ne_zero (Finite.of_nearest near).1
      (Finite.one_le_units_of_nearest (by decide) Nat.one_pos above near)
  · rw [near]
    decide

theorem loadedWord_eq_zero_iff {number : Nat} : loadedWord number = 0 ↔ number = 0 := by
  unfold loadedWord
  split
  · rfl
  · next large =>
      have some : 1 ≤ number := Nat.le_trans Nat.one_le_two_pow (Nat.le_of_not_lt large)
      exact iff_of_false (roundedWord_nearest_ne_zero some) (Nat.ne_of_gt some)

end Words

/-- An integer is brought to few digits through a double; where that makes a difference, neither
result is a proportion. -/
theorem convert_nearest_whole (whole : Int) :
    (Finite.nearest (whole < 0) whole.natAbs 1 : Scalar double).convert single =
        Finite.nearest (whole < 0) whole.natAbs 1 ∨
      ((Finite.nearest (whole < 0) whole.natAbs 1 : Scalar double).convert single).isProportion =
          false ∧
        (Finite.nearest (whole < 0) whole.natAbs 1 : Single).isProportion = false := by
  by_cases zero : whole = 0
  · subst zero
    exact .inl (by decide +kernel)
  by_cases one : whole = 1
  · subst one
    exact .inl (by decide +kernel)
  have above : 1 ≤ whole.natAbs := by omega
  have far : decide (whole < 0) = true ∨ 1 * 2 ≤ whole.natAbs := by
    rw [decide_eq_true_iff]
    omega
  exact .inr
    ⟨Finite.isProportion_convert_nearest (by decide) Nat.one_pos (by decide) above far,
      Finite.isProportion_nearest (by decide) Nat.one_pos above far⟩

namespace SettingKind

/-- What a file gives for a value that is written in it. -/
def loaded : SettingKind α → α → α
  | .word _ => loadedWord
  | _ => id

/-- Settings with the value are refused, for being no proportion. -/
def Refuses : SettingKind α → α → Prop
  | .single, value => value.isProportion = false
  | _, _ => False

/-- The value is what a file gives for the other one, or both are refused. -/
def Agrees (kind : SettingKind α) (found taken : α) : Prop :=
  found = kind.loaded taken ∨ kind.Refuses found ∧ kind.Refuses taken

/-- A number of the kind has at most sixty-three bits. -/
def IsShort : SettingKind α → α → Prop
  | .word _, number => number < Nat.pow 2 63
  | _, _ => True

/-- Numbers of the kind have no more than sixty-four bits. -/
def IsNarrow : SettingKind α → Prop
  | .word bits => bits ≤ 64
  | _ => True

end SettingKind

section Conversion

variable {kind : SettingKind α} {value : Json} {taken : α}

theorem isInteger_natCast (number : Nat) :
    SettingValue.isInteger number = decide (number < Nat.pow 2 63) := by
  unfold SettingValue.isInteger
  rw [decide_eq_true (Int.le_trans (Int.neg_nonpos_of_nonneg (Int.natCast_nonneg _))
    (Int.natCast_nonneg number)), Bool.true_and]
  exact decide_eq_decide.mpr Int.ofNat_lt

theorem word?_integer (bound number : Nat) :
    SettingValue.word? bound (.integer number) = if number < bound then some number else none := by
  unfold SettingValue.word?
  dsimp only
  rw [if_pos (Int.natCast_nonneg number)]
  rfl

theorem word?_real (bound : Nat) (number : Scalar double) :
    SettingValue.word? bound (.real number) =
      if SettingValue.roundedWord number < bound then some (SettingValue.roundedWord number)
      else none :=
  rfl

theorem roundedWord_lt (number : Scalar double) :
    SettingValue.roundedWord number < Nat.pow 2 64 :=
  Nat.lt_of_le_of_lt (roundedWord_le number) (by decide)

theorem nearest_natCast {layout : Layout} (number : Nat) :
    (Finite.nearest ((number : Int) < 0) (number : Int).natAbs 1 : Scalar layout) =
      Finite.nearest false number 1 := by
  have positive : decide ((number : Int) < 0) = false :=
    decide_eq_false (Int.not_lt.mpr (Int.natCast_nonneg number))
  rw [positive, Int.natAbs_natCast]

theorem word?_ofJson_nat {bits number : Nat} (within : number < Nat.pow 2 bits)
    (narrow : bits ≤ 64) :
    SettingValue.word? (Nat.pow 2 bits) (SettingValue.ofJson (.nat number)) =
      some (loadedWord number) := by
  rw [Json.nat, SettingValue.ofJson_integer, isInteger_natCast, nearest_natCast]
  unfold loadedWord
  by_cases small : number < Nat.pow 2 63
  · rw [if_pos (decide_eq_true small), if_pos small, word?_integer, if_pos within]
  · have wide : bits = 64 := by
      have more : Nat.pow 2 63 < Nat.pow 2 bits :=
        Nat.lt_of_le_of_lt (Nat.le_of_not_lt small) within
      have longer := (Nat.pow_lt_pow_iff_right (by decide : 1 < 2)).mp more
      omega
    rw [if_neg (ne_true_of_eq_false (decide_eq_false small)), if_neg small, wide, word?_real,
      if_pos (roundedWord_lt _)]

theorem single?_ofJson_integer (whole : Int) :
    SettingValue.single? (SettingValue.ofJson (.number (.integer whole))) =
      some ((Finite.nearest (whole < 0) whole.natAbs 1 : Scalar double).convert single) := by
  rw [SettingValue.ofJson_integer]
  split
  · unfold SettingValue.single? SettingValue.real?
    rw [Option.map_some]
  · unfold SettingValue.single? SettingValue.real?
    rw [Option.map_some]

theorem single?_ofJson_double (number : Double) :
    SettingValue.single? (SettingValue.ofJson (.number (.double number))) =
      some (number.convert single) := by
  rw [SettingValue.ofJson]
  unfold SettingValue.single? SettingValue.real?
  rw [Option.map_some, Scalar.convert]

theorem HeaderSetting.Written.ofSection?_eq {header : HeaderSetting}
    (written : HeaderSetting.Written value header) :
    HeaderSetting.ofSection? (SettingValue.ofJson value) = some header := by
  cases written <;> rfl

theorem HeaderSetting.list?_eq {items : List Json} {headers : List HeaderSetting}
    (each : List.Forall₂ HeaderSetting.Written items headers) :
    SettingValue.list? HeaderSetting.ofSection? (SettingValue.ofJson (.array items)) =
      some headers := by
  rw [SettingValue.ofJson, SettingValue.list?]
  induction each with
  | nil => rfl
  | cons first _ rest =>
      rw [SettingValue.ofItems, List.mapM_cons, first.ofSection?_eq, rest]
      rfl

theorem SettingKind.convert_word (bits : Nat) (value : SettingValue) :
    (SettingKind.word bits).convert value = value.word? (Nat.pow 2 bits) := rfl

theorem SettingKind.loaded_word (bits : Nat) : (SettingKind.word bits).loaded = loadedWord := rfl

theorem SettingKind.convert_single (value : SettingValue) :
    SettingKind.single.convert value = value.single? := rfl

theorem SettingKind.agrees_single {found taken : Single}
    (same : found = taken ∨ found.isProportion = false ∧ taken.isProportion = false) :
    SettingKind.single.Agrees found taken := same

/-- What a setting takes from a value that is written in a file. -/
theorem SettingKind.Written.convert_eq (written : kind.Written value taken)
    (narrow : kind.IsNarrow) :
    ∃ found, kind.convert (SettingValue.ofJson value) = some found ∧ kind.Agrees found taken := by
  cases written with
  | word within =>
      exact ⟨_, (SettingKind.convert_word _ _).trans (word?_ofJson_nat within narrow),
        .inl (congrFun (SettingKind.loaded_word _).symm _)⟩
  | whole whole =>
      exact ⟨_, (SettingKind.convert_single _).trans (single?_ofJson_integer whole),
        SettingKind.agrees_single (convert_nearest_whole whole)⟩
  | fraction number =>
      exact ⟨_, (SettingKind.convert_single _).trans (single?_ofJson_double number),
        SettingKind.agrees_single (.inl rfl)⟩
  | headers each => exact ⟨_, HeaderSetting.list?_eq each, .inl rfl⟩
  | text | truth | missing | given => exact ⟨_, rfl, .inl rfl⟩

end Conversion

theorem SettingKey.isNarrow (key : SettingKey α) : key.kind.IsNarrow := by
  cases key <;> simp [SettingKey.kind, SettingKind.IsNarrow]

theorem SettingKind.loaded_of_isShort {kind : SettingKind α} {value : α}
    (short : kind.IsShort value) : kind.loaded value = value := by
  cases kind with
  | word bits => exact loadedWord_of_lt short
  | _ => rfl

theorem SettingKey.isShort_default (key : SettingKey α) : key.kind.IsShort key.default := by
  cases key with
  | port | requestTimeout | maxQueryLength | backendTimeout | schemaTtl | maxTokens
  | connectAttempts | connectBackoff | graphTimeout =>
      change _ < _
      decide
  | _ => trivial

/-- The settings that a file gives for those that are written in it. -/
def Settings.loaded (settings : Settings) : Settings :=
  Settings.ofKeys fun key => key.kind.loaded (key.of settings)

namespace Settings

variable {first second settings : Settings}

theorem loaded_eq (short : ∀ {α : Type} (key : SettingKey α), key.kind.IsShort (key.of settings)) :
    settings.loaded = settings := by
  refine Settings.ext_keys fun key => ?_
  rw [loaded, SettingKey.of_ofKeys]
  exact SettingKind.loaded_of_isShort (short key)

theorem isProportion_of_fault? (sound : settings.fault? = none) :
    settings.completion.temperature.isProportion = true ∧
      settings.completion.topP.isProportion = true := by
  unfold fault? at sound
  split at sound
  · cases sound
  split at sound
  · cases sound
  split at sound
  · cases sound
  next temperature =>
  split at sound
  · cases sound
  next topP =>
  exact ⟨by simpa using temperature, by simpa using topP⟩

/-- Settings that agree are refused for the same reason, if they are. -/
theorem validated_of_agrees (agrees : ∀ {α : Type} (key : SettingKey α),
    key.kind.Agrees (key.of first) (key.of second)) :
    first.validated = second.validated.map loaded := by
  have exact {α : Type} (key : SettingKey α) (kept : ¬key.kind.Refuses (key.of second)) :
      key.of first = key.kind.loaded (key.of second) :=
    (agrees key).resolve_right fun both => kept both.2
  have proportion {found taken : Single} (same : SettingKind.single.Agrees found taken) :
      found.isProportion = taken.isProportion := by
    rcases same with rfl | ⟨refused, both⟩
    · rfl
    · exact Eq.trans refused (Eq.symm both)
  have port : first.server.port = loadedWord second.server.port := exact .port id
  have address : first.backend.address = second.backend.address := exact .backendAddress id
  have temperature := proportion (agrees .temperature)
  have topP := proportion (agrees .topP)
  have enabled : first.graph.enabled = second.graph.enabled := exact .graphEnabled id
  have timeout : first.graph.timeout = loadedWord second.graph.timeout := exact .graphTimeout id
  have fault : first.fault? = second.fault? := by
    change first.completion.temperature.isProportion = second.completion.temperature.isProportion
      at temperature
    change first.completion.topP.isProportion = second.completion.topP.isProportion at topP
    unfold fault?
    simp only [port, address, temperature, topP, enabled, timeout, loadedWord_eq_zero_iff]
  unfold validated
  rw [fault]
  cases sound : second.fault? with
  | some kind => rfl
  | none =>
      obtain ⟨sane, few⟩ := isProportion_of_fault? sound
      refine congrArg Except.ok (Settings.ext_keys fun key => ?_)
      rw [loaded, SettingKey.of_ofKeys]
      refine exact key fun refused => ?_
      cases key with
      | temperature => exact Bool.false_ne_true (Eq.trans (Eq.symm refused) sane)
      | topP => exact Bool.false_ne_true (Eq.trans (Eq.symm refused) few)
      | _ => exact refused

end Settings

section Traced

/-- Values for the host and for the headers, and for nothing else. -/
def PartialSettings.traced : PartialSettings where
  of? key := match key with
    | .host => some "127.0.0.1"
    | .headers => some [⟨"x-trace", "on"⟩]
    | _ => none

/-- The members of the section of the headers, with the value of the header in front. -/
def tracedHeaders : List (String × Json) :=
  [("custom_headers", .array [.object [("value", .string "on"), ("key", .string "x-trace")]])]

/-- A document in which these values are written. -/
def tracedMembers : List (String × Json) :=
  [("server", .object [("host", .string "127.0.0.1")]), ("llm", .object tracedHeaders)]

theorem isWrittenIn_server_traced :
    PartialSettings.traced.IsWrittenIn "server" [("host", .string "127.0.0.1")] where
  distinct := by decide
  known field mem := by
    obtain rfl := List.mem_singleton.mp mem
    exact ⟨String, .host, rfl, rfl⟩
  each key here := by
    cases key <;> simp [SettingKey.group] at here
    · exact .some (.text "127.0.0.1")
    all_goals exact .none

theorem isWrittenIn_llm_traced : PartialSettings.traced.IsWrittenIn "llm" tracedHeaders where
  distinct := by decide
  known field mem := by
    obtain rfl := List.mem_singleton.mp mem
    exact ⟨List HeaderSetting, .headers, rfl, rfl⟩
  each key here := by
    cases key <;> simp [SettingKey.group] at here
    case headers => exact .some (.headers (.cons (.valueFirst ⟨"x-trace", "on"⟩) .nil))
    all_goals exact .none

theorem isWritten_traced : PartialSettings.traced.IsWritten tracedMembers where
  distinct := by decide
  sections := List.forall_mem_cons.mpr
    ⟨⟨by decide, _, rfl, isWrittenIn_server_traced⟩,
      List.forall_mem_singleton.mpr ⟨by decide, _, rfl, isWrittenIn_llm_traced⟩⟩
  absent key none := by cases key <;> first | rfl | cases none

theorem readsAs_traced : Json.ReadsAs (.object tracedMembers) (.object tracedMembers) := by
  have plain {name value : String} : ∀ member ∈ [(name, Json.string value)],
      Json.ReadsAs member.2 member.2 :=
    List.forall_mem_singleton.mpr (Json.readsAs_string value)
  have header : ∀ member ∈ [("value", Json.string "on"), ("key", .string "x-trace")],
      Json.ReadsAs member.2 member.2 :=
    List.forall_mem_cons.mpr ⟨Json.readsAs_string "on", plain⟩
  have headers : ∀ member ∈ tracedHeaders, Json.ReadsAs member.2 member.2 :=
    List.forall_mem_singleton.mpr
      (Json.readsAs_array_self (List.forall_mem_singleton.mpr (Json.readsAs_object_self header)))
  exact Json.readsAs_object_self (List.forall_mem_cons.mpr
    ⟨Json.readsAs_object_self plain,
      List.forall_mem_singleton.mpr (Json.readsAs_object_self headers)⟩)

theorem writes_traced :
    SettingsFile.Writes tracedMembers
      ⟨"prom.json", some (Json.object tracedMembers).text⟩ := by
  have unmarked :
      withoutOrderMark (Json.object tracedMembers).text = (Json.object tracedMembers).text := by
    decide +kernel
  refine .text (by decide +kernel) ?_
  rw [unmarked]
  exact readsAs_traced.readDocument_text

end Traced

section Files

variable {given : PartialSettings} {members : List (String × Json)} {file : SettingsFile}

theorem ranked?_nil (layer : SettingLayer) (key : SettingKey α) :
    layer.ranked? [] key = layer.given? key := by
  cases key <;> rfl

/-- Where no variables are set, what the settings take from a file are the settings. -/
theorem load_of_takes {layer : SettingLayer} {settings : Settings} (read : file.layer? = some layer)
    (formed : layer.WellFormed)
    (takes : ∀ {α : Type} (key : SettingKey α), key.Takes (layer.given? key) (key.of settings)) :
    Settings.load (some file) [] = settings.validated := by
  have none : Environment.NamesScalars [] := fun _ mem => absurd mem List.not_mem_nil
  have made : Settings.ofTable? (layer.stacked []) = some settings := by
    refine (SettingLayer.ofTable?_stacked_eq_some_iff formed none).mpr fun key => ?_
    rw [ranked?_nil]
    exact takes key
  have there : (some file).elim (some []) SettingsFile.layer? = some layer := read
  rw [Settings.load_eq_ofLayers there, Settings.ofLayers, made]

/-- What a setting takes from a file agrees with what it is in the document. -/
theorem exists_takes {value? : Option SettingValue} {written? : Option Json} (key : SettingKey α)
    (held : value? = written?.map SettingValue.ofJson)
    (fits : Option.Rel key.kind.Written written? (given.of? key)) :
    ∃ found, key.Takes value? found ∧ key.kind.Agrees found (key.of given.settings) := by
  rw [PartialSettings.settings, SettingKey.of_ofKeys, held]
  generalize given.of? key = taken? at fits
  cases fits with
  | none => exact ⟨key.default, rfl, .inl (SettingKind.loaded_of_isShort key.isShort_default).symm⟩
  | some written => exact written.convert_eq key.isNarrow

/-- A document in which values are written is taken for these and the defaults. A file with its
content is refused just if these settings are, and for the same reason; else it gives the same
settings, but for counts of more than sixty-three bits. -/
theorem load_written (written : given.IsWritten members) (writes : file.Writes members) :
    Settings.decode (Document.ofJson (.object members)) = .ok given.settings ∧
      Settings.load (some file) [] = given.settings.validated.map Settings.loaded ∧
      ((∀ {α : Type} (key : SettingKey α), key.kind.IsShort (key.of given.settings)) →
        given.settings.loaded = given.settings) := by
  refine ⟨written.decode_eq, ?_, Settings.loaded_eq⟩
  obtain ⟨layer, read, formed, each⟩ := written.exists_layer writes
  have taken (α : Type) (key : SettingKey α) : ∃ found, key.Takes (layer.given? key) found ∧
      key.kind.Agrees found (key.of given.settings) := by
    obtain ⟨written?, held, fits⟩ := each key
    exact exists_takes key held fits
  choose found takes agrees using taken
  let settings := Settings.ofKeys fun {α} key => found α key
  have values {α : Type} (key : SettingKey α) : key.of settings = found α key :=
    SettingKey.of_ofKeys _ key
  have loaded : Settings.load (some file) [] = settings.validated :=
    load_of_takes read formed fun key => values key ▸ takes _ key
  rw [loaded]
  exact Settings.validated_of_agrees fun key => values key ▸ agrees _ key

end Files

/-- A host and a header with its value in front are the only settings in the file. -/
theorem load_written_headers :
    ∃ members settings, members = [("server", Json.object [("host", .string "127.0.0.1")]),
        ("llm", .object [("custom_headers", .array
          [.object [("value", .string "on"), ("key", .string "x-trace")]])])] ∧
      settings = { server := { host := "127.0.0.1" }
                   completion := { headers := [⟨"x-trace", "on"⟩] } } ∧
      Settings.decode (Document.ofJson (.object members)) = .ok settings ∧
      Settings.load (some ⟨"prom.json", some (Json.object members).text⟩) [] = .ok settings := by
  obtain ⟨decoded, loaded, exact⟩ := load_written isWritten_traced writes_traced
  have sound : PartialSettings.traced.settings.fault? = none := by decide +kernel
  have short {α : Type} (key : SettingKey α) :
      key.kind.IsShort (key.of PartialSettings.traced.settings) := by
    cases key with
    | host | headers => trivial
    | _ => exact SettingKey.isShort_default _
  rw [Settings.validated, sound, Except.map, exact short] at loaded
  exact ⟨tracedMembers, PartialSettings.traced.settings, rfl, rfl, decoded, loaded⟩

/-- A count of sixty-four bits loses its last digits in a file, and only there. -/
theorem exists_rounded_count :
    (Json.decode Settings.decode
        "\x7b\"server\": \x7b\"request_timeout_seconds\": 9223372036854775809\x7d\x7d").toOption.map
          (·.server.requestTimeout) = some 9223372036854775809 ∧
      (Settings.load (some ⟨"prom.json", some
        "\x7b\"server\": \x7b\"request_timeout_seconds\": 9223372036854775809\x7d\x7d"⟩)
          []).toOption.map
          (·.server.requestTimeout) = some 9223372036854775808 := by
  decide +kernel

end PromScribe

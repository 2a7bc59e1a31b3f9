import PromScribe.Json.Decode
import PromScribe.Proofs.Json.Reading
import PromScribe.Proofs.Json.Rendered
import PromScribe.Proofs.Keyed

/-!
# Decoding written values

The document of a value means that value, if it is not nested too deep and the members of its
objects stand in the order of their keys. What decoders take from such documents is said below: a
record is taken from an object whose keys are distinct names of its fields, if each of their values
has the shape of its field.
-/

namespace PromScribe

open Document

section Meaning

variable {room : Nat} {items : List Json} {members : List (String × Json)} {value : Json}

/-- The value has at most `room` nested containers, and objects are in the order of their keys. -/
inductive Json.IsOrdered : Nat → Json → Prop where
  | null {room : Nat} : IsOrdered room .null
  | bool {room : Nat} (value : Bool) : IsOrdered room (.bool value)
  | number {room : Nat} (value : JsonNumber) : IsOrdered room (.number value)
  | string {room : Nat} (value : String) : IsOrdered room (.string value)
  | array {room : Nat} {items : List Json} (each : ∀ item ∈ items, IsOrdered room item) :
      IsOrdered (room + 1) (.array items)
  | object {room : Nat} {members : List (String × Json)}
      (ascending : members.Pairwise fun first second => first.1 < second.1)
      (each : ∀ member ∈ members, IsOrdered room member.2) :
      IsOrdered (room + 1) (.object members)

namespace Document

theorem itemMeanings?_ofItems
    (each : ∀ item ∈ items, (ofJson item).meaning? room = some item) :
    itemMeanings? room (ofItems items) = some items := by
  induction items with
  | nil => rfl
  | cons item items ih =>
      have rest := ih fun other mem => each other (List.mem_cons_of_mem item mem)
      rw [ofItems, itemMeanings?, each item List.mem_cons_self, rest]
      rfl

theorem memberMeanings?_ofMembers
    (each : ∀ member ∈ members, (ofJson member.2).meaning? room = some member.2) :
    memberMeanings? room (ofMembers members) = some members := by
  induction members with
  | nil => rfl
  | cons member members ih =>
      have rest := ih fun other mem => each other (List.mem_cons_of_mem member mem)
      rw [ofMembers, memberMeanings?, each member List.mem_cons_self, rest]
      rfl

theorem meaning?_ofJson (ordered : value.IsOrdered room) :
    (ofJson value).meaning? room = some value := by
  induction ordered with
  | null => rfl
  | bool value => rfl
  | number value => rfl
  | string value => rfl
  | array each ih =>
      rw [ofJson, meaning?, if_pos rfl, itemMeanings?_ofItems ih]
      rfl
  | object ascending each ih =>
      rw [ofJson, meaning?, if_pos rfl, memberMeanings?_ofMembers ih, Option.map_some,
        Keyed.entries_ofList_of_ascending ascending]

theorem exists_memberMeanings (property : String → Json → Prop)
    (each : ∀ member ∈ members, ∃ meant, (ofJson member.2).meaning? room = some meant ∧
      property member.1 meant) :
    ∃ found, memberMeanings? room (ofMembers members) = some found ∧
      found.map Prod.fst = members.map Prod.fst ∧
      ∀ member ∈ found, property member.1 member.2 := by
  induction members with
  | nil => exact ⟨[], rfl, rfl, nofun⟩
  | cons member members ih =>
      obtain ⟨meant, means, holds⟩ := each member List.mem_cons_self
      obtain ⟨found, read, names, all⟩ := ih fun other mem => each other (List.mem_cons_of_mem _ mem)
      refine ⟨(member.1, meant) :: found, ?_, ?_, ?_⟩
      · rw [ofMembers, memberMeanings?, means, read]
        rfl
      · rw [List.map_cons, List.map_cons, names]
      · exact List.forall_mem_cons.mpr ⟨holds, all⟩

/-- An object with distinct keys means an object of the meanings of its members. -/
theorem exists_meaning_object (property : String → Json → Prop)
    (distinct : (members.map Prod.fst).Nodup)
    (each : ∀ member ∈ members, ∃ meant, (ofJson member.2).meaning? room = some meant ∧
      property member.1 meant) :
    ∃ meant, (ofJson (.object members)).meaning? (room + 1) = some (.object meant) ∧
      (meant.map Prod.fst).Nodup ∧
      (∀ name, meant.lookup name = none ↔ members.lookup name = none) ∧
      ∀ member ∈ meant, property member.1 member.2 := by
  obtain ⟨found, read, names, all⟩ := exists_memberMeanings property each
  have apart : (found.map Prod.fst).Nodup := names ▸ distinct
  refine ⟨(Keyed.ofList found).entries, ?_, ?_, fun name => ?_, fun member mem => ?_⟩
  · rw [ofJson, meaning?, if_pos rfl, read]
    rfl
  · exact (Keyed.ofList found).nodup_keys
  · rw [← Keyed.lookup_eq_none_iff_of_keys names, ← Keyed.get?_ofList_of_distinct apart]
    rfl
  · have held : (Keyed.ofList found).get? member.1 = some member.2 := Keyed.get?_eq_some_iff.mpr mem
    rw [Keyed.get?_ofList_of_distinct apart] at held
    obtain ⟨front, back, rfl, -⟩ := List.lookup_eq_some_iff.mp held
    exact all member (by simp)

end Document

end Meaning

section Outcomes

variable {ε ε' α β : Type}

theorem bind_eq_ok_iff {outcome : Except ε α} {next : α → Except ε β} {value : β} :
    (outcome >>= next) = .ok value ↔ ∃ found, outcome = .ok found ∧ next found = .ok value := by
  cases outcome with
  | ok found =>
      constructor
      · exact fun goesOn => ⟨found, rfl, goesOn⟩
      · rintro ⟨_, ⟨⟩, goesOn⟩
        exact goesOn
  | error cause => exact iff_of_false nofun nofun

theorem mapError_eq_ok_iff {outcome : Except ε α} {failure : ε → ε'} {value : α} :
    outcome.mapError failure = .ok value ↔ outcome = .ok value := by
  cases outcome with
  | ok found => simp [Except.mapError]
  | error cause => exact iff_of_false nofun nofun

theorem map_eq_ok_iff {outcome : Except ε α} {next : α → β} {value : β} :
    outcome.map next = .ok value ↔ ∃ found, outcome = .ok found ∧ next found = value := by
  cases outcome with
  | ok found => simp [Except.map]
  | error cause => exact iff_of_false nofun nofun

end Outcomes

variable {α : Type} {decoder : Decoder α}

theorem Json.ReadsAs.readDocument_text {value other : Json} (reads : value.ReadsAs other) :
    Json.readDocument value.text.toList = (ofJson other, true) := by
  rw [Json.text, String.toList_ofList]
  exact Json.readDocument_of_writes reads.unspaced

/-- What is decoded from the compact form of a value is decoded from what the value is read as. -/
theorem Json.ReadsAs.decode_text {value other : Json} (reads : value.ReadsAs other) :
    Json.decode decoder value.text = decoder (ofJson other) := by
  unfold Json.decode
  rw [reads.readDocument_text]
  dsimp only
  cases decoder (ofJson other) <;> rfl

namespace Decoder

theorem list_eq {written : α → Json} {items : List α}
    (each : ∀ item ∈ items, decoder (ofJson (written item)) = .ok item) :
    list decoder (ofJson (.array (items.map written))) = .ok items := by
  have taken : (ofItems (items.map written)).mapM decoder = .ok items := by
    induction items with
    | nil => rfl
    | cons item items ih =>
        have rest := ih fun other mem => each other (List.mem_cons_of_mem item mem)
        rw [List.map_cons, ofItems, List.mapM_cons, each item List.mem_cons_self, rest]
        rfl
  rw [ofJson, list, taken]
  rfl

theorem list_strings (texts : List String) :
    list string (ofJson (.strings texts)) = .ok texts :=
  list_eq fun _ _ => rfl

theorem members_eq {written : α → Json} {entries : List (String × α)}
    (each : ∀ entry ∈ entries, decoder (ofJson (written entry.2)) = .ok entry.2) :
    members decoder (ofJson (.object (entries.map fun entry => (entry.1, written entry.2)))) =
      .ok entries := by
  induction entries with
  | nil => rfl
  | cons entry entries ih =>
      have rest := ih fun other mem => each other (List.mem_cons_of_mem entry mem)
      have first := each entry List.mem_cons_self
      rw [ofJson, members] at rest ⊢
      rw [List.map_cons, ofMembers, List.mapM_cons]
      dsimp only at rest ⊢
      rw [first]
      generalize (List.mapM _ (ofMembers (entries.map _)) :
        Except Json.Fault (List (String × α))) = taken at rest ⊢
      cases taken with
      | error fault => cases rest
      | ok values =>
          obtain rfl : values = entries := Except.ok.inj rest
          rfl

theorem keyed_eq {written : α → Json} {map : Keyed α}
    (each : ∀ value ∈ map.values, decoder (ofJson (written value)) = .ok value) :
    keyed decoder (ofJson (Json.keyed written map)) = .ok map := by
  rw [keyed, Json.keyed, members_eq fun entry mem => each entry.2 (List.mem_map_of_mem mem)]
  exact congrArg Except.ok map.ofList_entries

end Decoder

/-- The value fits the field; none does where the field may be left out. -/
def Field.Fits (field : Field) : Option Json → Prop
  | some value => field.fault? (ofJson value) = none
  | none => field.need ≠ .required

/-- What was written is taken as a value; where nothing was written the default is the value. -/
def Shows (decoder : Decoder α) (default taken : α) : Option Json → Prop
  | some value => decoder (ofJson value) = .ok taken
  | none => default = taken

theorem shows_unless {left : Prop} [Decidable left] {default taken : α} {value : Json}
    (same : left → default = taken) (read : decoder (ofJson value) = .ok taken) :
    Shows decoder default taken (if left then none else some value) := by
  split
  · next left => exact same left
  · exact read

namespace Field

variable {name : String} {need : FieldNeed} {default taken : α}

theorem fits_of {value : Json} (read : decoder (ofJson value) = .ok taken) :
    (Field.of name need decoder).Fits (some value) := by
  rw [Fits, Field.of]
  dsimp only
  rw [read]

theorem fits_of_shows {value? : Option Json} (free : need ≠ .required)
    (shown : Shows decoder default taken value?) : (Field.of name need decoder).Fits value? := by
  cases value? with
  | none => exact free
  | some value => exact fits_of shown

end Field

namespace Record

variable {fields : List Field} {members : List (String × Json)} {record : Record}
variable {name : String} {value : Json}

theorem ofMembers_eq (found : Record) (distinct : (members.map Prod.fst).Nodup)
    (fresh : ∀ member ∈ members, found.lookup member.1 = none)
    (fit : ∀ member ∈ members, ∃ field, fields.find? (fun field => field.name == member.1) =
      some field ∧ field.Fits (some member.2)) :
    ∃ record, ofMembers fields found (Document.ofMembers members) = .ok record ∧
      ∀ name, record.lookup name = ((members.lookup name).map ofJson).or (found.lookup name) := by
  induction members generalizing found with
  | nil => exact ⟨found, rfl, fun name => rfl⟩
  | cons member members ih =>
      obtain ⟨key, value⟩ := member
      obtain ⟨apart, others⟩ := List.nodup_cons.mp distinct
      obtain ⟨field, known, fits⟩ := fit _ List.mem_cons_self
      have shaped : field.fault? (ofJson value) = none := fits
      have unfound : found.lookup key = none := fresh _ List.mem_cons_self
      have missing {name : String} {member : String × Json} (mem : member ∈ members)
          (here : name = key) : name ≠ member.1 := fun same =>
        apart (List.mem_map.mpr ⟨member, mem, same.symm.trans here⟩)
      obtain ⟨record, taken, held⟩ := ih ((key, ofJson value) :: found) others
        (fun member mem => by
          rw [Keyed.lookup_cons_eq_ite, if_neg fun same => missing mem same rfl]
          exact fresh member (List.mem_cons_of_mem _ mem))
        fun member mem => fit member (List.mem_cons_of_mem _ mem)
      refine ⟨record, ?_, fun name => ?_⟩
      · rw [Document.ofMembers, ofMembers]
        simp only [known, unfound, shaped]
        exact taken
      · rw [held, Keyed.lookup_cons_eq_ite, Keyed.lookup_cons_eq_ite]
        split
        · next same =>
            have last : members.lookup name = none := List.lookup_eq_none_iff.mpr
              fun member mem => bne_iff_ne.mpr (missing mem same)
            rw [last]
            rfl
        · rfl

/-- Members under distinct names of fields, each of which fits its field, are a record if no field
that must be written is left out. -/
theorem exists_record_of_distinct (fields : List Field) (members : List (String × Json))
    (distinct : (members.map Prod.fst).Nodup)
    (within : members.map Prod.fst ⊆ fields.map Field.name)
    (each : ∀ field ∈ fields, field.Fits (members.lookup field.name)) :
    ∃ record, ofDocument fields (ofJson (.object members)) = .ok record ∧
      ∀ name, record.lookup name = (members.lookup name).map ofJson := by
  have fit : ∀ member ∈ members, ∃ field, fields.find? (fun field => field.name == member.1) =
      some field ∧ field.Fits (some member.2) := by
    intro member mem
    obtain ⟨field, known, named⟩ := List.mem_map.mp (within (List.mem_map_of_mem mem))
    cases first : fields.find? fun field => field.name == member.1 with
    | none => exact absurd (beq_iff_eq.mpr named) (List.find?_eq_none.mp first field known)
    | some other =>
        have chosen := List.find?_some first
        have same : other.name = member.1 := beq_iff_eq.mp chosen
        have fits := each other (List.mem_of_find?_eq_some first)
        rw [same, Keyed.lookup_of_mem distinct mem] at fits
        exact ⟨other, rfl, fits⟩
  obtain ⟨record, taken, held⟩ := ofMembers_eq [] distinct (fun _ _ => rfl) fit
  have held (name : String) : record.lookup name = (members.lookup name).map ofJson := by
    rw [held, List.lookup_nil, Option.or_none]
  refine ⟨record, ?_, held⟩
  have complete : (fields.any fun field =>
      decide (field.need = .required) && (record.lookup field.name).isNone) = false := by
    refine List.any_eq_false.mpr fun field mem missing => ?_
    simp only [Bool.and_eq_true, decide_eq_true_eq, held, Option.isNone_map,
      Option.isNone_iff_eq_none] at missing
    have fits := each field mem
    rw [missing.2] at fits
    exact fits missing.1
  rw [ofJson, ofDocument, taken]
  exact if_neg (ne_true_of_eq_false complete)

/-- Members in the order of the fields are distinct where the fields are. -/
theorem exists_record (fields : List Field) (members : List (String × Json))
    (names : (fields.map Field.name).Nodup)
    (within : (members.map Prod.fst).Sublist (fields.map Field.name))
    (each : ∀ field ∈ fields, field.Fits (members.lookup field.name)) :
    ∃ record, ofDocument fields (ofJson (.object members)) = .ok record ∧
      ∀ name, record.lookup name = (members.lookup name).map ofJson :=
  exists_record_of_distinct fields members (names.sublist within) within.subset each

theorem get_eq {taken : α} (held : ∀ name, record.lookup name = (members.lookup name).map ofJson)
    (there : members.lookup name = some value) (read : decoder (ofJson value) = .ok taken) :
    record.get name decoder = .ok taken := by
  rw [get, held, there]
  exact read

theorem getD_eq {default taken : α}
    (held : ∀ name, record.lookup name = (members.lookup name).map ofJson)
    (shown : Shows decoder default taken (members.lookup name)) :
    record.getD name decoder default = .ok taken := by
  rw [getD, held]
  cases found : members.lookup name with
  | none =>
      rw [found] at shown
      exact congrArg Except.ok shown
  | some value =>
      rw [found] at shown
      exact shown

end Record

end PromScribe

import PromScribe.Proofs.Keyed
import PromScribe.Settings.Source

/-!
# Keys under layers

What a key of a section holds after layers were laid over each other: the last value whose path
leads to it. A path that leads elsewhere leaves the key as it is.
-/

namespace PromScribe

namespace SettingValue

variable {table below value : SettingValue} {group key name other : String}
variable {found : List (String × SettingValue)} {path : List Step}

/-- The value of a key in a section of the table. -/
def at? (table : SettingValue) (group key : String) : Option SettingValue :=
  (table.entries.lookup group).bind fun settings => settings.entries.lookup key

/-- The entries of a section are found by their names. -/
theorem keyD_of_lookup {α : Type} {place : Nat} {convert : SettingValue → Option α} {default : α}
    (found : table.entries.lookup name = some value) :
    table.keyD place name convert default = convert value := by
  cases table with
  | table entries =>
      have held : (SettingValue.table entries).key? place name = some value := found
      rw [keyD, held]
  | _ => cases found

/-- The path leads neither to the key of the section nor to anything around or within it. -/
def leadsElsewhere (group key : String) : List Step → Bool
  | .entry first :: .entry second :: _ => group ≠ first || key ≠ second
  | .entry first :: _ => group ≠ first
  | _ => false

theorem lookup_putEntry (name other : String) (value : SettingValue)
    (found : List (String × SettingValue)) :
    (putEntry name value found).lookup other =
      if other = name then some value else found.lookup other := by
  induction found with
  | nil => exact Keyed.lookup_cons_eq_ite name other value []
  | cons head rest ih =>
      obtain ⟨first, kept⟩ := head
      unfold putEntry
      split
      · next same =>
          subst same
          rw [Keyed.lookup_cons_eq_ite, Keyed.lookup_cons_eq_ite]
          split <;> rfl
      · next different =>
          rw [Keyed.lookup_cons_eq_ite, Keyed.lookup_cons_eq_ite, ih]
          split
          · next here => rw [if_neg fun same => different (here.symm.trans same)]
          · rfl

theorem lookup_put : (table.put name value).entries.lookup other =
    if other = name then some value else table.entries.lookup other :=
  lookup_putEntry name other value table.entries

/-- What a section holds under a key is in the section's entry, an empty one if it is missing. -/
theorem at?_eq_entry : table.at? group key = (table.entry group).entries.lookup key := by
  unfold at? entry
  cases table.entries.lookup group <;> rfl

theorem at?_put (name : String) : (table.put name value).at? group key =
    if group = name then value.entries.lookup key else table.at? group key := by
  unfold at?
  rw [lookup_put]
  split <;> rfl

/-- The value is laid over others as a whole. -/
def isPlain : SettingValue → Bool
  | .table _ => false
  | _ => true

theorem covered_of_isPlain (plain : value.isPlain = true) : covered below value = value := by
  cases value with
  | table entries => cases plain
  | _ => rfl

theorem isPlain_ofVariable (text : String) : (ofVariable text).isPlain = true := by
  unfold ofVariable
  dsimp only
  split
  · rfl
  · split
    · rfl
    · split
      · rfl
      · split <;> rfl

theorem at?_coveredAt (plain : value.isPlain = true) :
    (below.coveredAt value [.entry group, .entry key]).at? group key = some value := by
  rw [coveredAt, at?_put, if_pos rfl, coveredAt, lookup_put, if_pos rfl, coveredAt,
    covered_of_isPlain plain]

theorem at?_coveredAt_elsewhere (elsewhere : leadsElsewhere group key path = true) :
    (below.coveredAt value path).at? group key = below.at? group key := by
  unfold leadsElsewhere at elsewhere
  split at elsewhere
  · next first second rest =>
      rw [coveredAt, at?_put]
      split
      · next same =>
          subst same
          have apart : key ≠ second := by simpa using elsewhere
          rw [coveredAt, lookup_put, if_neg apart, at?_eq_entry]
      · rfl
  · next first rest _ =>
      have apart : group ≠ first := by simpa using elsewhere
      rw [coveredAt, at?_put, if_neg apart]
  · cases elsewhere

end SettingValue

namespace SettingLayer

open SettingValue

variable {below value : SettingValue} {group key name : String} {layer front back : SettingLayer}

theorem layOver_append : layOver below (front ++ back) = layOver (layOver below front) back :=
  List.foldl_append

/-- Layers of values for other settings leave a key as it is. -/
theorem at?_layOver_elsewhere
    (elsewhere : ∀ entry ∈ layer, leadsElsewhere group key (pathOf entry.1) = true) :
    (layOver below layer).at? group key = below.at? group key := by
  induction layer generalizing below with
  | nil => rfl
  | cons entry layer ih =>
      have first := elsewhere entry List.mem_cons_self
      have rest : (layOver (below.coveredAt entry.2 (pathOf entry.1)) layer).at? group key = _ :=
        ih fun other mem => elsewhere other (List.mem_cons_of_mem entry mem)
      exact rest.trans (at?_coveredAt_elsewhere first)

/-- The last value of a layer that is for a key is what the key holds. -/
theorem at?_layOver_last (plain : value.isPlain = true)
    (leads : pathOf name = [.entry group, .entry key])
    (elsewhere : ∀ entry ∈ back, leadsElsewhere group key (pathOf entry.1) = true) :
    (layOver below (front ++ (name, value) :: back)).at? group key = some value := by
  have here : ((layOver below front).coveredAt value (pathOf name)).at? group key = some value := by
    rw [leads]
    exact at?_coveredAt plain
  rw [layOver_append]
  exact (at?_layOver_elsewhere elsewhere).trans here

end SettingLayer

end PromScribe

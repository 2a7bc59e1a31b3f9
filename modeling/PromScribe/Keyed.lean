/-!
# Keyed values

Values under string keys, each key once, in ascending order of the keys.
-/

namespace PromScribe

/-- Values under distinct keys in ascending order. -/
structure Keyed (α : Type) where
  entries : List (String × α)
  ascending : entries.Pairwise fun first second => first.1 < second.1

namespace Keyed

variable {α β : Type}

/-- The entries with the value put under its key, in place of an earlier one. -/
def insertEntry (key : String) (value : α) : List (String × α) → List (String × α)
  | [] => [(key, value)]
  | (other, kept) :: rest =>
      if key < other then (key, value) :: (other, kept) :: rest
      else if key = other then (key, value) :: rest
      else (other, kept) :: insertEntry key value rest

theorem mem_insertEntry {key : String} {value : α} {entries : List (String × α)}
    {entry : String × α} (member : entry ∈ insertEntry key value entries) :
    entry = (key, value) ∨ entry ∈ entries := by
  induction entries with
  | nil => simpa [insertEntry] using member
  | cons head rest ih =>
      obtain ⟨other, kept⟩ := head
      simp only [insertEntry] at member
      split at member
      · simpa using member
      · split at member
        · simp only [List.mem_cons] at member ⊢
          rcases member with here | later
          · exact Or.inl here
          · exact Or.inr (Or.inr later)
        · simp only [List.mem_cons] at member ⊢
          rcases member with here | later
          · exact Or.inr (Or.inl here)
          · rcases ih later with new | old
            · exact Or.inl new
            · exact Or.inr (Or.inr old)

theorem insertEntry_ascending (key : String) (value : α) {entries : List (String × α)}
    (ascending : entries.Pairwise fun first second => first.1 < second.1) :
    (insertEntry key value entries).Pairwise fun first second => first.1 < second.1 := by
  induction entries with
  | nil => simp [insertEntry]
  | cons head rest ih =>
      obtain ⟨other, kept⟩ := head
      obtain ⟨above, tail⟩ := List.pairwise_cons.1 ascending
      simp only [insertEntry]
      split
      · next less =>
          refine List.Pairwise.cons ?_ ascending
          intro entry member
          rcases List.mem_cons.1 member with rfl | later
          · exact less
          · exact String.lt_trans less (above entry later)
      · next notLess =>
          split
          · next same =>
              subst same
              exact List.Pairwise.cons above tail
          · next different =>
              refine List.Pairwise.cons ?_ (ih tail)
              intro entry member
              rcases mem_insertEntry member with rfl | old
              · exact Std.lt_of_le_of_ne (Std.not_lt.1 notLess) (Ne.symm different)
              · exact above entry old

/-- No values. -/
def empty : Keyed α := ⟨[], List.Pairwise.nil⟩

/-- The values with one put under its key, in place of an earlier one. -/
def insert (map : Keyed α) (key : String) (value : α) : Keyed α :=
  ⟨insertEntry key value map.entries, insertEntry_ascending key value map.ascending⟩

/-- The value under a key. -/
def get? (map : Keyed α) (key : String) : Option α :=
  map.entries.lookup key

/-- There is a value under the key. -/
def contains (map : Keyed α) (key : String) : Bool :=
  (map.get? key).isSome

/-- The values with one put under its key unless there is one already. -/
def insertNew (map : Keyed α) (key : String) (value : α) : Keyed α :=
  if map.contains key then map else map.insert key value

/-- The value under a key replaced by a function of it. -/
def update (map : Keyed α) (key : String) (change : Option α → α) : Keyed α :=
  map.insert key (change (map.get? key))

/-- The keys, in ascending order. -/
def keys (map : Keyed α) : List String :=
  map.entries.map (·.1)

/-- The values, in the order of their keys. -/
def values (map : Keyed α) : List α :=
  map.entries.map (·.2)

/-- There are no values. -/
def isEmpty (map : Keyed α) : Bool :=
  map.entries.isEmpty

/-- The last value under each key. -/
def ofList (entries : List (String × α)) : Keyed α :=
  entries.foldl (fun map entry => map.insert entry.1 entry.2) empty

/-- The entries that satisfy a condition on their keys. -/
def filterKeys (map : Keyed α) (keep : String → Bool) : Keyed α :=
  ⟨map.entries.filter fun entry => keep entry.1, map.ascending.filter _⟩

/-- A function of each value. -/
def mapValues (change : α → β) (map : Keyed α) : Keyed β :=
  ⟨map.entries.map fun entry => (entry.1, change entry.2), by
    simpa [List.pairwise_map] using map.ascending⟩

theorem keys_ascending (map : Keyed α) : map.keys.Pairwise (· < ·) := by
  simpa [keys, List.pairwise_map] using map.ascending

theorem ext_entries {left right : Keyed α} (same : left.entries = right.entries) :
    left = right := by
  cases left
  cases right
  cases same
  rfl

instance [DecidableEq α] : DecidableEq (Keyed α) := fun left right =>
  if same : left.entries = right.entries then .isTrue (ext_entries same)
  else .isFalse fun equal => same (by rw [equal])

end Keyed

/-- Labels with their values. -/
abbrev Labels := Keyed String

end PromScribe

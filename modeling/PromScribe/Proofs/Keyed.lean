import Mathlib.Data.List.Nodup
import Mathlib.Data.List.Sort
import PromScribe.Keyed

/-!
# Looking up keyed values

What is found under a key after values were put in: the last one put in place of others, or the
first one where none gives way. Values under distinct keys are all kept, in the order of their keys.
-/

namespace PromScribe.Keyed

variable {α : Type} {key other : String} {value : α} {map : Keyed α}
variable {entries : List (String × α)}

theorem lookup_cons_eq_ite (key other : String) (value : α) (entries : List (String × α)) :
    ((key, value) :: entries).lookup other =
      if other = key then some value else entries.lookup other := by
  rw [List.lookup_cons]
  by_cases here : other = key
  · simp [here]
  · simp [beq_eq_false_iff_ne.mpr here, here]

/-- Under distinct keys every entry is found. -/
theorem lookup_of_mem (distinct : (entries.map Prod.fst).Nodup) (mem : (key, value) ∈ entries) :
    entries.lookup key = some value := by
  obtain ⟨front, back, rfl⟩ := List.append_of_mem mem
  rw [List.map_append, List.map_cons] at distinct
  refine List.lookup_eq_some_iff.mpr ⟨front, back, rfl, fun entry earlier => ?_⟩
  have apart := List.disjoint_of_nodup_append distinct (List.mem_map_of_mem earlier)
  exact bne_iff_ne.mpr fun same => apart (same ▸ List.mem_cons_self)

theorem lookup_filter {keep : String × α → Bool} (kept : ∀ value, keep (key, value) = true)
    (entries : List (String × α)) : (entries.filter keep).lookup key = entries.lookup key := by
  induction entries with
  | nil => rfl
  | cons entry entries ih =>
      obtain ⟨other, value⟩ := entry
      by_cases same : key = other
      · subst same
        rw [List.filter_cons_of_pos (kept value), lookup_cons_eq_ite, lookup_cons_eq_ite, if_pos rfl,
          if_pos rfl]
      · rw [lookup_cons_eq_ite, if_neg same, ← ih, List.filter_cons]
        split
        · rw [lookup_cons_eq_ite, if_neg same]
        · rfl

theorem lookup_insertEntry (key other : String) (value : α) (entries : List (String × α)) :
    (insertEntry key value entries).lookup other =
      if other = key then some value else entries.lookup other := by
  induction entries with
  | nil => exact lookup_cons_eq_ite key other value []
  | cons head rest ih =>
      obtain ⟨first, kept⟩ := head
      unfold insertEntry
      split
      · rw [lookup_cons_eq_ite]
      · split
        · next same =>
            subst same
            by_cases here : other = key
            · simp only [lookup_cons_eq_ite, here, if_true]
            · simp only [lookup_cons_eq_ite, here, if_false]
        · next different =>
            rw [lookup_cons_eq_ite, lookup_cons_eq_ite, ih]
            by_cases atHead : other = first
            · have apart : other ≠ key := fun same => different (same.symm.trans atHead)
              rw [if_pos atHead, if_neg apart, if_pos atHead]
            · rw [if_neg atHead, if_neg atHead]

theorem get?_insert : (map.insert key value).get? other =
    if other = key then some value else map.get? other :=
  lookup_insertEntry key other value map.entries

theorem get?_filterKeys (map : Keyed α) (keep : String → Bool) (key : String) :
    (map.filterKeys keep).get? key = if keep key then map.get? key else none := by
  unfold filterKeys get?
  split
  · next kept => exact lookup_filter (fun _ => kept) map.entries
  · next dropped =>
      rw [List.lookup_eq_none_iff]
      intro entry mem
      obtain ⟨-, kept⟩ := List.mem_filter.mp mem
      refine bne_iff_ne.mpr fun same => dropped ?_
      rwa [same]

/-- Of values put in one after another the last one of a key stands. -/
theorem get?_foldl_insert (entries : List (String × α)) (map : Keyed α) :
    (entries.foldl (fun map entry => map.insert entry.1 entry.2) map).get? key =
      (entries.reverse.lookup key).or (map.get? key) := by
  induction entries generalizing map with
  | nil => rfl
  | cons head rest ih =>
      obtain ⟨first, value⟩ := head
      rw [List.foldl_cons, ih, get?_insert, List.reverse_cons, List.lookup_append, Option.or_assoc,
        lookup_cons_eq_ite]
      by_cases here : key = first
      · simp [here]
      · simp [here]

theorem get?_ofList (entries : List (String × α)) :
    (ofList entries).get? key = entries.reverse.lookup key := by
  unfold ofList
  rw [get?_foldl_insert]
  exact Option.or_none

/-- Of entries under distinct keys it does not matter which one of a key stands. -/
theorem lookup_reverse (distinct : (entries.map Prod.fst).Nodup) :
    entries.reverse.lookup key = entries.lookup key := by
  have turned : (entries.reverse.map Prod.fst).Nodup := by
    rw [List.map_reverse]
    exact List.nodup_reverse.mpr distinct
  cases found : entries.lookup key with
  | none =>
      refine List.lookup_eq_none_iff.mpr fun entry mem => ?_
      exact List.lookup_eq_none_iff.mp found entry (List.mem_reverse.mp mem)
  | some value =>
      obtain ⟨front, back, rfl, -⟩ := List.lookup_eq_some_iff.mp found
      exact lookup_of_mem turned (List.mem_reverse.mpr (by simp))

theorem get?_ofList_of_distinct (distinct : (entries.map Prod.fst).Nodup) :
    (ofList entries).get? key = entries.lookup key :=
  (get?_ofList entries).trans (lookup_reverse distinct)

theorem nodup_keys (map : Keyed α) : (map.entries.map Prod.fst).Nodup := by
  refine List.pairwise_map.mpr (map.ascending.imp fun less same => ?_)
  rw [same] at less
  exact String.lt_irrefl _ less

theorem lookup_eq_none_iff_not_mem : entries.lookup key = none ↔ key ∉ entries.map Prod.fst := by
  simp only [List.lookup_eq_none_iff, bne_iff_ne, List.mem_map, not_exists, not_and]
  exact ⟨fun apart entry mem here => apart entry mem here.symm,
    fun apart entry mem here => apart entry mem here.symm⟩

theorem lookup_eq_none_iff_of_keys {others : List (String × α)}
    (same : entries.map Prod.fst = others.map Prod.fst) :
    entries.lookup key = none ↔ others.lookup key = none := by
  rw [lookup_eq_none_iff_not_mem, lookup_eq_none_iff_not_mem, same]

/-- Entries in the order of their keys. -/
def sortedByKey (entries : List (String × α)) : List (String × α) :=
  entries.mergeSort fun first second => decide (first.1 ≤ second.1)

theorem pairwise_sortedByKey (entries : List (String × α)) :
    (sortedByKey entries).Pairwise fun first second => first.1 ≤ second.1 := by
  have transitive (first second third : String × α) (before : decide (first.1 ≤ second.1) = true)
      (after : decide (second.1 ≤ third.1) = true) : decide (first.1 ≤ third.1) = true :=
    decide_eq_true (String.le_trans (of_decide_eq_true before) (of_decide_eq_true after))
  have total (first second : String × α) :
      (decide (first.1 ≤ second.1) || decide (second.1 ≤ first.1)) = true := by
    simp only [Bool.or_eq_true, decide_eq_true_eq]
    exact String.le_total first.1 second.1
  exact (List.pairwise_mergeSort transitive total entries).imp of_decide_eq_true

/-- A value under a new key is one entry more. -/
theorem perm_insertEntry (fresh : key ∉ entries.map Prod.fst) :
    (insertEntry key value entries).Perm ((key, value) :: entries) := by
  induction entries with
  | nil => exact .refl _
  | cons head rest ih =>
      obtain ⟨other, kept⟩ := head
      simp only [List.map_cons, List.mem_cons, not_or] at fresh
      unfold insertEntry
      rw [if_neg fresh.1]
      split
      · exact .refl _
      · exact ((ih fresh.2).cons (other, kept)).trans (.swap _ _ _)

/-- Values under distinct keys that are put in are all entries. -/
theorem perm_foldl_insert (distinct : (entries.map Prod.fst).Nodup)
    (fresh : ∀ entry ∈ entries, entry.1 ∉ map.entries.map Prod.fst) :
    (entries.foldl (fun map entry => map.insert entry.1 entry.2) map).entries.Perm
      (entries ++ map.entries) := by
  induction entries generalizing map with
  | nil => exact .refl _
  | cons head rest ih =>
      obtain ⟨first, value⟩ := head
      obtain ⟨apart, others⟩ := List.nodup_cons.mp distinct
      have inserted : (map.insert first value).entries.Perm ((first, value) :: map.entries) :=
        perm_insertEntry (fresh _ List.mem_cons_self)
      have later : ∀ entry ∈ rest, entry.1 ∉ (map.insert first value).entries.map Prod.fst := by
        intro entry mem known
        rcases List.mem_cons.mp ((inserted.map Prod.fst).mem_iff.mp known) with same | old
        · exact apart (same ▸ List.mem_map_of_mem mem)
        · exact fresh entry (List.mem_cons_of_mem _ mem) old
      refine (ih others later).trans ?_
      exact (inserted.append_left rest).trans List.perm_middle

/-- Values under distinct keys are kept in the order of their keys. -/
theorem entries_ofList (distinct : (entries.map Prod.fst).Nodup) :
    (ofList entries).entries = sortedByKey entries := by
  have kept : (ofList entries).entries.Perm entries := by
    have all : (ofList entries).entries.Perm (entries ++ []) :=
      perm_foldl_insert distinct fun _ _ => List.not_mem_nil
    rwa [List.append_nil] at all
  have sorted := pairwise_sortedByKey entries
  have ascending : (ofList entries).entries.Pairwise fun first second => first.1 ≤ second.1 :=
    (ofList entries).ascending.imp fun less => Std.le_of_lt less
  refine List.Perm.eq_of_pairwise ?_ ascending sorted
    (kept.trans (List.mergeSort_perm entries _).symm)
  intro first second known listed before after
  have same : first.1 = second.1 := String.le_antisymm before after
  exact List.inj_on_of_nodup_map distinct (kept.mem_iff.mp known)
    ((List.mergeSort_perm entries _).mem_iff.mp listed) same

/-- Entries in the order of their keys are those of the values that they make. -/
theorem entries_ofList_of_ascending
    (ascending : entries.Pairwise fun first second => first.1 < second.1) :
    (ofList entries).entries = entries := by
  have distinct : (entries.map Prod.fst).Nodup := by
    refine List.pairwise_map.mpr (ascending.imp fun less same => ?_)
    rw [same] at less
    exact String.lt_irrefl _ less
  rw [entries_ofList distinct]
  exact List.mergeSort_of_pairwise (ascending.imp fun less => decide_eq_true (Std.le_of_lt less))

theorem ofList_entries (map : Keyed α) : ofList map.entries = map :=
  ext_entries (entries_ofList_of_ascending map.ascending)

/-- The value of a key is that of its entry. -/
theorem get?_eq_some_iff : map.get? key = some value ↔ (key, value) ∈ map.entries := by
  obtain ⟨entries, ascending⟩ := map
  unfold get?
  rw [List.lookup_eq_some_iff]
  constructor
  · rintro ⟨front, back, rfl, -⟩
    exact List.mem_append_right _ List.mem_cons_self
  · intro mem
    obtain ⟨front, back, rfl⟩ := List.append_of_mem mem
    refine ⟨front, back, rfl, ?_⟩
    intro entry earlier
    have less := (List.pairwise_append.mp ascending).2.2 entry earlier _ List.mem_cons_self
    exact bne_iff_ne.mpr fun same => String.lt_irrefl _ (same ▸ less)

theorem contains_iff : map.contains key = true ↔ key ∈ map.keys := by
  unfold contains keys
  rw [Option.isSome_iff_exists, List.mem_map]
  constructor
  · rintro ⟨value, found⟩
    exact ⟨(key, value), get?_eq_some_iff.mp found, rfl⟩
  · rintro ⟨⟨_, value⟩, mem, rfl⟩
    exact ⟨value, get?_eq_some_iff.mpr mem⟩

/-- Keyed values are what is found under each key. -/
theorem ext_get? {left right : Keyed α} (same : ∀ key, left.get? key = right.get? key) :
    left = right := by
  apply ext_entries
  have members (entry : String × α) : entry ∈ left.entries ↔ entry ∈ right.entries := by
    obtain ⟨key, value⟩ := entry
    rw [← get?_eq_some_iff, ← get?_eq_some_iff, same]
  have distinct (map : Keyed α) : map.entries.Nodup := by
    apply map.ascending.imp
    rintro first second less rfl
    exact String.lt_irrefl _ less
  apply List.Perm.eq_of_pairwise _ left.ascending right.ascending
  · exact (List.perm_ext_iff_of_nodup (distinct left) (distinct right)).mpr members
  · intro first second _ _ less more
    exact absurd (String.lt_trans less more) (String.lt_irrefl _)

theorem get?_mapValues {β : Type} (change : α → β) :
    (map.mapValues change).get? key = (map.get? key).map change := by
  have changed (entries : List (String × α)) :
      (entries.map fun entry => (entry.1, change entry.2)).lookup key =
        (entries.lookup key).map change := by
    induction entries with
    | nil => rfl
    | cons entry entries ih =>
        obtain ⟨first, value⟩ := entry
        rw [List.map_cons, lookup_cons_eq_ite, lookup_cons_eq_ite, ih]
        split
        · rfl
        · rfl
  exact changed map.entries

/-- Keyed values agree in a part of them if what is found under each key does. -/
theorem map_values_congr {β : Type} {change : α → β} {left right : Keyed α}
    (same : ∀ key, (left.get? key).map change = (right.get? key).map change) :
    left.values.map change = right.values.map change := by
  have changed : left.mapValues change = right.mapValues change := by
    apply ext_get?
    intro key
    rw [get?_mapValues, get?_mapValues, same]
  have values (map : Keyed α) : (map.mapValues change).values = map.values.map change := by
    simp [Keyed.values, mapValues]
  rw [← values, ← values, changed]

/-- One more value is put in last. -/
theorem ofList_concat (entries : List (String × α)) (entry : String × α) :
    ofList (entries ++ [entry]) = (ofList entries).insert entry.1 entry.2 := by
  unfold ofList
  rw [List.foldl_append]
  rfl

/-- Without the values of some keys all others stand. -/
theorem ofList_filter (entries : List (String × α)) (keep : String → Bool) :
    ofList (entries.filter fun entry => keep entry.1) = (ofList entries).filterKeys keep := by
  apply ext_get?
  intro key
  rw [get?_filterKeys, get?_ofList, get?_ofList, ← List.filter_reverse]
  split
  · next kept => exact lookup_filter (fun _ => kept) _
  · next dropped =>
      rw [lookup_eq_none_iff_not_mem, List.mem_map]
      rintro ⟨entry, mem, rfl⟩
      exact dropped (List.mem_filter.mp mem).2

/-- To put in what is there already changes nothing. -/
theorem insert_of_get? (found : map.get? key = some value) : map.insert key value = map := by
  apply ext_get?
  intro other
  rw [get?_insert]
  split
  · next same => exact same ▸ found.symm
  · rfl

/-- The entries whose keys come before a key. -/
def entriesBefore (map : Keyed α) (key : String) : List (String × α) :=
  map.entries.filter fun entry => entry.1 < key

/-- The entries whose keys come behind a key. -/
def entriesBehind (map : Keyed α) (key : String) : List (String × α) :=
  map.entries.filter fun entry => key < entry.1

theorem filter_of_behind (behind : ∀ entry ∈ entries, key < entry.1) :
    (entries.filter fun entry => entry.1 < key) = [] ∧
      (entries.filter fun entry => key < entry.1) = entries := by
  constructor
  · rw [List.filter_eq_nil_iff]
    intro entry mem before
    exact String.lt_asymm (behind entry mem) (of_decide_eq_true before)
  · rw [List.filter_eq_self]
    exact fun entry mem => decide_eq_true (behind entry mem)

theorem insertEntry_eq (ascending : entries.Pairwise fun first second => first.1 < second.1) :
    insertEntry key value entries = (entries.filter fun entry => entry.1 < key) ++
      (key, value) :: entries.filter fun entry => key < entry.1 := by
  induction entries with
  | nil => rfl
  | cons head rest ih =>
      obtain ⟨first, kept⟩ := head
      obtain ⟨above, later⟩ := List.pairwise_cons.mp ascending
      unfold insertEntry
      split
      · next less =>
          have behind : ∀ entry ∈ (first, kept) :: rest, key < entry.1 := by
            refine List.forall_mem_cons.mpr ⟨less, fun entry mem => ?_⟩
            exact String.lt_trans less (above entry mem)
          rw [(filter_of_behind behind).1, (filter_of_behind behind).2, List.nil_append]
      · next notLess =>
          split
          · next same =>
              subst same
              obtain ⟨none_before, all_behind⟩ := filter_of_behind above
              rw [List.filter_cons_of_neg (by simp), List.filter_cons_of_neg (by simp), none_before,
                all_behind, List.nil_append]
          · next different =>
              have before : first < key :=
                Std.lt_of_le_of_ne (Std.not_lt.mp notLess) (Ne.symm different)
              rw [List.filter_cons_of_pos (by simpa using before),
                List.filter_cons_of_neg (by simpa using notLess), ih later, List.cons_append]

/-- A value stands between the entries before its key and those behind it. -/
theorem entries_insert : (map.insert key value).entries =
    map.entriesBefore key ++ (key, value) :: map.entriesBehind key :=
  insertEntry_eq map.ascending

/-- The entries under other keys are those before a key and those behind it. -/
theorem entries_filterKeys_ne : (map.filterKeys (· ≠ key)).entries =
    map.entriesBefore key ++ map.entriesBehind key := by
  obtain ⟨entries, ascending⟩ := map
  unfold filterKeys entriesBefore entriesBehind
  dsimp only
  induction entries with
  | nil => rfl
  | cons head rest ih =>
      obtain ⟨first, kept⟩ := head
      obtain ⟨above, later⟩ := List.pairwise_cons.mp ascending
      by_cases before : first < key
      · rw [List.filter_cons_of_pos (by simpa using Std.ne_of_lt before),
          List.filter_cons_of_pos (by simpa using before),
          List.filter_cons_of_neg (by simpa using String.lt_asymm before), ih later,
          List.cons_append]
      · have behind : ∀ entry ∈ rest, key < entry.1 := fun entry mem =>
          Std.lt_of_le_of_lt (Std.not_lt.mp before) (above entry mem)
        obtain ⟨none_before, all_behind⟩ := filter_of_behind behind
        have others : (rest.filter fun entry => decide (entry.1 ≠ key)) = rest :=
          List.filter_eq_self.mpr fun entry mem =>
            decide_eq_true (Std.ne_of_lt (behind entry mem)).symm
        rw [List.filter_cons, List.filter_cons_of_neg (by simpa using before), List.filter_cons,
          none_before, all_behind, others, List.nil_append]
        refine if_congr ?_ rfl rfl
        rw [decide_eq_true_eq, decide_eq_true_eq]
        exact ⟨fun different => Std.lt_of_le_of_ne (Std.not_lt.mp before) (Ne.symm different),
          fun less => (Std.ne_of_lt less).symm⟩

end PromScribe.Keyed

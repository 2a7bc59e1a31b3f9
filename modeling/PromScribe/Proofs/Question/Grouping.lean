import PromScribe.Proofs.Question.Keyword
import PromScribe.Proofs.Question.RuleQuestion
import PromScribe.Question.Wording

/-!
# Groupings

A grouping is the word `by`, one space and an identifier, with no word character beside them. The
label of a question is the identifier of its first grouping by something else than a stopword. Of
the spelled-out units of time only the singular forms are stopwords: a plural form is a label.
-/

namespace PromScribe.Question

open PromScribe.Text

variable {text front back other place run : List Char} {before : Option Char}
variable {label earlier : String}

/-- Behind `front` the text groups by the label. -/
structure GroupsBy (text front : List Char) (label : String) : Prop where
  identifier : IsIdentifier label
  stands : ∃ back, StandsAlone text ("by ".toList ++ label.toList) front back

/-- Behind `front` stands the first grouping of the text by something else than a stopword. -/
structure IsFirstGrouping (text front : List Char) (label : String) : Prop where
  groups : GroupsBy text front label
  free : label ∉ groupStopwords
  first : ∀ other earlier, GroupsBy text other earlier → other.length < front.length →
    earlier ∈ groupStopwords

/-- A run of characters of labels ends where a word does. -/
theorem takeWhile_label (letters : ∀ c ∈ run, continuesLabel c = true)
    (ends : wordBeside back.head? = false) : (run ++ back).takeWhile continuesLabel = run := by
  refine takeWhile_run letters ?_
  cases back with
  | nil => rfl
  | cons c back =>
      refine eq_false_of_ne_true fun continues => ?_
      have word : wordBeside (some c) = true := isWord_of_continuesLabel continues
      rw [List.head?_cons, word] at ends
      cases ends

/-- What is accepted is an identifier behind `by` and a space, between word edges. -/
theorem byClause_eq_some_iff {hit : Hit (List Char)} : byClause before place = some hit ↔
    ∃ label back, hit = ⟨2 + label.toList.length, label.toList⟩ ∧ IsIdentifier label ∧
      place = "by ".toList ++ label.toList ++ back ∧ wordBeside before = false ∧
        wordBeside back.head? = false := by
  constructor
  · intro accepted
    unfold byClause at accepted
    split at accepted
    · next first rest =>
        dsimp only at accepted
        split at accepted
        · next edges =>
            simp only [Bool.and_eq_true, Bool.not_eq_true'] at edges
            obtain ⟨⟨outside, starts⟩, ends⟩ := edges
            obtain rfl := Option.some.inj accepted
            refine ⟨String.ofList (first :: rest.takeWhile continuesLabel),
              rest.drop (rest.takeWhile continuesLabel).length, ?_, ⟨?_, ?_⟩, ?_, outside, ends⟩
            · simp only [String.toList_ofList, List.length_cons, Hit.mk.injEq, and_true]
              omega
            · simpa using starts
            · rw [String.toList_ofList]
              refine List.forall_mem_cons.mpr ⟨by simp [continuesLabel, starts], ?_⟩
              exact fun c mem => List.mem_takeWhile_imp mem
            · have run : rest.takeWhile continuesLabel <+: rest := List.takeWhile_prefix _
              simp [List.prefix_iff_eq_append.mp run]
        · cases accepted
    · cases accepted
  · rintro ⟨label, back, rfl, ⟨starts, letters⟩, rfl, outside, ends⟩
    obtain ⟨first, rest, chars⟩ : ∃ first rest, label.toList = first :: rest := by
      cases same : label.toList with
      | nil =>
          rw [same] at starts
          cases starts
      | cons first rest => exact ⟨first, rest, rfl⟩
    rw [chars] at starts letters ⊢
    have run := takeWhile_label (fun c mem => letters c (List.mem_cons_of_mem first mem)) ends
    have begins : startsLabel first = true := starts
    simp [byClause, run, outside, begins, ends]
    omega

theorem byClause_of_groupsBy (groups : GroupsBy text front label) :
    ∃ back, text = front ++ ("by ".toList ++ label.toList ++ back) ∧
      byClause (lastOf none front) ("by ".toList ++ label.toList ++ back) =
        some ⟨2 + label.toList.length, label.toList⟩ := by
  obtain ⟨back, split, behind, ahead⟩ := groups.stands
  refine ⟨back, split, byClause_eq_some_iff.mpr ⟨label, back, rfl, groups.identifier, rfl, ?_, ahead⟩⟩
  rw [lastOf_none]
  exact behind

/-- Behind one part of a text it groups by one label. -/
theorem GroupsBy.eq (groups : GroupsBy text front label) (others : GroupsBy text front earlier) :
    label = earlier := by
  obtain ⟨back, split, accepted⟩ := byClause_of_groupsBy groups
  obtain ⟨otherBack, same, otherAccepted⟩ := byClause_of_groupsBy others
  rw [split] at same
  rw [List.append_cancel_left same, otherAccepted] at accepted
  exact String.toList_inj.mp (congrArg Hit.value (Option.some.inj accepted)).symm

/-- Every accepted run is a grouping. -/
theorem exists_groupsBy {span : Span (List Char)} (mem : span ∈ spansOf byClause text) :
    ∃ front label, GroupsBy text front label ∧ span.value = label.toList ∧
      span.start = byteLength front ∧
        span.stop = span.start + byteLength ("by ".toList ++ label.toList) := by
  obtain ⟨front, place, split, accepts, start⟩ := exists_of_mem_spansOf mem
  obtain ⟨extra, accepted, covered⟩ := accepts.accepted
  obtain ⟨label, back, same, identifier, rfl, outside, ends⟩ := byClause_eq_some_iff.mp accepted
  obtain ⟨rfl, value⟩ := Hit.mk.inj same
  rw [lastOf_none] at outside
  refine ⟨front, label, ⟨identifier, back, split, outside, ends⟩, value, start, ?_⟩
  have length : 2 + label.toList.length + 1 = ("by ".toList ++ label.toList).length := by
    simp
    omega
  rw [accepts.stop_eq, covered, length, List.take_left]

/-- Within a grouping another one begins only if the label is `by` itself. -/
theorem eq_by_of_within {between : List Char} (identifier : IsIdentifier earlier)
    (within : between <+: "by ".toList ++ earlier.toList) (nonempty : between ≠ [])
    (behind : wordBeside between.getLast? = false)
    (goesOn : "by ".toList ++ earlier.toList ++ back = between ++ ("by ".toList ++ place))
    (ends : wordBeside back.head? = false) : earlier = "by" := by
  obtain ⟨tail, split⟩ := within
  have word : "by ".toList = ['b', 'y', ' '] := by decide
  rw [word] at split goesOn
  match between with
  | [] => exact absurd rfl nonempty
  | [b] =>
      obtain ⟨rfl, -⟩ := List.cons.inj split
      cases behind
  | [b, y] =>
      simp only [List.cons_append, List.nil_append, List.cons.injEq] at split
      obtain ⟨rfl, rfl, -⟩ := split
      cases behind
  | b :: y :: space :: letters =>
      simp only [List.cons_append, List.nil_append, List.cons.injEq] at split
      obtain ⟨rfl, rfl, rfl, label⟩ := split
      have none : letters = [] := by
        -- Behind the space there are word characters alone.
        by_contra some_letter
        have word : ∀ c ∈ letters, isWord c = true := fun c mem =>
          isWord_of_continuesLabel (identifier.2 c (label ▸ List.mem_append_left tail mem))
        have last := wordBeside_getLast? some_letter word
        rw [show ('b' :: 'y' :: ' ' :: letters).getLast? = letters.getLast? from
          List.getLast?_append_of_ne_nil ['b', 'y', ' '] some_letter, last] at behind
        cases behind
      subst none
      have same : earlier.toList ++ back = "by".toList ++ ' ' :: place :=
        @List.append_cancel_left _ ['b', 'y', ' '] _ _ (by simpa using goesOn)
      have first := takeWhile_label identifier.2 ends
      have second : ("by".toList ++ ' ' :: place).takeWhile continuesLabel = "by".toList :=
        takeWhile_run (List.all_eq_true.mp rfl) rfl
      rw [same, second] at first
      exact String.toList_inj.mp first.symm

/-- A grouping is an accepted run, or lies within one for the label `by`. -/
theorem GroupsBy.exists_span (groups : GroupsBy text front label) :
    ∃ span ∈ spansOf byClause text,
      (span.start = byteLength front ∧ span.value = label.toList) ∨
        (span.start < byteLength front ∧ span.value = "by".toList) := by
  obtain ⟨back, split, accepted⟩ := byClause_of_groupsBy groups
  obtain ⟨span, mem, above, below⟩ := exists_mem_spansOf accepted
  have member : span ∈ spansOf byClause text := split ▸ mem
  obtain ⟨lead, earlier, early, value, start, stop⟩ := exists_groupsBy member
  obtain ⟨otherBack, otherSplit, behind, ahead⟩ := early.stands
  refine ⟨span, member, ?_⟩
  rw [start] at above
  obtain ⟨between, rfl, goesOn⟩ := exists_of_byteLength_le (otherSplit.symm.trans split) above
  rw [stop, start, byteLength_append] at below
  by_cases here : between = []
  · subst here
    rw [List.append_nil] at groups ⊢
    exact .inl ⟨start, value.trans (congrArg String.toList (early.eq groups))⟩
  · have positive := byteLength_pos here
    have within : between <+: "by ".toList ++ earlier.toList := by
      obtain ⟨more, longer, -⟩ := exists_of_byteLength_le goesOn.symm (by omega)
      exact ⟨more, longer.symm⟩
    obtain ⟨-, -, outside, -⟩ := groups.stands
    rw [List.getLast?_append_of_ne_nil lead here] at outside
    have named := eq_by_of_within early.identifier within here outside
      (by simpa using goesOn) ahead
    refine .inr ⟨?_, value.trans (congrArg String.toList named)⟩
    rw [start, byteLength_append]
    omega

/-- Of groupings of a text, the one that stands behind less of it begins earlier. -/
theorem byteLength_lt_of_length (groups : GroupsBy text front label)
    (others : GroupsBy text other earlier) (shorter : other.length < front.length) :
    byteLength other < byteLength front := by
  obtain ⟨back, split, -⟩ := groups.stands
  obtain ⟨otherBack, otherSplit, -⟩ := others.stands
  obtain ⟨more, rfl⟩ := List.prefix_of_prefix_length_le (otherSplit ▸ List.prefix_append other _)
    (split ▸ List.prefix_append front _) (Nat.le_of_lt shorter)
  have nonempty : more ≠ [] := by
    rintro rfl
    simp at shorter
  have positive := byteLength_pos nonempty
  rw [byteLength_append]
  omega

/-- There is one first grouping. -/
theorem IsFirstGrouping.eq (grouping : IsFirstGrouping text front label)
    (others : IsFirstGrouping text other earlier) : label = earlier := by
  obtain ⟨back, split, -⟩ := grouping.groups.stands
  obtain ⟨otherBack, otherSplit, -⟩ := others.groups.stands
  have length : front.length = other.length := by
    refine Nat.le_antisymm (Nat.le_of_not_lt fun shorter => ?_) (Nat.le_of_not_lt fun shorter => ?_)
    · exact others.free (grouping.first other earlier others.groups shorter)
    · exact grouping.free (others.first front label grouping.groups shorter)
  obtain ⟨rfl, -⟩ := List.append_inj (split.symm.trans otherSplit) length
  exact grouping.groups.eq others.groups

/-- The label is the value of the first accepted run that is no stopword. -/
theorem groupLabel?_eq (text : List Char) : groupLabel? text =
    ((spansOf byClause text).find? fun span =>
      !groupStopwords.contains (String.ofList span.value)).map fun span =>
        String.ofList span.value := by
  have values : valuesOf byClause text = (spansOf byClause text).map Span.value := by
    rw [← map_hits, ← map_spansOf, List.map_map]
    rfl
  rw [groupLabel?, values, List.map_map, List.find?_map]
  rfl

theorem isFirstGrouping_of_groupLabel? (found : groupLabel? text = some label) :
    ∃ front, IsFirstGrouping text front label := by
  rw [groupLabel?_eq] at found
  obtain ⟨span, first, rfl⟩ := Option.map_eq_some_iff.mp found
  obtain ⟨free, front, back, split, stopped⟩ := List.find?_eq_some_iff_append.mp first
  have member : span ∈ spansOf byClause text := split ▸ List.mem_append_right _ List.mem_cons_self
  obtain ⟨lead, label, groups, value, start, stop⟩ := exists_groupsBy member
  rw [value, String.ofList_toList] at free ⊢
  refine ⟨lead, groups, by simpa using free, fun other earlier others shorter => ?_⟩
  have less := byteLength_lt_of_length groups others shorter
  -- A run that begins earlier than the chosen one was passed over.
  have passed {before : Span (List Char)} (mem : before ∈ spansOf byClause text)
      (early : before.start < span.start) : String.ofList before.value ∈ groupStopwords := by
    have ordered := pairwise_spansFrom 0 (sweep byClause text)
    change (spansOf byClause text).Pairwise _ at ordered
    rw [split] at mem ordered
    rcases List.mem_append.mp mem with here | later
    · simpa using stopped before here
    · rcases List.mem_cons.mp later with rfl | behind
      · exact absurd early (Nat.lt_irrefl _)
      · have apart := (List.pairwise_cons.mp (List.pairwise_append.mp ordered).2.1).1 before behind
        omega
  obtain ⟨before, mem, ⟨begins, same⟩ | ⟨begins, same⟩⟩ := others.exists_span
  · have known := passed mem (by omega)
    rwa [same, String.ofList_toList] at known
  · have known := passed mem (by omega)
    rw [same, String.ofList_toList] at known
    exact absurd known (by decide)

theorem groupLabel?_eq_some_iff :
    groupLabel? text = some label ↔ ∃ front, IsFirstGrouping text front label := by
  refine ⟨isFirstGrouping_of_groupLabel?, fun ⟨front, grouping⟩ => ?_⟩
  cases found : groupLabel? text with
  | some other =>
      obtain ⟨lead, others⟩ := isFirstGrouping_of_groupLabel? found
      exact congrArg some (others.eq grouping)
  | none =>
      rw [groupLabel?_eq, Option.map_eq_none_iff, List.find?_eq_none] at found
      obtain ⟨span, mem, named⟩ := grouping.groups.exists_span
      have stopped := found span mem
      rcases named with ⟨-, same⟩ | ⟨-, same⟩
      · rw [same, String.ofList_toList] at stopped
        exact absurd (by simpa using stopped) grouping.free
      · rw [same, String.ofList_toList] at stopped
        exact absurd (by simpa using stopped) (by decide)

/-- The articles. -/
def articles : List String := ["the", "a", "an"]

/-- Spelled-out units of time in the singular. -/
def singularUnits : List String :=
  ["second", "sec", "minute", "min", "hour", "hr", "day", "week"]

/-- Every spelled-out unit is a singular or its plural. -/
theorem mem_unitWords_iff : label ∈ unitWords ↔
    label ∈ singularUnits ∨ ∃ unit ∈ singularUnits, label = unit ++ "s" := by
  have each : ∀ word ∈ unitWords,
      word ∈ singularUnits ∨ ∃ unit ∈ singularUnits, word = unit ++ "s" := by
    decide
  have known : ∀ unit ∈ singularUnits, unit ∈ unitWords ∧ unit ++ "s" ∈ unitWords := by decide
  constructor
  · exact each label
  · rintro (single | ⟨unit, single, rfl⟩)
    · exact (known label single).1
    · exact (known unit single).2

/-- The label of a question is that of its first grouping by something else than a stopword. It is
no article and no unit of time in the singular, so a spelled-out unit that is a label is a plural;
and no plural is a stopword. -/
theorem group_label_first (question label : String) :
    ((Intent.ofText question).groupLabel = some label ↔
      ∃ front, IsFirstGrouping (lower question.toList) front label) ∧
    ((Intent.ofText question).groupLabel = some label → label ∉ articles ∧
      (label ∈ unitWords → ∃ unit ∈ singularUnits, label = unit ++ "s")) ∧
    ∀ unit ∈ singularUnits, unit ++ "s" ∉ groupStopwords := by
  have named : (Intent.ofText question).groupLabel = groupLabel? (lower question.toList) := rfl
  have stopped : ∀ word ∈ articles ++ singularUnits, word ∈ groupStopwords := by decide
  rw [named]
  refine ⟨groupLabel?_eq_some_iff, fun found => ?_, by decide⟩
  obtain ⟨front, grouping⟩ := isFirstGrouping_of_groupLabel? found
  refine ⟨fun article => ?_, fun unit => ?_⟩
  · exact grouping.free (stopped label (List.mem_append_left _ article))
  · refine (mem_unitWords_iff.mp unit).resolve_left fun single => ?_
    exact grouping.free (stopped label (List.mem_append_right _ single))

/-- A unit of time in the plural is taken for a label. -/
theorem exists_unit_label : ∃ (question unit : String),
    unit ∈ unitWords ∧ (Intent.ofText question).groupLabel = some unit :=
  ⟨"requests by minutes", "minutes", by decide, by decide +kernel⟩

end PromScribe.Question

import PromScribe.Proofs.Keyed
import PromScribe.Proofs.Text.Spacing
import PromScribe.Proofs.Text.Substitution
import PromScribe.Translation.Prompt

/-!
# Filling templates

Slots that are filled one after another could fill what a value brings along, or what a value and
the text beside it make up together. Where no value has a slot in it neither happens, because in a
template nothing beside a slot begins or goes on with one. Then each value stands in the place of
its slot, as if all had been filled at once.
-/

namespace PromScribe.Prompt

open Text

variable {α : Type} {recognise : Recogniser α} {names all : List String} {key : String → α}
variable {name other : String} {text rest : List Char} {before : Option Char}

/-!
## Slots in a text

A slot begins with a brace and has no other one before it ends.
-/

/-- The characters of a slot. -/
def slotChars (name : String) : List Char :=
  '\x7b' :: (name.toList ++ ['\x7d'])

theorem toList_slot (name : String) : (slot name).toList = slotChars name := by
  simp [slot, slotChars]

theorem slotChars_ne_nil (name : String) : slotChars name ≠ [] :=
  List.cons_ne_nil _ _

/-- The name has no braces in it. -/
def Braceless (name : String) : Prop :=
  '\x7b' ∉ name.toList ∧ '\x7d' ∉ name.toList

instance (name : String) : Decidable (Braceless name) :=
  inferInstanceAs (Decidable (_ ∧ _))

/-- A slot does not begin like another one. -/
theorem eq_of_slotChars_begins (plain : Braceless name) (also : Braceless other)
    (starts : slotChars name <+: slotChars other ++ rest) : name = other := by
  have upTo {name : String} (plain : Braceless name) (rest : List Char) :
      (name.toList ++ '\x7d' :: rest).takeWhile (· != '\x7d') = name.toList := by
    refine takeWhile_run (fun c mem => bne_iff_ne.mpr fun same => ?_) rfl
    exact plain.2 (same ▸ mem)
  obtain ⟨more, same⟩ := starts
  have inner : name.toList ++ '\x7d' :: more = other.toList ++ '\x7d' :: rest := by
    simpa [slotChars] using same
  apply String.toList_inj.mp
  rw [← upTo plain more, inner, upTo also rest]

theorem not_slotChars_prefix_of_ne {c : Char} (apart : c ≠ '\x7b') :
    ¬ slotChars name <+: c :: text := fun starts =>
  apart (List.cons_prefix_cons.mp starts).1.symm

/-- The recogniser accepts just the slots of the names. -/
structure Fills (recognise : Recogniser α) (names : List String) (key : String → α) : Prop where
  forward : Forward recognise
  hits : ∀ name ∈ names, ∀ rest, recognise none (slotChars name ++ rest) =
    some ⟨(slotChars name).length - 1, key name⟩
  misses : ∀ text, (∀ name ∈ names, ¬ slotChars name <+: text) → recognise none text = none

/-- Accepts the slots of the names. -/
def anySlot (names : List String) : Recogniser String := fun _ text =>
  (names.find? fun name => (slotChars name).isPrefixOf text).map
    fun name => ⟨(slotChars name).length - 1, name⟩

theorem fills_literal (name : String) :
    Fills (literal (slotChars name)) [name] fun _ => () where
  forward _ _ := rfl
  hits := by
    intro other mem rest
    obtain rfl := List.mem_singleton.mp mem
    unfold literal
    rw [if_pos (List.isPrefixOf_iff_prefix.mpr (List.prefix_append _ _))]
  misses text apart := by
    unfold literal
    rw [if_neg]
    rw [List.isPrefixOf_iff_prefix]
    exact apart name (List.mem_singleton_self name)

theorem fills_anySlot (braceless : ∀ name ∈ names, Braceless name) :
    Fills (anySlot names) names id where
  forward _ _ := rfl
  hits := by
    intro name mem rest
    have starts : (slotChars name).isPrefixOf (slotChars name ++ rest) = true :=
      List.isPrefixOf_iff_prefix.mpr (List.prefix_append _ _)
    unfold anySlot
    cases found : names.find? fun other =>
        (slotChars other).isPrefixOf (slotChars name ++ rest) with
    | none => exact absurd starts (List.find?_eq_none.mp found name mem)
    | some other =>
        have also := List.isPrefixOf_iff_prefix.mp (List.find?_eq_some_iff_append.mp found).1
        have listed := List.mem_of_find?_eq_some found
        rw [eq_of_slotChars_begins (braceless other listed) (braceless name mem) also]
        rfl
  misses text apart := by
    unfold anySlot
    rw [Option.map_eq_none_iff, List.find?_eq_none]
    intro name mem
    rw [List.isPrefixOf_iff_prefix]
    exact apart name mem

/-- A text is passed if no slot begins in it. -/
theorem Fills.passes (fills : Fills recognise names key)
    (apart : ∀ front back, text = front ++ back → back ≠ [] →
      ∀ name ∈ names, ¬ slotChars name <+: back ++ rest) :
    Passes recognise rest before text := by
  refine Passes.of_forall fun front c part split => ?_
  rw [fills.forward]
  exact fills.misses _ (apart front (c :: part) split (List.cons_ne_nil c part))

/-!
## What stands beside slots

Other text of a template opens no slot, and a character behind a slot goes on with none.
-/

/-- The characters that the names begin with. -/
def heads (names : List String) : List Char :=
  names.flatMap fun name => (name.toList ++ ['\x7d']).take 1

/-- Each opening brace is followed by a character that is none of the heads. -/
def isPlain (heads : List Char) : List Char → Bool
  | [] => true
  | [c] => c != '\x7b'
  | c :: d :: text => (c != '\x7b' || !heads.contains d) && isPlain heads (d :: text)

theorem not_slotChars_prefix_of_head {d : Char} (mem : name ∈ names) (other : d ∉ heads names) :
    ¬ slotChars name <+: '\x7b' :: d :: text := fun starts => by
  have inner := (List.cons_prefix_cons.mp starts).2
  cases form : name.toList ++ ['\x7d'] with
  | nil => exact absurd form (by simp)
  | cons e more =>
      rw [form] at inner
      obtain rfl := (List.cons_prefix_cons.mp inner).1
      exact other (List.mem_flatMap.mpr ⟨name, mem, by rw [form]; exact List.mem_cons_self⟩)

/-- Plain text is passed, whatever follows. -/
theorem Fills.passes_plain (fills : Fills recognise names key) (within : names ⊆ all)
    (plain : isPlain (heads all) text = true) : Passes recognise rest before text := by
  induction text generalizing before with
  | nil => trivial
  | cons c text ih =>
      have here : ∀ name ∈ names, ¬ slotChars name <+: c :: (text ++ rest) := by
        intro name mem
        cases text with
        | nil => exact not_slotChars_prefix_of_ne (bne_iff_ne.mp plain)
        | cons d text =>
            simp only [isPlain, Bool.and_eq_true, Bool.or_eq_true, bne_iff_ne] at plain
            rcases plain.1 with apart | closed
            · exact not_slotChars_prefix_of_ne apart
            · by_cases brace : c = '\x7b'
              · rw [brace]
                exact not_slotChars_prefix_of_head (within mem) (by simpa using closed)
              · exact not_slotChars_prefix_of_ne brace
      refine ⟨by rw [fills.forward]; exact fills.misses _ here, ih ?_⟩
      cases text with
      | nil => rfl
      | cons d text => exact (Bool.and_eq_true_iff.mp plain).2

/-- No slot of the names goes on with the character. -/
def stops (names : List String) (c : Char) : Bool :=
  names.all fun name => !(name.toList ++ ['\x7d']).contains c

theorem stops_brace (braceless : ∀ name ∈ names, Braceless name) : stops names '\x7b' = true := by
  refine List.all_eq_true.mpr fun name mem => ?_
  simpa using (braceless name mem).1

/-- The text has no slot of the names in it. -/
def Free (names : List String) (text : List Char) : Prop :=
  ∀ name ∈ names, ¬ slotChars name <:+: text

/-- A value without slots is passed where the text behind it goes on with none. -/
theorem Fills.passes_free (fills : Fills recognise names key) (within : names ⊆ all)
    (free : Free names text) (stopped : ∀ c ∈ rest.head?, stops all c = true) :
    Passes recognise rest before text := by
  refine fills.passes fun front back split nonempty name mem ⟨more, same⟩ => ?_
  have inside : ¬ slotChars name <+: back := fun starts =>
    free name mem (starts.isInfix.trans ⟨front, [], by simp [split]⟩)
  rcases List.append_eq_append_iff.mp same with ⟨left, whole, -⟩ | ⟨left, part, behind⟩
  · exact inside ⟨left, whole.symm⟩
  · cases left with
    | nil => exact inside ⟨[], by simpa using part⟩
    | cons c left =>
        -- The slot would begin in the value and go on behind it.
        have tail : c ∈ name.toList ++ ['\x7d'] := by
          cases back with
          | nil => exact absurd rfl nonempty
          | cons d back =>
              rw [(List.cons.inj part).2]
              simp
        have stop := List.all_eq_true.mp (stopped c (by simp [behind])) name (within mem)
        rw [Bool.not_eq_true', List.contains_eq_mem, decide_eq_false_iff_not] at stop
        exact stop tail

/-- A slot of another name is passed. -/
theorem Fills.passes_slot (fills : Fills recognise names key)
    (braceless : ∀ name ∈ names, Braceless name) (plain : Braceless other)
    (apart : other ∉ names) : Passes recognise rest before (slotChars other) := by
  refine fills.passes fun front back split nonempty name mem starts => ?_
  cases front with
  | nil =>
      rw [List.nil_append] at split
      rw [← split] at starts
      exact apart (eq_of_slotChars_begins (braceless name mem) plain starts ▸ mem)
  | cons c front =>
      have inner := (List.cons.inj split).2
      cases back with
      | nil => exact nonempty rfl
      | cons d back =>
          obtain rfl : '\x7b' = d := (List.cons_prefix_cons.mp starts).1
          have within : '\x7b' ∈ other.toList ++ ['\x7d'] := by
            rw [inner]
            simp
          rcases List.mem_append.mp within with early | last
          · exact plain.1 early
          · revert last
            decide

/-!
## Templates

A template is a list of slots, each behind a text, with a text at the end.
-/

/-- The text with something in the place of each slot. -/
def assembled (place : String → List Char) (ending : List Char) :
    List (List Char × String) → List Char
  | [] => ending
  | (text, name) :: more => text ++ (place name ++ assembled place ending more)

/-- Behind a slot comes text that goes on with none, or right away the slot of the last name. -/
def isStopped (names : List String) (ending : List Char) : List (List Char × String) → Bool
  | [] => ending.head?.all (stops names)
  | ([], name) :: _ => names.getLast? == some name
  | (c :: _, _) :: _ => stops names c

/-- The slots are those of the names, with plain text between them that goes on with none. -/
def isTemplate (names : List String) (ending : List Char) : List (List Char × String) → Bool
  | [] => isPlain (heads names) ending
  | (text, name) :: more =>
      isPlain (heads names) text && names.contains name && isStopped names ending more &&
        isTemplate names ending more

variable {place : String → List Char} {ending : List Char} {slots : List (List Char × String)}

/-- What stands behind a slot goes on with none, while the slot of the last name is not filled. -/
theorem stopped_assembled (braceless : ∀ name ∈ all, Braceless name)
    (last : ∀ name ∈ all.getLast?, place name = slotChars name)
    (stopped : isStopped all ending slots = true) :
    ∀ c ∈ (assembled place ending slots).head?, stops all c = true := by
  intro c mem
  match slots with
  | [] => exact Option.all_eq_true .. |>.mp stopped c mem
  | ([], name) :: more =>
      rw [assembled, last name (beq_iff_eq.mp stopped)] at mem
      obtain rfl : '\x7b' = c := Option.some.inj mem
      exact stops_brace braceless
  | (d :: text, name) :: more =>
      obtain rfl : d = c := Option.some.inj mem
      exact stopped

/-- To fill the slots of some names in a template is to put their values in their places, where the
values that stand there already have none of these slots. -/
theorem Fills.rewriteWith_assembled (fills : Fills recognise names key) (written : α → List Char)
    (within : names ⊆ all) (braceless : ∀ name ∈ all, Braceless name)
    (last : ∀ name ∈ all.getLast?, place name = slotChars name)
    (unfilled : ∀ name ∈ names, place name = slotChars name)
    (others : ∀ name ∉ names, place name = slotChars name ∨ Free names (place name))
    (formed : isTemplate all ending slots = true) :
    rewriteWith recognise written (assembled place ending slots) =
      assembled (fun name => if name ∈ names then written (key name) else place name) ending
        slots := by
  induction slots with
  | nil =>
      have passes : Passes recognise [] none ending := fills.passes_plain within formed
      have whole : rewriteWith recognise written (ending ++ []) = ending ++ [] :=
        fills.forward.rewriteWith_passes passes
      rwa [List.append_nil] at whole
  | cons part more ih =>
      obtain ⟨text, name⟩ := part
      simp only [isTemplate, Bool.and_eq_true, List.contains_iff_mem] at formed
      obtain ⟨⟨⟨plain, listed⟩, stopped⟩, later⟩ := formed
      have behind := stopped_assembled braceless last stopped
      have passes : Passes recognise (place name ++ assembled place ending more) none text :=
        fills.passes_plain within plain
      rw [assembled, assembled, fills.forward.rewriteWith_passes passes]
      by_cases mem : name ∈ names
      · rw [if_pos mem, unfilled name mem, fills.forward.rewriteWith_hit (slotChars_ne_nil name)
          (fills.hits name mem _), ih later]
      · have passes : Passes recognise (assembled place ending more) none (place name) := by
          rcases others name mem with slot | free
          · rw [slot]
            exact fills.passes_slot (fun other also => braceless other (within also))
              (braceless name listed) mem
          · exact fills.passes_free within free behind
        rw [if_neg mem, fills.forward.rewriteWith_passes passes, ih later]

/-!
## Values

A value has a name, and stands in the place of its slot.
-/

variable {values filled : List (String × String)} {template : String}

/-- The value of a name, or its slot if there is none. -/
def placed (values : List (String × String)) (name : String) : List Char :=
  ((values.lookup name).map String.toList).getD (slotChars name)

/-- The template with the slots of all values filled at once, each where it stands. -/
def atOnce (values : List (String × String)) (template : String) : String :=
  String.ofList (rewriteWith (anySlot (values.map Prod.fst)) (placed values) template.toList)

/-- None of the values has the slot of a value in it. -/
def Unslotted (values : List (String × String)) : Prop :=
  ∀ value ∈ values, ∀ other ∈ values, hasPart value.2 (slot other.1) = false

instance (values : List (String × String)) : Decidable (Unslotted values) :=
  inferInstanceAs (Decidable (∀ value ∈ values, ∀ other ∈ values, _ = false))

theorem placed_of_fresh (fresh : name ∉ values.map Prod.fst) :
    placed values name = slotChars name := by
  rw [placed, Keyed.lookup_eq_none_iff_not_mem.mpr fresh]
  rfl

/-- What is placed is a slot or a value, and values have no slots. -/
theorem placed_cases (unslotted : Unslotted values) (known : filled ⊆ values)
    (listed : names ⊆ values.map Prod.fst) (name : String) :
    placed filled name = slotChars name ∨ Free names (placed filled name) := by
  unfold placed
  cases found : filled.lookup name with
  | none => exact .inl rfl
  | some value =>
      right
      intro other mem starts
      obtain ⟨holder, also, rfl⟩ := List.mem_map.mp (listed mem)
      obtain ⟨front, back, split, -⟩ := List.lookup_eq_some_iff.mp found
      have entry : (name, value) ∈ values := known (by simp [split])
      have part : hasPart value (slot holder.1) = true := by
        rw [hasPart_iff, toList_slot]
        exact starts
      rw [unslotted _ entry _ also] at part
      cases part

/-- One more value stands in the place of its slot. -/
theorem placed_concat {value : String × String} (fresh : value.1 ∉ filled.map Prod.fst)
    (name : String) : placed (filled ++ [value]) name =
      if name ∈ [value.1] then value.2.toList else placed filled name := by
  unfold placed
  rw [List.lookup_append, Keyed.lookup_cons_eq_ite]
  by_cases same : name = value.1
  · have missing : filled.lookup value.1 = none :=
      Keyed.lookup_eq_none_iff_not_mem.mpr fresh
    simp [same, missing]
  · simp [same]

/-- A template that is filled value by value has each value in the place of its slot. -/
theorem toList_fill (distinct : (values.map Prod.fst).Nodup)
    (braceless : ∀ name ∈ values.map Prod.fst, Braceless name) (unslotted : Unslotted values)
    (formed : isTemplate (values.map Prod.fst) ending slots = true)
    (whole : template.toList = assembled slotChars ending slots) :
    (fill values template).toList = assembled (placed values) ending slots := by
  -- The induction is on the values that are left, while the slots of the others are filled.
  suffices further : ∀ (left filled : List (String × String)) (text : String),
      values = filled ++ left → text.toList = assembled (placed filled) ending slots →
        (fill left text).toList = assembled (placed values) ending slots from
    further values [] template rfl (by rw [whole]; rfl)
  intro left
  induction left with
  | nil =>
      intro filled text split form
      rw [List.append_nil] at split
      rw [split]
      exact form
  | cons value left ih =>
      intro filled text split form
      have names : values.map Prod.fst =
          filled.map Prod.fst ++ value.1 :: left.map Prod.fst := by
        rw [split, List.map_append, List.map_cons]
      have fresh : value.1 ∉ filled.map Prod.fst := fun mem => by
        rw [names] at distinct
        exact List.disjoint_of_nodup_append distinct mem List.mem_cons_self
      have within : [value.1] ⊆ values.map Prod.fst := by simp [names]
      have known : filled ⊆ values := split ▸ List.subset_append_left _ _
      have last : ∀ name ∈ (values.map Prod.fst).getLast?, placed filled name = slotChars name := by
        intro name mem
        refine placed_of_fresh fun early => ?_
        rw [names] at distinct mem
        rw [List.getLast?_append_of_ne_nil _ (List.cons_ne_nil _ _)] at mem
        exact List.disjoint_of_nodup_append distinct early (List.mem_of_getLast? mem)
      have unfilled : ∀ name ∈ [value.1], placed filled name = slotChars name := by
        intro name mem
        obtain rfl := List.mem_singleton.mp mem
        exact placed_of_fresh fresh
      have step := (fills_literal value.1).rewriteWith_assembled (fun _ => value.2.toList) within
        braceless last unfilled (fun name _ => placed_cases unslotted known within name) formed
      refine ih (filled ++ [value]) (substituteString (slot value.1) value.2 text)
        (by rw [split, List.append_assoc]; rfl) ?_
      rw [substituteString, substitute, String.toList_ofList, toList_slot, form, step]
      congr 1
      funext name
      exact (placed_concat fresh name).symm

/-- A template that is filled at once has each value in the place of its slot. -/
theorem toList_atOnce (braceless : ∀ name ∈ values.map Prod.fst, Braceless name)
    (formed : isTemplate (values.map Prod.fst) ending slots = true)
    (whole : template.toList = assembled slotChars ending slots) :
    (atOnce values template).toList = assembled (placed values) ending slots := by
  have filled := (fills_anySlot braceless).rewriteWith_assembled (placed values)
    (List.Subset.refl _) braceless (fun _ _ => rfl) (fun _ _ => rfl) (fun _ _ => .inl rfl) formed
  rw [atOnce, String.toList_ofList, whole, filled]
  congr 1
  funext name
  split
  · rfl
  · next fresh => exact (placed_of_fresh fresh).symm

/-- A value with a slot in it is filled again by a later one, but not where all are filled at once. -/
example : fill [("a", "\x7bb\x7d"), ("b", "c")] "\x7ba\x7d" = "c" ∧
    atOnce [("a", "\x7bb\x7d"), ("b", "c")] "\x7ba\x7d" = "\x7bb\x7d" := by
  decide

/-!
## The prompts

Both templates are given by their lines.
-/

variable {context : Context} {promql : String} {snapshot : Snapshot} {templates : List Template}

/-- The characters of lines. -/
def lined (lines : List String) : List Char :=
  List.intercalate ['\n'] (lines.map String.toList)

theorem toList_joined (lines : List String) : (joined "\n" lines).toList = lined lines := by
  simp [joined, lined]

theorem lined_append {lines more : List String} (some_line : lines ≠ []) (others : more ≠ []) :
    lined (lines ++ more) = lined lines ++ '\n' :: lined more := by
  unfold lined
  rw [List.map_append, intercalate_append (by simpa using some_line) (by simpa using others)]
  simp

/-- The values of the prompt that asks for an explanation. -/
def explanationValues (context : Context) (promql : String) : List (String × String) :=
  [("promql", promql), ("question", context.query), ("metric", context.mainMetric),
    ("aggregation", context.aggregation), ("labels", describeLabels context.labels)]

/-- The slots of the template that asks for an explanation. -/
def explanationSlots : List (List Char × String) :=
  [(lined (explanationLines.take 1 ++ ["Query: "]), "promql"),
    ("\nUser Question: ".toList, "question"), ("\nPrimary Metric: ".toList, "metric"),
    ("\nAggregation Type: ".toList, "aggregation"), ("\nLabels: ".toList, "labels")]

/-- What stands behind them. -/
def explanationEnding : List Char :=
  '\n' :: lined (explanationLines.drop 6)

/-- The lines of the template with something in the places of the slots. -/
theorem lined_explanation (place : String → String) :
    lined (explanationLines.take 1 ++
        (["Query: " ++ place "promql", "User Question: " ++ place "question",
          "Primary Metric: " ++ place "metric", "Aggregation Type: " ++ place "aggregation",
          "Labels: " ++ place "labels"] ++ explanationLines.drop 6)) =
      assembled (fun name => (place name).toList) explanationEnding explanationSlots := by
  have front : explanationLines.take 1 ≠ [] := List.cons_ne_nil _ _
  have back : explanationLines.drop 6 ≠ [] := List.cons_ne_nil _ _
  rw [lined_append front (by simp), lined_append (by simp) back, explanationSlots,
    lined_append front (by simp)]
  simp [assembled, explanationEnding, lined]

theorem isTemplate_explanation :
    isTemplate ["promql", "question", "metric", "aggregation", "labels"] explanationEnding
      explanationSlots = true := by
  decide +kernel

/-- The values of the prompt that asks for a query. -/
def builderValues (snapshot : Snapshot) (templates : List Template) : List (String × String) :=
  [("metrics", describeCatalog snapshot), ("services", describeServices snapshot),
    ("patterns", describeTemplates templates)]

/-- The slots of the template that asks for a query. -/
def builderSlots : List (List Char × String) :=
  [(lined (builderLines.take 2 ++ [""]), "metrics"), ("\n".toList, "services"), ([], "patterns")]

/-- What stands behind them. -/
def builderEnding : List Char :=
  '\n' :: lined (builderLines.drop 4)

/-- The lines of the template with something in the places of the slots. -/
theorem lined_builder (place : String → String) :
    lined (builderLines.take 2 ++
        ([place "metrics", place "services" ++ place "patterns"] ++ builderLines.drop 4)) =
      assembled (fun name => (place name).toList) builderEnding builderSlots := by
  have front : builderLines.take 2 ≠ [] := List.cons_ne_nil _ _
  have back : builderLines.drop 4 ≠ [] := List.cons_ne_nil _ _
  rw [lined_append front (by simp), lined_append (by simp) back, builderSlots,
    lined_append front (by simp)]
  simp [assembled, builderEnding, lined]

theorem isTemplate_builder :
    isTemplate ["metrics", "services", "patterns"] builderEnding builderSlots = true := by
  decide +kernel

theorem toList_explanationTemplate :
    (joined "\n" explanationLines).toList =
      assembled slotChars explanationEnding explanationSlots := by
  have lines := lined_explanation slot
  simp only [toList_slot] at lines
  rw [toList_joined, ← lines]
  rfl

theorem toList_builderTemplate :
    (joined "\n" builderLines).toList = assembled slotChars builderEnding builderSlots := by
  have lines := lined_builder slot
  simp only [toList_slot] at lines
  rw [toList_joined, ← lines]
  rfl

/-- Both ways to fill the template that asks for an explanation put the values in their places. -/
theorem explanation_placed (unslotted : Unslotted (explanationValues context promql)) :
    (explanation context promql).toList =
        assembled (placed (explanationValues context promql)) explanationEnding explanationSlots ∧
      (atOnce (explanationValues context promql) (joined "\n" explanationLines)).toList =
        assembled (placed (explanationValues context promql)) explanationEnding
          explanationSlots := by
  have distinct : ((explanationValues context promql).map Prod.fst).Nodup :=
    (by decide : ["promql", "question", "metric", "aggregation", "labels"].Nodup)
  have braceless : ∀ name ∈ (explanationValues context promql).map Prod.fst, Braceless name :=
    (by decide : ∀ name ∈ ["promql", "question", "metric", "aggregation", "labels"],
      Braceless name)
  exact ⟨toList_fill distinct braceless unslotted isTemplate_explanation
      toList_explanationTemplate,
    toList_atOnce braceless isTemplate_explanation toList_explanationTemplate⟩

/-- Both ways to fill the template that asks for a query put the values in their places. -/
theorem builder_placed (unslotted : Unslotted (builderValues snapshot templates)) :
    (fill (builderValues snapshot templates) (joined "\n" builderLines)).toList =
        assembled (placed (builderValues snapshot templates)) builderEnding builderSlots ∧
      (atOnce (builderValues snapshot templates) (joined "\n" builderLines)).toList =
        assembled (placed (builderValues snapshot templates)) builderEnding builderSlots := by
  have distinct : ((builderValues snapshot templates).map Prod.fst).Nodup :=
    (by decide : ["metrics", "services", "patterns"].Nodup)
  have braceless : ∀ name ∈ (builderValues snapshot templates).map Prod.fst, Braceless name :=
    (by decide : ∀ name ∈ ["metrics", "services", "patterns"], Braceless name)
  exact ⟨toList_fill distinct braceless unslotted isTemplate_builder toList_builderTemplate,
    toList_atOnce braceless isTemplate_builder toList_builderTemplate⟩

/-- Where none of the values of a prompt has a slot of its template in it, the prompt is the
template with all slots filled at once: each value stands unchanged in the place of its slot, among
lines that are otherwise those of the template. Behind the prompt for a query stands the wording,
whatever it has in it. -/
theorem prompts_filled_at_once :
    (∀ (context : Context) (promql : String), Unslotted (explanationValues context promql) →
      explanation context promql =
          atOnce (explanationValues context promql) (joined "\n" explanationLines) ∧
        explanation context promql = joined "\n" (explanationLines.take 1 ++
          (["Query: " ++ promql, "User Question: " ++ context.query,
            "Primary Metric: " ++ context.mainMetric, "Aggregation Type: " ++ context.aggregation,
            "Labels: " ++ describeLabels context.labels] ++ explanationLines.drop 6))) ∧
      ∀ (snapshot : Snapshot) (templates : List Template) (wording : String),
        Unslotted (builderValues snapshot templates) →
          builder snapshot templates wording =
              atOnce (builderValues snapshot templates) (joined "\n" builderLines) ++
                "\n\nQuery: " ++ wording ∧
            builder snapshot templates wording = joined "\n" (builderLines.take 2 ++
              ([describeCatalog snapshot,
                describeServices snapshot ++ describeTemplates templates] ++
                  builderLines.drop 4)) ++ "\n\nQuery: " ++ wording := by
  refine ⟨fun context promql unslotted => ?_, fun snapshot templates wording unslotted => ?_⟩
  · obtain ⟨filled, once⟩ := explanation_placed unslotted
    refine ⟨String.toList_inj.mp (filled.trans once.symm), String.toList_inj.mp ?_⟩
    have lines := lined_explanation fun name =>
      ((explanationValues context promql).lookup name).getD ""
    rw [toList_joined]
    exact filled.trans lines.symm
  · obtain ⟨filled, once⟩ := builder_placed unslotted
    have at_once := String.toList_inj.mp (filled.trans once.symm)
    have by_lines : fill (builderValues snapshot templates) (joined "\n" builderLines) =
        joined "\n" (builderLines.take 2 ++ ([describeCatalog snapshot,
          describeServices snapshot ++ describeTemplates templates] ++ builderLines.drop 4)) := by
      apply String.toList_inj.mp
      have lines := lined_builder fun name =>
        ((builderValues snapshot templates).lookup name).getD ""
      rw [toList_joined]
      exact filled.trans lines.symm
    exact ⟨congrArg (· ++ "\n\nQuery: " ++ wording) at_once,
      congrArg (· ++ "\n\nQuery: " ++ wording) by_lines⟩

/-- A context whose values have braces and names of slots next to each other, but no slot. -/
def bracedContext : Context :=
  { Context.ofQuery "sum of \x7bmetric" with
    mainMetric := "metric\x7d"
    labels := .ofList [("path", "\x7blabels"), ("zone", "\x7bx\x7d")] }

/-- A catalog with services of which one begins a slot and one has another name between braces. -/
def bracedSnapshot : Snapshot :=
  let services : Keyed Unit := .ofList [("\x7bapi\x7d", ()), ("\x7bservices", ())]
  ⟨Keyed.ofList [("up", { Snapshot.newSchema "up" ⟨0, 0⟩ with
    labelValues := .ofList [("job", services)] })], some 0⟩

/-- Values are told as they are, and so is a question that has a slot in it. -/
theorem prompts_filled_at_once_braced :
    (Unslotted (explanationValues bracedContext "up\x7bpath=\"\x7blabels\"\x7d") ∧
      explanation bracedContext "up\x7bpath=\"\x7blabels\"\x7d" =
        joined "\n" (explanationLines.take 1 ++
          (["Query: up\x7bpath=\"\x7blabels\"\x7d", "User Question: sum of \x7bmetric",
            "Primary Metric: metric\x7d", "Aggregation Type: ",
            "Labels: map[path=\x7blabels zone=\x7bx\x7d]"] ++ explanationLines.drop 6))) ∧
      Unslotted (builderValues bracedSnapshot []) ∧
        builder bracedSnapshot [] "what of \x7bmetrics\x7d" =
          joined "\n" (builderLines.take 2 ++
            (["up with labels: job=[\x7bapi\x7d, \x7bservices]",
              "\nMetrics by service:\n- \x7bapi\x7d: up\n- \x7bservices: up\n"] ++
                builderLines.drop 4)) ++ "\n\nQuery: " ++ "what of \x7bmetrics\x7d" := by
  have explained : Unslotted
      (explanationValues bracedContext "up\x7bpath=\"\x7blabels\"\x7d") := by
    decide +kernel
  have asked : Unslotted (builderValues bracedSnapshot []) := by decide +kernel
  refine ⟨⟨explained, (prompts_filled_at_once.1 _ _ explained).2.trans ?_⟩, asked,
    (prompts_filled_at_once.2 _ _ "what of \x7bmetrics\x7d" asked).2.trans ?_⟩
  · have labels : describeLabels bracedContext.labels =
        "map[path=\x7blabels zone=\x7bx\x7d]" := by
      decide +kernel
    rw [labels]
    rfl
  · have listed : describeCatalog bracedSnapshot =
        "up with labels: job=[\x7bapi\x7d, \x7bservices]" := by
      decide +kernel
    have services : describeServices bracedSnapshot ++ describeTemplates [] =
        "\nMetrics by service:\n- \x7bapi\x7d: up\n- \x7bservices: up\n" := by
      decide +kernel
    rw [listed, services]

end PromScribe.Prompt

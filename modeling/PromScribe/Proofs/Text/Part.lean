import Mathlib.Data.List.Chain
import Mathlib.Data.List.Infix
import PromScribe.Proofs.Text.Neighbour

/-!
# Words, gaps and marks

A text is put together of words, gaps of blanks, and other characters, in just one way if neither
two words nor two gaps follow each other. Parts that begin and end with words stand in the text
where no word character is beside them.
-/

namespace PromScribe.Text

/-- A word, blanks, or a character that is neither of a word nor blank. -/
inductive Part where
  | word (letters : List Char)
  | gap (blanks : List Char)
  | mark (c : Char)
deriving DecidableEq

namespace Part

variable {part next : Part} {parts rest middle : List Part} {first gap second : List Char}

/-- The characters of the part. -/
def text : Part → List Char
  | .word letters => letters
  | .gap blanks => blanks
  | .mark c => [c]

/-- The class of the part's characters. -/
def holds : Part → Char → Bool
  | .word _, c => isWord c
  | .gap _, c => isBlank c
  | .mark _, c => !isWord c && !isBlank c

/-- The part has characters, and they are all of its class. -/
def Valid (part : Part) : Prop :=
  part.text ≠ [] ∧ ∀ c ∈ part.text, part.holds c = true

theorem valid_word {letters : List Char} :
    (Part.word letters).Valid ↔ letters ≠ [] ∧ ∀ c ∈ letters, isWord c = true := Iff.rfl

theorem valid_gap {blanks : List Char} :
    (Part.gap blanks).Valid ↔ blanks ≠ [] ∧ ∀ c ∈ blanks, isBlank c = true := Iff.rfl

theorem holds_mark {c d : Char} :
    (Part.mark d).holds c = true ↔ isWord c = false ∧ isBlank c = false := by
  simp [holds]

/-- Two words, or two gaps, are one. -/
def joined? : Part → Part → Option Part
  | .word letters, .word more => some (.word (letters ++ more))
  | .gap blanks, .gap more => some (.gap (blanks ++ more))
  | _, _ => none

/-- The parts may follow each other. -/
def Apart (part next : Part) : Prop :=
  part.joined? next = none

/-- The part is a word. -/
def isLettered : Part → Bool
  | .word _ => true
  | _ => false

/-- Just the characters of words are word characters. -/
theorem isWord_of_mem_text {c : Char} (valid : part.Valid) (mem : c ∈ part.text) :
    isWord c = part.isLettered := by
  have member := valid.2 c mem
  cases part with
  | word letters => exact member
  | gap blanks => exact isWord_of_isBlank member
  | mark d => exact (holds_mark.mp member).1

/-- Just the characters of gaps are blank. -/
theorem isBlank_of_mem_text {c : Char} (valid : part.Valid) (noGap : ∀ blanks, part ≠ .gap blanks)
    (mem : c ∈ part.text) : isBlank c = false := by
  have member := valid.2 c mem
  cases part with
  | word letters => exact isBlank_of_isWord member
  | gap blanks => exact absurd rfl (noGap blanks)
  | mark d => exact (holds_mark.mp member).2

/-- The text of the parts. -/
def spell (parts : List Part) : List Char :=
  parts.flatMap Part.text

@[simp] theorem spell_nil : spell [] = [] := rfl

@[simp] theorem spell_cons (part : Part) (parts : List Part) :
    spell (part :: parts) = part.text ++ spell parts := rfl

@[simp] theorem spell_append (parts more : List Part) :
    spell (parts ++ more) = spell parts ++ spell more :=
  List.flatMap_append

/-- The parts are proper ones, and may follow each other. -/
structure Divided (parts : List Part) : Prop where
  valid : ∀ part ∈ parts, part.Valid
  apart : parts.IsChain Apart

theorem divided_cons : Divided (part :: parts) ↔
    part.Valid ∧ (∀ next ∈ parts.head?, part.Apart next) ∧ Divided parts := by
  constructor
  · rintro ⟨valid, apart⟩
    obtain ⟨here, later⟩ := List.isChain_cons.mp apart
    obtain ⟨first, others⟩ := List.forall_mem_cons.mp valid
    exact ⟨first, here, others, later⟩
  · rintro ⟨first, here, others, later⟩
    exact ⟨List.forall_mem_cons.mpr ⟨first, others⟩, List.isChain_cons.mpr ⟨here, later⟩⟩

theorem Divided.within (divided : Divided parts) (within : middle <:+: parts) : Divided middle :=
  ⟨fun part mem => divided.valid part (within.subset mem), List.IsChain.infix divided.apart within⟩

/-- The part in front of the others, joined to the first of them if they are of one kind. -/
def push (part : Part) : List Part → List Part
  | [] => [part]
  | next :: rest =>
      match part.joined? next with
      | some whole => whole :: rest
      | none => part :: next :: rest

/-- The part that is just the character. -/
def ofChar (c : Char) : Part :=
  if isWord c then .word [c] else if isBlank c then .gap [c] else .mark c

/-- The parts of the text. -/
def partsOf (text : List Char) : List Part :=
  text.foldr (fun c => push (ofChar c)) []

theorem text_joined {whole : Part} (joins : part.joined? next = some whole) :
    whole.text = part.text ++ next.text := by
  cases part with
  | mark c => cases joins
  | word letters =>
      cases next with
      | word more =>
          cases joins
          rfl
      | gap blanks => cases joins
      | mark c => cases joins
  | gap blanks =>
      cases next with
      | gap more =>
          cases joins
          rfl
      | word letters => cases joins
      | mark c => cases joins

theorem joined_like {whole : Part} (joins : part.joined? next = some whole) :
    whole.holds = part.holds ∧ whole.holds = next.holds ∧
      ∀ other, next.Apart other → whole.Apart other := by
  cases part with
  | mark c => cases joins
  | word letters =>
      cases next with
      | word more =>
          cases joins
          refine ⟨rfl, rfl, fun other apart => ?_⟩
          cases other with
          | word _ => cases apart
          | gap _ => rfl
          | mark _ => rfl
      | gap blanks => cases joins
      | mark c => cases joins
  | gap blanks =>
      cases next with
      | gap more =>
          cases joins
          refine ⟨rfl, rfl, fun other apart => ?_⟩
          cases other with
          | word _ => rfl
          | gap _ => cases apart
          | mark _ => rfl
      | word letters => cases joins
      | mark c => cases joins

theorem spell_push (part : Part) (parts : List Part) :
    spell (push part parts) = part.text ++ spell parts := by
  cases parts with
  | nil => rfl
  | cons next rest =>
      simp only [push]
      split
      · next whole joins => simp [text_joined joins]
      · rfl

theorem divided_push (valid : part.Valid) (divided : Divided parts) :
    Divided (push part parts) := by
  cases parts with
  | nil => exact divided_cons.mpr ⟨valid, nofun, divided⟩
  | cons next rest =>
      obtain ⟨first, here, later⟩ := divided_cons.mp divided
      simp only [push]
      split
      · next whole joins =>
          obtain ⟨same, also, apart⟩ := joined_like joins
          refine divided_cons.mpr ⟨⟨?_, fun c mem => ?_⟩, fun other mem => ?_, later⟩
          · rw [text_joined joins]
            exact List.append_ne_nil_of_left_ne_nil valid.1 _
          · rw [text_joined joins] at mem
            rcases List.mem_append.mp mem with early | late
            · rw [same]
              exact valid.2 c early
            · rw [also]
              exact first.2 c late
          · exact apart other (here other mem)
      · next apart =>
          refine divided_cons.mpr ⟨valid, ?_, divided⟩
          rintro other ⟨⟩
          exact apart

theorem text_ofChar (c : Char) : (ofChar c).text = [c] := by
  unfold ofChar
  split
  · rfl
  · split
    · rfl
    · rfl

theorem valid_ofChar (c : Char) : (ofChar c).Valid := by
  refine ⟨by rw [text_ofChar]; exact List.cons_ne_nil c [], fun d mem => ?_⟩
  rw [text_ofChar] at mem
  obtain rfl := List.mem_singleton.mp mem
  unfold ofChar
  split
  · next word => exact word
  · next noWord =>
      split
      · next blank => exact blank
      · next close => simp [holds, noWord, close]

theorem spell_partsOf (text : List Char) : spell (partsOf text) = text := by
  induction text with
  | nil => rfl
  | cons c text ih =>
      have step : partsOf (c :: text) = push (ofChar c) (partsOf text) := rfl
      rw [step, spell_push, text_ofChar, ih]
      rfl

theorem divided_partsOf (text : List Char) : Divided (partsOf text) := by
  induction text with
  | nil => exact ⟨nofun, .nil⟩
  | cons c text ih => exact divided_push (valid_ofChar c) ih

/-- Characters of one kind in front of parts of other kinds are one part. -/
theorem foldr_run (make : List Char → Part) {run : List Char} (nonempty : run ≠ [])
    (each : ∀ c ∈ run, ofChar c = make [c])
    (joins : ∀ run more, (make run).joined? (make more) = some (make (run ++ more)))
    (apart : ∀ run, ∀ next ∈ parts.head?, (make run).Apart next) :
    run.foldr (fun c => push (ofChar c)) parts = make run :: parts := by
  induction run with
  | nil => exact absurd rfl nonempty
  | cons c run ih =>
      rw [List.foldr_cons, each c List.mem_cons_self]
      cases run with
      | nil =>
          cases parts with
          | nil => rfl
          | cons next rest =>
              have other : (make [c]).joined? next = none := apart [c] next rfl
              simp only [List.foldr_nil, push, other]
      | cons d run =>
          have later := ih (List.cons_ne_nil d run) fun e mem => each e (List.mem_cons_of_mem c mem)
          rw [later]
          simp only [push, joins, List.singleton_append]

theorem foldr_text (valid : part.Valid) (apart : ∀ next ∈ parts.head?, part.Apart next) :
    part.text.foldr (fun c => push (ofChar c)) parts = part :: parts := by
  cases part with
  | word letters =>
      refine foldr_run .word valid.1 (fun c mem => ?_) (fun _ _ => rfl) fun run next mem => ?_
      · have letter : isWord c = true := valid.2 c mem
        simp [ofChar, letter]
      · have other := apart next mem
        cases next with
        | word more => cases other
        | gap _ => rfl
        | mark _ => rfl
  | gap blanks =>
      refine foldr_run .gap valid.1 (fun c mem => ?_) (fun _ _ => rfl) fun run next mem => ?_
      · have blank : isBlank c = true := valid.2 c mem
        simp [ofChar, blank, isWord_of_isBlank blank]
      · have other := apart next mem
        cases next with
        | word _ => rfl
        | gap more => cases other
        | mark _ => rfl
  | mark c =>
      have neither := holds_mark.mp (valid.2 c List.mem_cons_self)
      have alone : ofChar c = .mark c := by simp [ofChar, neither]
      have pushed : push (.mark c) parts = .mark c :: parts := by
        cases parts with
        | nil => rfl
        | cons next rest => rfl
      simp [text, alone, pushed]

/-- A text is put together of such parts in one way. -/
theorem partsOf_spell (divided : Divided parts) : partsOf (spell parts) = parts := by
  induction parts with
  | nil => rfl
  | cons part parts ih =>
      obtain ⟨valid, apart, later⟩ := divided_cons.mp divided
      have split : partsOf (spell (part :: parts)) =
          part.text.foldr (fun c => push (ofChar c)) (partsOf (spell parts)) := by
        rw [spell_cons]
        exact List.foldr_append
      rw [split, ih later, foldr_text valid apart]

theorem eq_of_spell_eq {others : List Part} (divided : Divided parts) (proper : Divided others)
    (same : spell parts = spell others) : parts = others := by
  rw [← partsOf_spell divided, same, partsOf_spell proper]

/-- A word character begins the text of the parts just if a word does. -/
theorem wordBeside_head?_spell (divided : Divided parts) :
    wordBeside (spell parts).head? = parts.head?.any isLettered := by
  cases parts with
  | nil => rfl
  | cons part parts =>
      obtain ⟨valid, -, -⟩ := divided_cons.mp divided
      obtain ⟨c, more, same⟩ := List.exists_cons_of_ne_nil valid.1
      rw [spell_cons, same]
      exact isWord_of_mem_text valid (by rw [same]; exact List.mem_cons_self)

theorem wordBeside_getLast?_spell (divided : Divided parts) :
    wordBeside (spell parts).getLast? = parts.getLast?.any isLettered := by
  rcases List.eq_nil_or_concat' parts with rfl | ⟨earlier, part, rfl⟩
  · rfl
  · have valid := divided.valid part (List.mem_append_right _ (List.mem_singleton_self part))
    have last := List.getLast?_eq_some_getLast valid.1
    rw [spell_append, spell_cons, spell_nil, List.append_nil,
      List.getLast?_append_of_ne_nil _ valid.1, last, List.getLast?_concat]
    exact isWord_of_mem_text valid (List.getLast_mem valid.1)

/-- Just a word may not stand in front of a word. -/
theorem apart_lettered (lettered : next.isLettered = true) :
    part.Apart next ↔ part.isLettered = false := by
  cases next with
  | word more => cases part <;> simp [Apart, joined?, isLettered]
  | gap _ => cases lettered
  | mark _ => cases lettered

theorem lettered_apart (lettered : part.isLettered = true) :
    part.Apart next ↔ next.isLettered = false := by
  cases part with
  | word letters => cases next <;> simp [Apart, joined?, isLettered]
  | gap _ => cases lettered
  | mark _ => cases lettered

/-- Parts follow others if both are divided, and may follow each other where they meet. -/
theorem divided_append {more : List Part} : Divided (parts ++ more) ↔
    Divided parts ∧ Divided more ∧
      ∀ part ∈ parts.getLast?, ∀ next ∈ more.head?, part.Apart next := by
  constructor
  · rintro ⟨valid, apart⟩
    obtain ⟨early, late, meet⟩ := List.isChain_append.mp apart
    exact ⟨⟨fun part mem => valid part (List.mem_append_left _ mem), early⟩,
      ⟨fun part mem => valid part (List.mem_append_right _ mem), late⟩, meet⟩
  · rintro ⟨early, late, meet⟩
    refine ⟨fun part mem => ?_, List.isChain_append.mpr ⟨early.apart, late.apart, meet⟩⟩
    rcases List.mem_append.mp mem with here | there
    · exact early.valid part here
    · exact late.valid part there

theorem any_isLettered {found : Option Part} :
    found.any isLettered = false ↔ ∀ part ∈ found, part.isLettered = false := by
  cases found <;> simp

/-- Parts that begin and end with words stand where no word character is beside their text. -/
theorem infix_iff (divided : Divided parts) (proper : Divided middle)
    (begins : ∃ first ∈ middle.head?, first.isLettered = true)
    (ends : ∃ last ∈ middle.getLast?, last.isLettered = true) :
    middle <:+: parts ↔ ∃ front back, spell parts = front ++ (spell middle ++ back) ∧
      wordBeside front.getLast? = false ∧ wordBeside back.head? = false := by
  obtain ⟨first, head, opens⟩ := begins
  obtain ⟨last, final, closes⟩ := ends
  have nonempty : middle ≠ [] := by
    rintro rfl
    cases head
  constructor
  · rintro ⟨early, late, rfl⟩
    rw [List.append_assoc] at divided
    obtain ⟨before, rest, meet⟩ := divided_append.mp divided
    obtain ⟨-, behind, touch⟩ := divided_append.mp rest
    refine ⟨spell early, spell late, by simp, ?_, ?_⟩
    · rw [wordBeside_getLast?_spell before, any_isLettered]
      intro part mem
      refine (apart_lettered opens).mp (meet part mem first ?_)
      rw [List.head?_append_of_ne_nil _ nonempty]
      exact head
    · rw [wordBeside_head?_spell behind, any_isLettered]
      exact fun part mem => (lettered_apart closes).mp (touch last final part mem)
  · rintro ⟨front, back, split, before, behind⟩
    have frontParts := divided_partsOf front
    have backParts := divided_partsOf back
    rw [← spell_partsOf front, wordBeside_getLast?_spell frontParts, any_isLettered] at before
    rw [← spell_partsOf back, wordBeside_head?_spell backParts, any_isLettered] at behind
    have whole : Divided (partsOf front ++ (middle ++ partsOf back)) := by
      refine divided_append.mpr ⟨frontParts, divided_append.mpr ⟨proper, backParts, ?_⟩, ?_⟩
      · intro part mem next other
        rw [Option.mem_unique mem final]
        exact (lettered_apart closes).mpr (behind next other)
      · intro part mem next other
        rw [List.head?_append_of_ne_nil _ nonempty] at other
        rw [Option.mem_unique other head]
        exact (apart_lettered opens).mpr (before part mem)
    have same : parts = partsOf front ++ (middle ++ partsOf back) := by
      rw [← partsOf_spell divided, split, ← partsOf_spell whole, spell_append, spell_append,
        spell_partsOf, spell_partsOf]
    exact ⟨partsOf front, partsOf back, by rw [same, List.append_assoc]⟩

/-- The text as one part, if it is one word or one mark. -/
def single? (text : List Char) : Option Part :=
  match partsOf text with
  | [.word letters] => some (.word letters)
  | [.mark c] => some (.mark c)
  | _ => none

theorem of_single? {text : List Char} (single : single? text = some part) :
    part.text = text ∧ part.Valid ∧ ∀ blanks, part ≠ .gap blanks := by
  have alone (same : partsOf text = [part]) : part.text = text ∧ part.Valid := by
    have whole := spell_partsOf text
    have divided := divided_partsOf text
    rw [same] at whole divided
    exact ⟨by simpa using whole, divided.valid part (List.mem_singleton_self part)⟩
  unfold single? at single
  split at single
  · next letters same =>
      cases single
      exact ⟨(alone same).1, (alone same).2, nofun⟩
  · next c same =>
      cases single
      exact ⟨(alone same).1, (alone same).2, nofun⟩
  · cases single

/-- The words stand next to each other, with the gap between them. -/
def Joins (parts : List Part) (first gap second : List Char) : Prop :=
  [.word first, .gap gap, .word second] <:+: parts

theorem joins_cons : Joins (part :: parts) first gap second ↔
    part = .word first ∧ [.gap gap, .word second] <+: parts ∨ Joins parts first gap second := by
  unfold Joins
  rw [List.infix_cons_iff, List.cons_prefix_cons, eq_comm]

theorem Joins.cons (joins : Joins parts first gap second) (part : Part) :
    Joins (part :: parts) first gap second :=
  joins_cons.mpr (.inr joins)

theorem joins_head (first gap second : List Char) (rest : List Part) :
    Joins (.word first :: .gap gap :: .word second :: rest) first gap second :=
  joins_cons.mpr (.inl ⟨rfl, List.prefix_append [.gap gap, .word second] rest⟩)

theorem joins_plain (plain : part.isLettered = false) :
    Joins (part :: parts) first gap second ↔ Joins parts first gap second := by
  refine joins_cons.trans (or_iff_right ?_)
  rintro ⟨rfl, -⟩
  cases plain

/-- Words stand next to each other where no word character is beside their text. -/
theorem joins_iff (divided : Divided parts) (one : (Part.word first).Valid)
    (between : (Part.gap gap).Valid) (two : (Part.word second).Valid) :
    Joins parts first gap second ↔ ∃ front back,
      spell parts = front ++ ((first ++ (gap ++ second)) ++ back) ∧
        wordBeside front.getLast? = false ∧ wordBeside back.head? = false := by
  have proper : Divided [.word first, .gap gap, .word second] := by
    refine ⟨?_, by simp [Apart, joined?]⟩
    simp [one, between, two]
  have written : spell [.word first, .gap gap, .word second] = first ++ (gap ++ second) := by
    simp [Part.text]
  rw [← written]
  exact infix_iff divided proper ⟨_, rfl, rfl⟩ ⟨_, rfl, rfl⟩

/-- A word stands where no word character is beside it. -/
theorem mem_iff (divided : Divided parts) (one : (Part.word first).Valid) :
    .word first ∈ parts ↔ ∃ front back, spell parts = front ++ (first ++ back) ∧
      wordBeside front.getLast? = false ∧ wordBeside back.head? = false := by
  have proper : Divided [.word first] := ⟨by simp [one], by simp⟩
  have written : spell [.word first] = first := by simp [Part.text]
  have member : .word first ∈ parts ↔ [.word first] <:+: parts := by
    rw [List.mem_iff_append]
    constructor
    · rintro ⟨early, late, rfl⟩
      exact ⟨early, late, by simp⟩
    · rintro ⟨early, late, rfl⟩
      exact ⟨early, late, by simp⟩
  rw [member, infix_iff divided proper ⟨_, rfl, rfl⟩ ⟨_, rfl, rfl⟩, written]

end Part

end PromScribe.Text

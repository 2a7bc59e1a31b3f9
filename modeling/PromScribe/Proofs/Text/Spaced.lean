import PromScribe.Proofs.Text.Rewording
import PromScribe.Proofs.Text.Size

/-!
# Parts with single spaces

A text with single spaces has the parts of the text, but for its gaps: one space stands for each
gap, and for none at the ends. The same words stand next to each other. So it does not matter
whether spaces or other gaps are there when a text is reworded, if what belongs together does so
with one space as well.
-/

namespace PromScribe.Text

namespace Part

variable {parts rest : List Part} {part : Part} {first gap second word : List Char}

/-- Parts that stand behind others, with one space for each gap and none at the end. -/
def spacedBehind : List Part → List Part
  | [] => []
  | .gap _ :: rest => if rest.isEmpty then [] else .gap [' '] :: spacedBehind rest
  | .word letters :: rest => .word letters :: spacedBehind rest
  | .mark c :: rest => .mark c :: spacedBehind rest

/-- The parts with one space for each gap and none at the ends. -/
def spaced : List Part → List Part
  | .gap _ :: rest => spacedBehind rest
  | parts => spacedBehind parts

theorem spacedBehind_cons (noGap : ∀ blanks, part ≠ .gap blanks) (rest : List Part) :
    spacedBehind (part :: rest) = part :: spacedBehind rest := by
  cases part with
  | word letters => rfl
  | gap blanks => exact absurd rfl (noGap blanks)
  | mark c => rfl

theorem spacedBehind_gap (nonempty : rest ≠ []) :
    spacedBehind (.gap gap :: rest) = .gap [' '] :: spacedBehind rest := by
  rw [spacedBehind, if_neg (by simpa using nonempty)]

/-- The first parts are alike. -/
theorem apart_spacedBehind {next : Part} (mem : next ∈ (spacedBehind parts).head?) :
    ∃ other ∈ parts.head?, ∀ part : Part, part.Apart other → part.Apart next := by
  cases parts with
  | nil => cases mem
  | cons other rest =>
      refine ⟨other, rfl, fun part apart => ?_⟩
      cases other with
      | word letters =>
          cases mem
          exact apart
      | mark c =>
          cases mem
          exact apart
      | gap blanks =>
          unfold spacedBehind at mem
          split at mem
          · cases mem
          · cases mem
            cases part with
            | word letters => rfl
            | gap more => cases apart
            | mark c => rfl

theorem valid_space : (Part.gap [' ']).Valid :=
  valid_gap.mpr ⟨List.cons_ne_nil ' ' [], List.forall_mem_singleton.mpr (by decide)⟩

theorem divided_spacedBehind (divided : Divided parts) : Divided (spacedBehind parts) := by
  induction parts with
  | nil => exact divided
  | cons part rest ih =>
      obtain ⟨valid, apart, later⟩ := divided_cons.mp divided
      have meets {next : Part} (mem : next ∈ (spacedBehind rest).head?) : part.Apart next := by
        obtain ⟨other, first, alike⟩ := apart_spacedBehind mem
        exact alike part (apart other first)
      cases part with
      | word letters => exact divided_cons.mpr ⟨valid, fun next mem => meets mem, ih later⟩
      | mark c => exact divided_cons.mpr ⟨valid, fun next mem => meets mem, ih later⟩
      | gap blanks =>
          unfold spacedBehind
          split
          · exact ⟨nofun, .nil⟩
          · refine divided_cons.mpr ⟨valid_space, fun next mem => ?_, ih later⟩
            have behind := meets mem
            cases next with
            | word letters => rfl
            | gap more => cases behind
            | mark c => rfl

theorem divided_spaced (divided : Divided parts) : Divided (spaced parts) := by
  unfold spaced
  split
  · exact divided_spacedBehind (divided_cons.mp divided).2.2
  · exact divided_spacedBehind divided

theorem words_gap {blanks text : List Char} (white : ∀ c ∈ blanks, isBlank c = true) :
    words (blanks ++ text) = words text := by
  unfold words
  induction blanks with
  | nil => rfl
  | cons c blanks ih =>
      have here := white c List.mem_cons_self
      rw [List.cons_append, wordsFrom, if_pos here, if_pos (by rfl)]
      exact ih fun d mem => white d (List.mem_cons_of_mem c mem)

/-- A gap in front of a text ends the open run. -/
theorem wordsFrom_gap {blanks run text : List Char} (valid : (Part.gap blanks).Valid)
    (open_ : run ≠ []) : wordsFrom run (blanks ++ text) = run.reverse :: words text := by
  obtain ⟨nonempty, white⟩ := valid_gap.mp valid
  obtain ⟨c, more, rfl⟩ := List.exists_cons_of_ne_nil nonempty
  obtain ⟨here, others⟩ := List.forall_mem_cons.mp white
  have fresh : words (more ++ text) = words text := words_gap others
  unfold words at fresh
  rw [List.cons_append, wordsFrom, if_pos here, if_neg (by simpa using open_), fresh]
  rfl

/-- Runs of a text are put together with spaces as its parts are, behind the open run. -/
theorem intercalate_wordsFrom (divided : Divided parts) (run : List Char)
    (opens : run = [] → ∀ blanks, parts.head? ≠ some (.gap blanks)) :
    List.intercalate [' '] (wordsFrom run (spell parts)) =
      run.reverse ++ spell (spacedBehind parts) := by
  induction parts generalizing run with
  | nil =>
      rw [spell_nil, wordsFrom]
      split
      · next closed => simp [List.isEmpty_iff.mp closed, spacedBehind]
      · simp [spacedBehind]
  | cons part rest ih =>
      obtain ⟨valid, apart, later⟩ := divided_cons.mp divided
      have goesOn (noGap : ∀ blanks, part ≠ .gap blanks) :
          List.intercalate [' '] (wordsFrom run (spell (part :: rest))) =
            run.reverse ++ spell (spacedBehind (part :: rest)) := by
        have unbroken : ∀ c ∈ part.text, isBlank c = false := fun c mem =>
          isBlank_of_mem_text valid noGap mem
        have longer : part.text.reverse ++ run ≠ [] := by simp [valid.1]
        rw [spell_cons, wordsFrom_append run (spell rest) unbroken, ih later _ fun none =>
          absurd none longer, spacedBehind_cons noGap, spell_cons]
        simp
      cases part with
      | word letters => exact goesOn (by rintro blanks ⟨⟩)
      | mark c => exact goesOn (by rintro blanks ⟨⟩)
      | gap blanks =>
          have open_ : run ≠ [] := fun none => opens none blanks rfl
          have noGap : ∀ more, rest.head? ≠ some (.gap more) := fun more head => by
            cases apart _ head
          have behind := ih later [] fun _ => noGap
          rw [spell_cons, Part.text, wordsFrom_gap valid open_]
          cases rest with
          | nil => simp [spacedBehind, words, wordsFrom]
          | cons next more =>
              -- Something that is not blank follows, so that a space stands in between.
              have nextValid := (divided_cons.mp later).1
              obtain ⟨c, mem⟩ := List.exists_mem_of_ne_nil _ nextValid.1
              have close := isBlank_of_mem_text nextValid (fun more same => noGap more
                (congrArg some same)) mem
              have within : c ∈ spell (next :: more) := List.mem_append_left _ mem
              obtain ⟨word, member, -⟩ := exists_mem_wordsFrom close (.inr within : c ∈ [] ∨ _)
              have some_word : words (spell (next :: more)) ≠ [] := List.ne_nil_of_mem member
              rw [List.intercalate_cons_of_ne_nil some_word,
                spacedBehind_gap (List.cons_ne_nil next more), words, behind]
              simp [Part.text]

/-- The parts of a text with single spaces. -/
theorem spell_spaced (divided : Divided parts) :
    spell (spaced parts) = singleSpaced (spell parts) := by
  have inFront {rest : List Part} (divided : Divided rest)
      (noGap : ∀ blanks, rest.head? ≠ some (.gap blanks)) :
      spell (spacedBehind rest) = singleSpaced (spell rest) :=
    (intercalate_wordsFrom divided [] fun _ => noGap).symm
  unfold spaced
  split
  · next blanks rest =>
      obtain ⟨valid, apart, later⟩ := divided_cons.mp divided
      have dropped : singleSpaced (spell (.gap blanks :: rest)) = singleSpaced (spell rest) := by
        unfold singleSpaced
        rw [spell_cons, Part.text, words_gap (valid_gap.mp valid).2]
      rw [dropped]
      refine inFront later fun more head => ?_
      cases apart _ head
  · next noGap =>
      refine inFront divided fun blanks head => ?_
      obtain ⟨rest, rfl⟩ := List.head?_eq_some_iff.mp head
      exact noGap blanks rest rfl

theorem spaced_spaced (divided : Divided parts) : spaced (spaced parts) = spaced parts := by
  have once := divided_spaced divided
  refine eq_of_spell_eq (divided_spaced once) once ?_
  rw [spell_spaced once, spell_spaced divided, singleSpaced_singleSpaced]

/-- Single spaces put a word behind a gap where one was. -/
theorem followed_spacedBehind : [.gap gap, .word second] <+: spacedBehind parts ↔
    gap = [' '] ∧ ∃ blanks, [.gap blanks, .word second] <+: parts := by
  cases parts with
  | nil => simp [spacedBehind]
  | cons part rest =>
      cases part with
      | word letters => simp [spacedBehind]
      | mark c => simp [spacedBehind]
      | gap blanks =>
          cases rest with
          | nil => simp [spacedBehind]
          | cons next more =>
              rw [spacedBehind_gap (List.cons_ne_nil next more)]
              cases next with
              | word letters => simp [spacedBehind, List.cons_prefix_cons]
              | mark c => simp [spacedBehind, List.cons_prefix_cons]
              | gap others =>
                  unfold spacedBehind
                  split <;> simp [List.cons_prefix_cons]

/-- With single spaces the same words stand next to each other, with a space between them. -/
theorem joins_spacedBehind : Joins (spacedBehind parts) first gap second ↔
    gap = [' '] ∧ ∃ blanks, Joins parts first blanks second := by
  induction parts with
  | nil => simp [spacedBehind, Joins]
  | cons part rest ih =>
      cases part with
      | word letters =>
          simp only [spacedBehind, joins_cons, followed_spacedBehind, ih, exists_or,
            exists_and_left, and_or_left]
          rw [and_left_comm]
      | mark c =>
          have same {blanks : List Char} : Joins (.mark c :: rest) first blanks second ↔
              Joins rest first blanks second := joins_plain rfl
          rw [spacedBehind, joins_plain rfl, ih]
          simp only [same]
      | gap white =>
          have same {blanks : List Char} : Joins (.gap white :: rest) first blanks second ↔
              Joins rest first blanks second := joins_plain rfl
          simp only [same]
          cases rest with
          | nil => simp [spacedBehind, Joins]
          | cons next more =>
              rw [spacedBehind_gap (List.cons_ne_nil next more), joins_plain rfl, ih]

theorem joins_spaced : Joins (spaced parts) first gap second ↔
    gap = [' '] ∧ ∃ blanks, Joins parts first blanks second := by
  unfold spaced
  split
  · next white rest =>
      have same {blanks : List Char} : Joins (.gap white :: rest) first blanks second ↔
          Joins rest first blanks second := joins_plain rfl
      simp only [same]
      exact joins_spacedBehind
  · exact joins_spacedBehind

theorem mem_spacedBehind : .word word ∈ spacedBehind parts ↔ .word word ∈ parts := by
  induction parts with
  | nil => rfl
  | cons part rest ih =>
      cases part with
      | word letters => simp [spacedBehind, ih]
      | mark c => simp [spacedBehind, ih]
      | gap white =>
          cases rest with
          | nil => simp [spacedBehind]
          | cons next more =>
              rw [spacedBehind_gap (List.cons_ne_nil next more), List.mem_cons, ih]
              simp

theorem mem_spaced : .word word ∈ spaced parts ↔ .word word ∈ parts := by
  unfold spaced
  split
  · simp [mem_spacedBehind]
  · exact mem_spacedBehind

end Part

open PromScribe.Text.Part

namespace Rewording

variable {rewording : Rewording} {parts : List Part}

/-- Words that belong together do so with one space between them, and others do not. -/
def Spaceless (rewording : Rewording) (parts : List Part) : Prop :=
  ∀ first gap second, Joins parts first gap second →
    rewording.joint first [' '] second = rewording.joint first gap second

theorem Spaceless.tail {part : Part} (spaceless : rewording.Spaceless (part :: parts)) :
    rewording.Spaceless parts :=
  fun first gap second joins => spaceless first gap second (joins.cons part)

theorem apply_ne_nil (nonempty : parts ≠ []) : rewording.apply parts ≠ [] := by
  induction parts using rewording.induction with
  | nil => exact absurd rfl nonempty
  | joint first gap second part rest written ih =>
      rw [apply_joint written]
      exact List.cons_ne_nil part _
  | lone word rest lone ih =>
      rw [apply_lone lone]
      exact List.cons_ne_nil _ _
  | plain part rest plain ih =>
      rw [apply_plain plain]
      exact List.cons_ne_nil part _

/-- It does not matter whether a text has single spaces before it is reworded. -/
theorem apply_spacedBehind (spaceless : rewording.Spaceless parts) :
    rewording.apply (spacedBehind parts) = spacedBehind (rewording.apply parts) := by
  induction parts using rewording.induction with
  | nil => rfl
  | joint first gap second part rest written ih =>
      have spaced : rewording.joint first [' '] second = some part := by
        rw [spaceless first gap second (joins_head first gap second rest), written]
      have shape : spacedBehind (.word first :: .gap gap :: .word second :: rest) =
          .word first :: .gap [' '] :: .word second :: spacedBehind rest := rfl
      rw [shape, apply_joint spaced, apply_joint written, ih spaceless.tail.tail.tail,
        spacedBehind_cons (rewording.joint_valid written).2]
  | lone word rest lone ih =>
      have loneSpaced : rewording.Lone word (spacedBehind rest) := by
        intro gap second more same
        have followed : [.gap gap, .word second] <+: spacedBehind rest := ⟨more, same.symm⟩
        obtain ⟨rfl, blanks, tail, rfl⟩ := followed_spacedBehind.mp followed
        rw [spaceless word blanks second (joins_head word blanks second tail)]
        exact lone blanks second tail rfl
      rw [spacedBehind, apply_lone loneSpaced, apply_lone lone, ih spaceless.tail]
      rfl
  | plain part rest plain ih =>
      have behind := ih spaceless.tail
      rw [apply_plain plain]
      cases part with
      | word letters => cases plain
      | mark c =>
          rw [spacedBehind, spacedBehind, apply_plain rfl, behind]
      | gap blanks =>
          cases rest with
          | nil => rfl
          | cons next more =>
              have nonempty : next :: more ≠ [] := List.cons_ne_nil next more
              rw [spacedBehind_gap nonempty, spacedBehind_gap (apply_ne_nil nonempty),
                apply_plain rfl, behind]

theorem apply_spaced (spaceless : rewording.Spaceless parts) :
    rewording.apply (spaced parts) = spaced (rewording.apply parts) := by
  unfold spaced
  split
  · rw [apply_plain rfl]
    exact apply_spacedBehind spaceless.tail
  · next noGap =>
      rw [apply_spacedBehind spaceless]
      split
      · next blanks rest same =>
          have head := head?_of_apply_gap (congrArg List.head? same)
          obtain ⟨more, rfl⟩ := List.head?_eq_some_iff.mp head
          exact absurd rfl (noGap blanks more)
      · rfl

/-- Nor does it matter before it is reworded in one way after the other, if what is reworded stays
of a kind for which it does not. -/
theorem applyAll_spaced {kind : List Part → Prop} {rewordings : List Rewording}
    (keeps : ∀ rewording ∈ rewordings, ∀ parts, kind parts →
      rewording.Spaceless parts ∧ kind (rewording.apply parts)) (holds : kind parts) :
    applyAll rewordings (spaced parts) = spaced (applyAll rewordings parts) := by
  induction rewordings generalizing parts with
  | nil => rfl
  | cons rewording rewordings ih =>
      obtain ⟨here, later⟩ := List.forall_mem_cons.mp keeps
      obtain ⟨spaceless, still⟩ := here parts holds
      have behind := ih later still
      rw [← apply_spaced spaceless] at behind
      exact behind

end Rewording

end PromScribe.Text

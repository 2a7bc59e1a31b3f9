import PromScribe.Proofs.Text.Part

/-!
# Rewording a text part by part

What is written for words depends on them and on the gap between two of them. So a text is reworded
part by part: two words that belong together become one part, every other word is looked at alone,
and gaps and marks stay. Two words that stand next to each other afterwards stood there before,
unless one of them was written.
-/

namespace PromScribe.Text

open PromScribe.Text.Part

/-- What is written in place of two words with a gap between them, and in place of a word alone. -/
structure Rewording where
  joint : List Char → List Char → List Char → Option Part
  alone : List Char → List Char
  joint_nil : ∀ first gap, joint first gap [] = none
  joint_valid : ∀ {first gap second part}, joint first gap second = some part →
    part.Valid ∧ ∀ blanks, part ≠ .gap blanks
  alone_valid : ∀ {word}, (Part.word word).Valid → (Part.word (alone word)).Valid

namespace Rewording

variable {rewording : Rewording} {parts rest : List Part} {part : Part}
variable {first gap second word : List Char}

/-- The parts with what is written for them, from left to right. -/
def apply (rewording : Rewording) : List Part → List Part
  | .word first :: .gap blanks :: .word second :: rest =>
      match rewording.joint first blanks second with
      | some part => part :: rewording.apply rest
      | none =>
          .word (rewording.alone first) :: rewording.apply (.gap blanks :: .word second :: rest)
  | .word first :: rest => .word (rewording.alone first) :: rewording.apply rest
  | part :: rest => part :: rewording.apply rest
  | [] => []

/-- The word does not belong together with one behind it. -/
def Lone (rewording : Rewording) (word : List Char) (rest : List Part) : Prop :=
  ∀ gap second more, rest = .gap gap :: .word second :: more →
    rewording.joint word gap second = none

theorem apply_joint (written : rewording.joint first gap second = some part) :
    rewording.apply (.word first :: .gap gap :: .word second :: rest) =
      part :: rewording.apply rest := by
  rw [apply, written]

theorem apply_lone (lone : rewording.Lone word rest) :
    rewording.apply (.word word :: rest) =
      .word (rewording.alone word) :: rewording.apply rest := by
  by_cases followed : ∃ gap second more, rest = .gap gap :: .word second :: more
  · obtain ⟨gap, second, more, rfl⟩ := followed
    rw [apply, lone gap second more rfl]
  · rw [apply]
    exact fun gap second more same => followed ⟨gap, second, more, same⟩

theorem apply_plain (plain : part.isLettered = false) (rest : List Part) :
    rewording.apply (part :: rest) = part :: rewording.apply rest := by
  cases part with
  | word letters => cases plain
  | gap blanks => rfl
  | mark c => rfl

/-- Parts are looked at as they are reworded. -/
theorem induction (rewording : Rewording) {motive : List Part → Prop} (nil : motive [])
    (joint : ∀ first gap second part rest, rewording.joint first gap second = some part →
      motive rest → motive (.word first :: .gap gap :: .word second :: rest))
    (lone : ∀ word rest, rewording.Lone word rest → motive rest → motive (.word word :: rest))
    (plain : ∀ part rest, part.isLettered = false → motive rest → motive (part :: rest))
    (parts : List Part) : motive parts := by
  fun_induction apply rewording parts with
  | case1 first gap second rest part written ih => exact joint first gap second part rest written ih
  | case2 first gap second rest unwritten ih =>
      refine lone _ _ (fun _ _ _ same => ?_) ih
      cases same
      exact unwritten
  | case3 first rest other ih =>
      exact lone _ _ (fun gap second more same => absurd same (other gap second more)) ih
  | case4 part rest _ other ih =>
      refine plain part rest ?_ ih
      cases part with
      | word letters => exact absurd rfl (other letters)
      | gap blanks => rfl
      | mark c => rfl
  | case5 => exact nil

/-- Parts that begin with no word begin as before. -/
theorem head?_apply (outside : parts.head?.any isLettered = false) :
    (rewording.apply parts).head? = parts.head? := by
  cases parts with
  | nil => rfl
  | cons part rest =>
      have plain : part.isLettered = false := outside
      rw [apply_plain plain]
      rfl

/-- No gap is written. -/
theorem head?_of_apply_gap (begins : (rewording.apply parts).head? = some (.gap gap)) :
    parts.head? = some (.gap gap) := by
  induction parts using rewording.induction with
  | nil => cases begins
  | joint first blanks second part rest written ih =>
      rw [apply_joint written] at begins
      exact absurd (Option.some.inj begins) ((rewording.joint_valid written).2 gap)
  | lone word rest lone ih =>
      rw [apply_lone lone] at begins
      cases begins
  | plain part rest plain ih =>
      rw [apply_plain plain] at begins
      exact begins

theorem apart_of_plain {next : Part} (noGap : ∀ blanks, part ≠ .gap blanks)
    (plain : next.isLettered = false) : part.Apart next := by
  cases part with
  | word letters => exact (lettered_apart rfl).mpr plain
  | gap blanks => exact absurd rfl (noGap blanks)
  | mark c => rfl

theorem plain_apart {next : Part} (plain : part.isLettered = false)
    (noGap : ∀ blanks, next ≠ .gap blanks) : part.Apart next := by
  cases next with
  | word letters => exact (apart_lettered rfl).mpr plain
  | gap blanks => exact absurd rfl (noGap blanks)
  | mark c => cases part <;> rfl

/-- Behind a word there is none. -/
theorem plain_of_divided (divided : Divided (.word word :: rest)) :
    rest.head?.any isLettered = false := by
  obtain ⟨-, apart, -⟩ := divided_cons.mp divided
  exact any_isLettered.mpr fun next mem => (lettered_apart rfl).mp (apart next mem)

theorem divided_apply (divided : Divided parts) : Divided (rewording.apply parts) := by
  -- What is written in front of no word may stand there, for what follows begins as before.
  have before {part : Part} {rest : List Part} (valid : part.Valid)
      (noGap : ∀ blanks, part ≠ .gap blanks) (outside : rest.head?.any isLettered = false)
      (later : Divided (rewording.apply rest)) : Divided (part :: rewording.apply rest) := by
    refine divided_cons.mpr ⟨valid, ?_, later⟩
    rw [head?_apply outside]
    exact fun next mem => apart_of_plain noGap (any_isLettered.mp outside next mem)
  induction parts using rewording.induction with
  | nil => exact divided
  | joint first blanks second part rest written ih =>
      obtain ⟨-, -, behind⟩ := divided_cons.mp divided
      obtain ⟨-, -, last⟩ := divided_cons.mp behind
      obtain ⟨valid, noGap⟩ := rewording.joint_valid written
      rw [apply_joint written]
      exact before valid noGap (plain_of_divided last) (ih (divided_cons.mp last).2.2)
  | lone word rest lone ih =>
      obtain ⟨valid, -, later⟩ := divided_cons.mp divided
      rw [apply_lone lone]
      exact before (rewording.alone_valid valid) nofun (plain_of_divided divided) (ih later)
  | plain part rest plain ih =>
      obtain ⟨valid, apart, later⟩ := divided_cons.mp divided
      rw [apply_plain plain]
      refine divided_cons.mpr ⟨valid, fun next mem => ?_, ih later⟩
      cases next with
      | gap blanks => exact apart _ (head?_of_apply_gap mem)
      | word letters => exact plain_apart plain nofun
      | mark c => exact plain_apart plain nofun

/-- The word is not written for others. -/
structure Unwritten (rewording : Rewording) (word : List Char) : Prop where
  joint : ∀ first gap second, rewording.joint first gap second ≠ some (.word word)
  alone : ∀ other, rewording.alone other = word → other = word

theorem head?_of_apply_word (unwritten : rewording.Unwritten word)
    (begins : (rewording.apply parts).head? = some (.word word)) :
    parts.head? = some (.word word) := by
  induction parts using rewording.induction with
  | nil => cases begins
  | joint first blanks second part rest written ih =>
      rw [apply_joint written] at begins
      obtain rfl := Option.some.inj begins
      exact absurd written (unwritten.joint first blanks second)
  | lone other rest lone ih =>
      rw [apply_lone lone] at begins
      have same : rewording.alone other = word := Part.word.inj (Option.some.inj begins)
      rw [unwritten.alone other same]
      rfl
  | plain part rest plain ih =>
      rw [apply_plain plain] at begins
      exact begins

/-- A gap and a word that is not written follow what they followed. -/
theorem followed_of_apply (unwritten : rewording.Unwritten second)
    (followed : [.gap gap, .word second] <+: rewording.apply parts) :
    [.gap gap, .word second] <+: parts := by
  obtain ⟨tail, same⟩ := followed
  obtain ⟨rest, rfl⟩ :=
    List.head?_eq_some_iff.mp (head?_of_apply_gap (by rw [← same]; rfl))
  rw [apply_plain rfl] at same
  have begins : (rewording.apply rest).head? = some (.word second) := by
    rw [← (List.cons.inj same).2]
    rfl
  obtain ⟨more, rfl⟩ := List.head?_eq_some_iff.mp (head?_of_apply_word unwritten begins)
  exact ⟨more, rfl⟩

/-- Words that are not written stood next to each other before, and did not belong together. -/
theorem joins_of_apply (one : rewording.Unwritten first) (two : rewording.Unwritten second)
    (joins : Joins (rewording.apply parts) first gap second) :
    Joins parts first gap second ∧ rewording.joint first gap second = none := by
  induction parts using rewording.induction with
  | nil => exact absurd joins (by simp [Joins, apply])
  | joint other blanks another part rest written ih =>
      rw [apply_joint written] at joins
      rcases joins_cons.mp joins with ⟨rfl, -⟩ | later
      · exact absurd written (one.joint other blanks another)
      · exact (ih later).imp_left fun there => ((there.cons _).cons _).cons _
  | lone word rest lone ih =>
      rw [apply_lone lone] at joins
      rcases joins_cons.mp joins with ⟨same, followed⟩ | later
      · obtain rfl := one.alone word (Part.word.inj same)
        obtain ⟨tail, rfl⟩ := followed_of_apply two followed
        exact ⟨joins_head _ _ second tail, lone gap second tail rfl⟩
      · exact (ih later).imp_left fun there => there.cons _
  | plain part rest plain ih =>
      rw [apply_plain plain, joins_plain plain] at joins
      exact (ih joins).imp_left fun there => there.cons _

/-- The word stays as it is, and belongs together with none in front of it. -/
structure EndsNone (rewording : Rewording) (word : List Char) : Prop where
  alone : rewording.alone word = word
  joint : ∀ first gap, rewording.joint first gap word = none

/-- The word stays as it is, and belongs together with none behind it. -/
structure StartsNone (rewording : Rewording) (word : List Char) : Prop where
  alone : rewording.alone word = word
  joint : ∀ gap second, rewording.joint word gap second = none

/-- Words next to each other stay there where they do not belong together, and neither belongs
together with its other neighbour. -/
theorem joins_apply (one : rewording.EndsNone first) (two : rewording.StartsNone second)
    (apart : rewording.joint first gap second = none) (joins : Joins parts first gap second) :
    Joins (rewording.apply parts) first gap second := by
  induction parts using rewording.induction with
  | nil => exact absurd joins (by simp [Joins])
  | joint other blanks another part rest written ih =>
      rw [apply_joint written]
      rcases joins_cons.mp joins with ⟨same, followed⟩ | behind
      · obtain ⟨tail, same_rest⟩ := followed
        cases same
        cases same_rest
        rw [apart] at written
        cases written
      · rw [joins_plain rfl] at behind
        rcases joins_cons.mp behind with ⟨same, -⟩ | later
        · cases same
          rw [one.joint] at written
          cases written
        · exact (ih later).cons part
  | lone word rest lone ih =>
      rw [apply_lone lone]
      rcases joins_cons.mp joins with ⟨same, tail, rfl⟩ | later
      · cases same
        have goes_on : rewording.apply (.gap gap :: .word second :: tail) =
            .gap gap :: .word second :: rewording.apply tail := by
          rw [apply_plain rfl, apply_lone fun gap word _ _ => two.joint gap word, two.alone]
        exact joins_cons.mpr (.inl ⟨by rw [one.alone], rewording.apply tail, goes_on.symm⟩)
      · exact (ih later).cons _
  | plain part rest plain ih =>
      rw [apply_plain plain, joins_plain plain]
      exact ih ((joins_plain plain).mp joins)

/-- Where no words belong together and every word stays as it is, so do the parts. -/
theorem apply_eq_self
    (apart : ∀ first gap second, Joins parts first gap second →
      rewording.joint first gap second = none)
    (alone : ∀ word, .word word ∈ parts → rewording.alone word = word) :
    rewording.apply parts = parts := by
  induction parts using rewording.induction with
  | nil => rfl
  | joint first blanks second part rest written ih =>
      have none_written := apart first blanks second (joins_head first blanks second rest)
      rw [none_written] at written
      cases written
  | lone word rest lone ih =>
      have later := ih (fun first gap second joins => apart first gap second (joins.cons _))
        fun other mem => alone other (List.mem_cons_of_mem _ mem)
      rw [apply_lone lone, alone word List.mem_cons_self, later]
  | plain part rest plain ih =>
      have later := ih (fun first gap second joins => apart first gap second (joins.cons _))
        fun other mem => alone other (List.mem_cons_of_mem _ mem)
      rw [apply_plain plain, later]

/-- A word afterwards was written for two words, or for one alone. -/
theorem of_mem_apply (mem : .word word ∈ rewording.apply parts) :
    (∃ first gap second, rewording.joint first gap second = some (.word word)) ∨
      ∃ other, .word other ∈ parts ∧ rewording.alone other = word := by
  induction parts using rewording.induction with
  | nil => cases mem
  | joint first blanks second part rest written ih =>
      rw [apply_joint written] at mem
      rcases List.mem_cons.mp mem with rfl | later
      · exact .inl ⟨first, blanks, second, written⟩
      · refine (ih later).imp_right ?_
        rintro ⟨other, there, same⟩
        exact ⟨other, by simp [there], same⟩
  | lone other rest lone ih =>
      rw [apply_lone lone] at mem
      rcases List.mem_cons.mp mem with same | later
      · exact .inr ⟨other, List.mem_cons_self, (Part.word.inj same).symm⟩
      · refine (ih later).imp_right ?_
        rintro ⟨other, there, same⟩
        exact ⟨other, List.mem_cons_of_mem _ there, same⟩
  | plain part rest plain ih =>
      rw [apply_plain plain] at mem
      rcases List.mem_cons.mp mem with rfl | later
      · cases plain
      · refine (ih later).imp_right ?_
        rintro ⟨other, there, same⟩
        exact ⟨other, List.mem_cons_of_mem _ there, same⟩

/-- Words that stay next to each other where they do not belong together, and come to stand there
in no other way. -/
structure Keeps (rewording : Rewording) (first second : List Char) : Prop where
  before : rewording.EndsNone first
  behind : rewording.StartsNone second
  unwritten : rewording.Unwritten first ∧ rewording.Unwritten second

theorem joins_apply_iff (keeps : rewording.Keeps first second) :
    Joins (rewording.apply parts) first gap second ↔
      Joins parts first gap second ∧ rewording.joint first gap second = none := by
  constructor
  · exact joins_of_apply keeps.unwritten.1 keeps.unwritten.2
  · rintro ⟨joins, apart⟩
    exact joins_apply keeps.before keeps.behind apart joins

section InTurn

variable {rewordings : List Rewording}

/-- The parts reworded in one way after the other. -/
def applyAll (rewordings : List Rewording) (parts : List Part) : List Part :=
  rewordings.foldl (fun parts rewording => rewording.apply parts) parts

theorem applyAll_append (earlier later : List Rewording) (parts : List Part) :
    applyAll (earlier ++ later) parts = applyAll later (applyAll earlier parts) :=
  List.foldl_append

theorem divided_applyAll (divided : Divided parts) : Divided (applyAll rewordings parts) := by
  induction rewordings generalizing parts with
  | nil => exact divided
  | cons rewording rewordings ih => exact ih (divided_apply divided)

theorem joins_applyAll_iff (keeps : ∀ rewording ∈ rewordings, rewording.Keeps first second) :
    Joins (applyAll rewordings parts) first gap second ↔
      Joins parts first gap second ∧
        ∀ rewording ∈ rewordings, rewording.joint first gap second = none := by
  induction rewordings generalizing parts with
  | nil => simp [applyAll]
  | cons rewording rewordings ih =>
      obtain ⟨here, later⟩ := List.forall_mem_cons.mp keeps
      have behind : Joins (applyAll (rewording :: rewordings) parts) first gap second ↔ _ :=
        ih later
      rw [behind, joins_apply_iff here, and_assoc, List.forall_mem_cons]

/-- Parts in which nothing is to be reworded stay as they are. -/
theorem applyAll_eq_self (settled : ∀ rewording ∈ rewordings, rewording.apply parts = parts) :
    applyAll rewordings parts = parts := by
  induction rewordings with
  | nil => rfl
  | cons rewording rewordings ih =>
      obtain ⟨here, later⟩ := List.forall_mem_cons.mp settled
      unfold applyAll at ih ⊢
      rw [List.foldl_cons, here, ih later]

end InTurn

section Sweeping

variable {α : Type} {recognise : Recogniser α} {written : α → List Char} {before : Option Char}

/-- The recogniser accepts the words that belong together, and those that do not stay alone. -/
structure Agrees (rewording : Rewording) (recognise : Recogniser α) (written : α → List Char) :
    Prop where
  starts : StartsWords recognise
  joint : ∀ {before word rest part}, wordBeside before = false → (Part.word word).Valid →
    wordBeside rest.head? = false →
    rewording.joint word (rest.takeWhile isBlank) (nextWord rest) = some part →
      ∃ value, written value = part.text ∧ recognise before (word ++ rest) =
        some ⟨(word ++ (rest.takeWhile isBlank ++ nextWord rest)).length - 1, value⟩
  alone : ∀ {before word rest}, wordBeside before = false → (Part.word word).Valid →
    wordBeside rest.head? = false →
    rewording.joint word (rest.takeWhile isBlank) (nextWord rest) = none →
      recognise before (word ++ rest) = none ∧ rewording.alone word = word ∨
        ∃ value, written value = rewording.alone word ∧
          recognise before (word ++ rest) = some ⟨word.length - 1, value⟩

/-- The first part, if it is a word. -/
def headWord : List Part → List Char
  | .word letters :: _ => letters
  | _ => []

theorem takeWhile_spell (divided : Divided parts) :
    (spell parts).takeWhile isWord = headWord parts := by
  have unbegun (outside : parts.head?.any isLettered = false) :
      ([] ++ spell parts).takeWhile isWord = [] :=
    takeWhile_run nofun ((wordBeside_head?_spell divided).trans outside)
  cases parts with
  | nil => rfl
  | cons part rest =>
      cases part with
      | word letters =>
          obtain ⟨valid, -, later⟩ := divided_cons.mp divided
          have ends := wordBeside_head?_spell later
          rw [plain_of_divided divided] at ends
          exact takeWhile_run valid.2 ends
      | gap blanks => exact unbegun rfl
      | mark c => exact unbegun rfl

/-- No gap follows a gap. -/
theorem isBlank_head?_spell (divided : Divided (.gap gap :: rest)) :
    (spell rest).head?.any isBlank = false := by
  obtain ⟨-, apart, later⟩ := divided_cons.mp divided
  cases rest with
  | nil => rfl
  | cons part rest =>
      have valid := (divided_cons.mp later).1
      have noGap : ∀ blanks, part ≠ .gap blanks := by
        rintro blanks rfl
        cases apart _ rfl
      obtain ⟨c, more, same⟩ := List.exists_cons_of_ne_nil valid.1
      rw [spell_cons, same]
      exact isBlank_of_mem_text valid noGap (by rw [same]; exact List.mem_cons_self)

theorem takeWhile_isBlank_gap (divided : Divided (.gap gap :: rest)) :
    (spell (.gap gap :: rest)).takeWhile isBlank = gap ∧
      nextWord (spell (.gap gap :: rest)) = headWord rest := by
  obtain ⟨valid, -, later⟩ := divided_cons.mp divided
  have blanks := (valid_gap.mp valid).2
  have stops := isBlank_head?_spell divided
  unfold nextWord
  rw [spell_cons, Part.text, takeWhile_run blanks stops, dropWhile_run blanks stops]
  exact ⟨rfl, takeWhile_spell later⟩

/-- A word that belongs together with none behind it does not belong together with what follows. -/
theorem joint_eq_none_of_lone (divided : Divided (.word word :: rest))
    (lone : rewording.Lone word rest) :
    rewording.joint word ((spell rest).takeWhile isBlank) (nextWord (spell rest)) = none := by
  obtain ⟨-, -, later⟩ := divided_cons.mp divided
  have unfollowed (none_ahead : nextWord (spell rest) = []) :
      rewording.joint word ((spell rest).takeWhile isBlank) (nextWord (spell rest)) = none := by
    rw [none_ahead]
    exact rewording.joint_nil _ _
  cases rest with
  | nil => exact unfollowed rfl
  | cons part rest =>
      cases part with
      | word letters => cases plain_of_divided divided
      | mark c =>
          have neither := holds_mark.mp ((divided_cons.mp later).1.2 c List.mem_cons_self)
          refine unfollowed ?_
          unfold nextWord
          rw [spell_cons, Part.text, List.singleton_append,
            List.dropWhile_cons_of_neg (by simp [neither]),
            List.takeWhile_cons_of_neg (by simp [neither])]
      | gap gap =>
          obtain ⟨blanks, next⟩ := takeWhile_isBlank_gap later
          cases rest with
          | nil => exact unfollowed next
          | cons part more =>
              cases part with
              | word second =>
                  rw [blanks, next]
                  exact lone gap second more rfl
              | gap _ => exact unfollowed next
              | mark _ => exact unfollowed next

/-- A sweep that agrees with a rewording writes the reworded parts. -/
theorem Agrees.flatMap_sweepFrom (agrees : rewording.Agrees recognise written)
    {emit : Piece α → List Char} (plain : ∀ c, emit (.plain c) = [c])
    (hit : ∀ text value, emit (.hit text value) = written value) (divided : Divided parts)
    (outside : wordBeside before = false) :
    (sweepFrom recognise before 0 (spell parts)).flatMap emit = spell (rewording.apply parts) := by
  induction parts using rewording.induction generalizing before with
  | nil => rfl
  | joint first gap second part rest joint ih =>
      obtain ⟨one, -, behind⟩ := divided_cons.mp divided
      obtain ⟨blanks, -, last⟩ := divided_cons.mp behind
      obtain ⟨two, -, later⟩ := divided_cons.mp last
      have closed : wordBeside (spell (.gap gap :: .word second :: rest)).head? = false := by
        rw [wordBeside_head?_spell behind]
        rfl
      have ends : wordBeside (spell rest).head? = false := by
        rw [wordBeside_head?_spell later, plain_of_divided last]
      obtain ⟨taken, next⟩ := takeWhile_isBlank_gap behind
      have together : rewording.joint first ((spell (.gap gap :: .word second :: rest)).takeWhile
          isBlank) (nextWord (spell (.gap gap :: .word second :: rest))) = some part := by
        rw [taken, next]
        exact joint
      obtain ⟨value, same, accepted⟩ := agrees.joint outside one closed together
      have whole : spell (.word first :: .gap gap :: .word second :: rest) =
          (first ++ (gap ++ second)) ++ spell rest := by simp [Part.text]
      have nonempty : first ++ (gap ++ second) ≠ [] := List.append_ne_nil_of_left_ne_nil one.1 _
      rw [taken, next] at accepted
      change recognise before (spell (.word first :: .gap gap :: .word second :: rest)) = _
        at accepted
      rw [whole] at accepted ⊢
      rw [sweepFrom_hit (agrees.starts.atGap ends) nonempty accepted, List.flatMap_cons, hit, same,
        ih later rfl, apply_joint joint, spell_cons]
  | lone word rest lone ih =>
      obtain ⟨one, -, later⟩ := divided_cons.mp divided
      have ends : wordBeside (spell rest).head? = false := by
        rw [wordBeside_head?_spell later, plain_of_divided divided]
      obtain ⟨nonempty, letters⟩ := valid_word.mp one
      have behind := ih later (rfl : wordBeside none = false)
      rw [apply_lone lone, spell_cons, spell_cons, Part.text, Part.text, ← behind]
      rcases agrees.alone outside one ends (joint_eq_none_of_lone divided lone) with
        ⟨missed, same⟩ | ⟨value, same, accepted⟩
      · rw [sweepFrom_miss agrees.starts letters ends missed, List.flatMap_append,
          flatMap_map_plain plain, same]
      · rw [sweepFrom_hit (agrees.starts.atGap ends) nonempty accepted, List.flatMap_cons, hit,
          same]
  | plain part rest unlettered ih =>
      obtain ⟨valid, -, later⟩ := divided_cons.mp divided
      have gaps : ∀ c ∈ part.text, isWord c = false := fun c mem =>
        (isWord_of_mem_text valid mem).trans unlettered
      have behind : wordBeside (lastOf before part.text) = false := by
        rw [lastOf_of_ne_nil valid.1, lastOf_none, List.getLast?_eq_some_getLast valid.1]
        exact gaps _ (List.getLast_mem valid.1)
      rw [apply_plain unlettered, spell_cons, spell_cons,
        sweepFrom_passes (passes_gap agrees.starts gaps), List.flatMap_append,
        flatMap_map_plain plain, ih later behind]

/-- A text is rewritten as its parts are reworded. -/
theorem Agrees.rewriteWith_spell (agrees : rewording.Agrees recognise written)
    (divided : Divided parts) :
    rewriteWith recognise written (spell parts) = spell (rewording.apply parts) :=
  agrees.flatMap_sweepFrom (fun _ => rfl) (fun _ _ => rfl) divided rfl

end Sweeping

end Rewording

end PromScribe.Text

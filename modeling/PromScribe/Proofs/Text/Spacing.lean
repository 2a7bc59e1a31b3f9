import PromScribe.Text.Blank

/-!
# Words and single spaces

A text falls apart at each blank: the words before it and the words behind it are the words of the
text. With single spaces, a word between blanks stands between what is in front of it and what is
behind it.
-/

namespace PromScribe.Text

variable {word front back rest : List Char} {blank : Char}

/-- Characters that are not blank go on with the open run. -/
theorem wordsFrom_append (run rest : List Char) (unbroken : ∀ c ∈ word, isBlank c = false) :
    wordsFrom run (word ++ rest) = wordsFrom (word.reverse ++ run) rest := by
  induction word generalizing run with
  | nil => rfl
  | cons c word ih =>
      have close := unbroken c List.mem_cons_self
      have more := ih (c :: run) fun d mem => unbroken d (List.mem_cons_of_mem c mem)
      rw [List.cons_append, wordsFrom, if_neg (by simp [close]), more]
      simp

/-- The words of a text with a blank in it are those in front of the blank and those behind it. -/
theorem wordsFrom_blank (white : isBlank blank = true) (run front rest : List Char) :
    wordsFrom run (front ++ blank :: rest) = wordsFrom run front ++ words rest := by
  induction front generalizing run with
  | nil =>
      rw [List.nil_append, wordsFrom, wordsFrom, if_pos white]
      split <;> rfl
  | cons c front ih =>
      rw [List.cons_append, wordsFrom, wordsFrom]
      split
      · split
        · exact ih []
        · rw [ih [], List.cons_append]
      · exact ih (c :: run)

theorem words_blank (white : isBlank blank = true) (front rest : List Char) :
    words (front ++ blank :: rest) = words front ++ words rest :=
  wordsFrom_blank white [] front rest

/-- Nothing, or a blank. -/
def BlankOrNone (place : Option Char) : Prop :=
  ∀ c ∈ place, isBlank c = true

/-- A word at the head of a text, with a blank behind it, is the first one. -/
theorem words_cons (nonempty : word ≠ []) (unbroken : ∀ c ∈ word, isBlank c = false)
    (apart : BlankOrNone back.head?) : words (word ++ back) = word :: words back := by
  unfold words
  rw [wordsFrom_append [] back unbroken, List.append_nil]
  cases back with
  | nil => simp [wordsFrom, nonempty]
  | cons blank rest =>
      have white : isBlank blank = true := apart blank rfl
      rw [wordsFrom, if_pos white, if_neg (by simpa using nonempty), wordsFrom, if_pos white]
      simp

/-- A word between blanks is one of the words. -/
theorem words_between (nonempty : word ≠ []) (unbroken : ∀ c ∈ word, isBlank c = false)
    (behind : BlankOrNone front.getLast?) (ahead : BlankOrNone back.head?) :
    words (front ++ (word ++ back)) = words front ++ word :: words back := by
  rcases List.eq_nil_or_concat front with rfl | ⟨earlier, blank, rfl⟩
  · exact words_cons nonempty unbroken ahead
  · have white : isBlank blank = true := behind blank (by simp)
    have alone := words_blank white earlier []
    rw [List.concat_eq_append, List.append_assoc, List.singleton_append, words_blank white,
      words_cons nonempty unbroken ahead, alone]
    simp [words, wordsFrom]

theorem intercalate_append {separator : List Char} {parts more : List (List Char)}
    (begins : parts ≠ []) (goesOn : more ≠ []) :
    List.intercalate separator (parts ++ more) =
      List.intercalate separator parts ++ (separator ++ List.intercalate separator more) := by
  induction parts with
  | nil => exact absurd rfl begins
  | cons part parts ih =>
      cases parts with
      | nil => simp [List.intercalate_cons_of_ne_nil goesOn]
      | cons next parts =>
          have joined := ih (List.cons_ne_nil next parts)
          rw [List.cons_append, List.intercalate_cons_of_ne_nil (by simp), joined,
            List.intercalate_cons_cons]
          simp

/-- With single spaces, a word between blanks stands at the head of the text, or behind a space and
what is in front of it; a space follows it if anything does. -/
theorem singleSpaced_between (nonempty : word ≠ []) (unbroken : ∀ c ∈ word, isBlank c = false)
    (behind : BlankOrNone front.getLast?) (ahead : BlankOrNone back.head?) :
    ∃ lead tail, singleSpaced (front ++ (word ++ back)) = lead ++ (word ++ tail) ∧
      (lead = [] ∧ singleSpaced front = [] ∨ lead = singleSpaced front ++ [' ']) ∧
        (tail = [] ∨ ∃ more, tail = ' ' :: more) := by
  have followed : ∃ tail, List.intercalate [' '] (word :: words back) = word ++ tail ∧
      (tail = [] ∨ ∃ more, tail = ' ' :: more) := by
    cases words back with
    | nil => exact ⟨[], by simp, .inl rfl⟩
    | cons next others =>
        exact ⟨_, (List.intercalate_cons_cons).trans (List.append_assoc _ _ _), .inr ⟨_, rfl⟩⟩
  obtain ⟨tail, same, gap⟩ := followed
  unfold singleSpaced
  rw [words_between nonempty unbroken behind ahead]
  cases earlier : words front with
  | nil => exact ⟨[], tail, same, .inl ⟨rfl, rfl⟩, gap⟩
  | cons first others =>
      refine ⟨_, tail, ?_, .inr rfl, gap⟩
      rw [intercalate_append (List.cons_ne_nil first others) (List.cons_ne_nil word _), same,
        List.append_assoc]

theorem mem_of_mem_wordsFrom {c : Char} {run text : List Char} (member : word ∈ wordsFrom run text)
    (mem : c ∈ word) : c ∈ run ∨ c ∈ text := by
  induction text generalizing run with
  | nil =>
      unfold wordsFrom at member
      split at member
      · cases member
      · rw [List.mem_singleton.mp member] at mem
        exact .inl (List.mem_reverse.mp mem)
  | cons d text ih =>
      have later {run : List Char} (member : word ∈ wordsFrom run text) : c ∈ run ∨ c ∈ d :: text :=
        (ih member).imp id (List.mem_cons_of_mem d)
      unfold wordsFrom at member
      split at member
      · have fresh (member : word ∈ wordsFrom [] text) : c ∈ d :: text :=
          (later member).resolve_left List.not_mem_nil
        split at member
        · exact .inr (fresh member)
        · rcases List.mem_cons.mp member with rfl | others
          · exact .inl (List.mem_reverse.mp mem)
          · exact .inr (fresh others)
      · rcases later member with inRun | inText
        · rcases List.mem_cons.mp inRun with rfl | inRun
          · exact .inr List.mem_cons_self
          · exact .inl inRun
        · exact .inr inText

/-- What is put together of parts is of the separator or of a part. -/
theorem mem_of_mem_intercalate {c : Char} {separator : List Char} {parts : List (List Char)}
    (mem : c ∈ List.intercalate separator parts) : c ∈ separator ∨ ∃ part ∈ parts, c ∈ part := by
  induction parts with
  | nil => cases mem
  | cons part parts ih =>
      cases parts with
      | nil => exact .inr ⟨part, List.mem_cons_self, by simpa using mem⟩
      | cons next parts =>
          rw [List.intercalate_cons_cons] at mem
          rcases List.mem_append.mp mem with early | late
          · rcases List.mem_append.mp early with here | between
            · exact .inr ⟨part, List.mem_cons_self, here⟩
            · exact .inl between
          · apply (ih late).imp id
            rintro ⟨other, member, within⟩
            exact ⟨other, List.mem_cons_of_mem part member, within⟩

theorem mem_intercalate {c : Char} {separator : List Char} {parts : List (List Char)}
    (member : word ∈ parts) (mem : c ∈ word) : c ∈ List.intercalate separator parts := by
  induction parts with
  | nil => cases member
  | cons part parts ih =>
      cases parts with
      | nil =>
          obtain rfl := List.mem_singleton.mp member
          simpa using mem
      | cons next parts =>
          rw [List.intercalate_cons_cons]
          rcases List.mem_cons.mp member with rfl | later
          · exact List.mem_append_left _ (List.mem_append_left _ mem)
          · exact List.mem_append_right _ (ih later)

/-- Single spaces add nothing else to a text. -/
theorem mem_singleSpaced {c : Char} {text : List Char} (mem : c ∈ singleSpaced text) :
    c = ' ' ∨ c ∈ text := by
  apply (mem_of_mem_intercalate mem).imp List.mem_singleton.mp
  rintro ⟨word, member, within⟩
  exact (mem_of_mem_wordsFrom member within).resolve_left List.not_mem_nil

/-- A run without blanks. -/
def IsRun (word : List Char) : Prop :=
  word ≠ [] ∧ ∀ c ∈ word, isBlank c = false

theorem isRun_reverse (nonempty : word ≠ []) (unbroken : ∀ c ∈ word, isBlank c = false) :
    IsRun word.reverse :=
  ⟨by simpa using nonempty, fun c mem => unbroken c (List.mem_reverse.mp mem)⟩

/-- The words of a text are runs, if what is open in front of it has no blanks. -/
theorem isRun_of_mem_wordsFrom {run text : List Char} (unbroken : ∀ c ∈ run, isBlank c = false)
    (member : word ∈ wordsFrom run text) : IsRun word := by
  have fresh : ∀ c ∈ ([] : List Char), isBlank c = false := fun _ mem => absurd mem List.not_mem_nil
  induction text generalizing run with
  | nil =>
      unfold wordsFrom at member
      split at member
      · cases member
      · next open_ =>
          rw [List.mem_singleton.mp member]
          exact isRun_reverse (by simpa using open_) unbroken
  | cons c text ih =>
      unfold wordsFrom at member
      split at member
      · split at member
        · exact ih fresh member
        · next open_ =>
            rcases List.mem_cons.mp member with rfl | later
            · exact isRun_reverse (by simpa using open_) unbroken
            · exact ih fresh later
      · next close =>
          exact ih (List.forall_mem_cons.mpr ⟨eq_false_of_ne_true close, unbroken⟩) member

theorem isRun_of_mem_words {text : List Char} (member : word ∈ words text) : IsRun word :=
  isRun_of_mem_wordsFrom (fun _ mem => absurd mem List.not_mem_nil) member

/-- A run is one word. -/
theorem IsRun.words_eq (run : IsRun word) : words word = [word] := by
  have alone : words (word ++ []) = word :: words [] := words_cons run.1 run.2 nofun
  rwa [List.append_nil] at alone

/-- Runs with spaces between them are read back. -/
theorem words_intercalate {parts : List (List Char)} (runs : ∀ part ∈ parts, IsRun part) :
    words (List.intercalate [' '] parts) = parts := by
  induction parts with
  | nil => rfl
  | cons part parts ih =>
      obtain ⟨here, later⟩ := List.forall_mem_cons.mp runs
      cases parts with
      | nil => rw [List.intercalate_singleton, here.words_eq]
      | cons next parts =>
          rw [List.intercalate_cons_cons, List.append_assoc, List.singleton_append,
            words_blank (by decide), here.words_eq, ih later]
          rfl

/-- Single spaces keep the words. -/
theorem words_singleSpaced (text : List Char) : words (singleSpaced text) = words text :=
  words_intercalate fun _ member => isRun_of_mem_words member

theorem singleSpaced_singleSpaced (text : List Char) :
    singleSpaced (singleSpaced text) = singleSpaced text :=
  congrArg (List.intercalate [' ']) (words_singleSpaced text)

/-- Each blank is one space, with characters that are not blank on both sides of it. -/
def SinglySpaced (text : List Char) : Prop :=
  ∀ front c back, text = front ++ c :: back → isBlank c = true →
    c = ' ' ∧ (∃ d ∈ front.getLast?, isBlank d = false) ∧ ∃ d ∈ back.head?, isBlank d = false

theorem singlySpaced_intercalate {parts : List (List Char)} (runs : ∀ part ∈ parts, IsRun part) :
    SinglySpaced (List.intercalate [' '] parts) := by
  induction parts with
  | nil => exact fun front c back split => absurd split (by simp)
  | cons part parts ih =>
      obtain ⟨here, later⟩ := List.forall_mem_cons.mp runs
      have last : ∃ d ∈ part.getLast?, isBlank d = false :=
        ⟨_, List.getLast?_eq_some_getLast here.1, here.2 _ (List.getLast_mem here.1)⟩
      cases parts with
      | nil =>
          intro front c back split white
          rw [List.intercalate_singleton] at split
          rw [here.2 c (by simp [split])] at white
          cases white
      | cons next parts =>
          have begins :
              ∃ d ∈ (List.intercalate [' '] (next :: parts)).head?, isBlank d = false := by
            obtain ⟨nonempty, unbroken⟩ := later next List.mem_cons_self
            obtain ⟨d, more, rfl⟩ := List.exists_cons_of_ne_nil nonempty
            refine ⟨d, ?_, unbroken d List.mem_cons_self⟩
            cases parts with
            | nil => simp
            | cons other parts => simp
          intro front c back split white
          rw [List.intercalate_cons_cons, List.append_assoc, List.singleton_append] at split
          rcases List.append_eq_append_iff.mp split with ⟨beyond, rfl, behind⟩ | ⟨left, rfl, ahead⟩
          · cases beyond with
            | nil =>
                obtain ⟨rfl, rfl⟩ := List.cons.inj behind
                exact ⟨rfl, by simpa using last, begins⟩
            | cons space beyond =>
                obtain ⟨-, within⟩ := List.cons.inj behind
                obtain ⟨same, ⟨d, ends, close⟩, head⟩ := ih later beyond c back within white
                refine ⟨same, ⟨d, ?_, close⟩, head⟩
                rw [List.append_cons, List.getLast?_append, Option.mem_def.mp ends]
                rfl
          · cases left with
            | nil =>
                obtain ⟨rfl, rfl⟩ := List.cons.inj ahead
                exact ⟨rfl, by simpa using last, begins⟩
            | cons d left =>
                obtain ⟨rfl, -⟩ := List.cons.inj ahead
                rw [here.2 c (by simp)] at white
                cases white

theorem singlySpaced_singleSpaced (text : List Char) : SinglySpaced (singleSpaced text) :=
  singlySpaced_intercalate fun _ member => isRun_of_mem_words member

end PromScribe.Text

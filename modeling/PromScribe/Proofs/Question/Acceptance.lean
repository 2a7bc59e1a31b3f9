import PromScribe.Question.Reading
import PromScribe.Proofs.Question.SpelledOut
import PromScribe.Proofs.Text.Size

/-!
# Wordings read again

The canonical wording of an accepted question is put to the same reader again. It is never blank,
and longer than the question only by capital letters that grow in lower case; by these it can be
longer than the reader accepts.
-/

namespace PromScribe.Question

open PromScribe.Text

variable {text : List Char} {reader : Reader} {question wording : String}

theorem worded_iff {text : String} : isBlankText text = false ↔ Worded text.toList := by
  simp [isBlankText, Worded]

instance (text : List Char) : Decidable (Worded text) :=
  decidable_of_iff (text.any (!isBlank ·) = true) (by simp [Worded])

/-- What is written for a phrase takes no more bytes than the phrase. -/
theorem shortens_phrase {phrase : String × String} (known : phrase ∈ phrases) :
    Shortens (wholeWords [phrase.1.toList]) (fun _ => phrase.2.toList) := by
  have each : ∀ phrase ∈ phrases, 0 < phrase.1.toList.length ∧
      byteLength phrase.2.toList ≤ byteLength phrase.1.toList ∧ Worded phrase.2.toList := by
    decide
  obtain ⟨nonempty, shorter, worded⟩ := each phrase known
  intro before text hit found
  refine ⟨?_, worded⟩
  unfold wholeWords at found
  split at found
  · obtain ⟨stands, picked, rfl⟩ := Option.map_eq_some_iff.mp found
    obtain rfl := List.mem_singleton.mp (List.mem_of_find?_eq_some picked)
    have begins := List.find?_some picked
    simp only [Bool.and_eq_true, List.isPrefixOf_iff_prefix] at begins
    obtain ⟨after, rfl⟩ := begins.1
    have covers : phrase.1.toList.length - 1 + 1 = phrase.1.toList.length := by omega
    simpa [covers] using shorter
  · cases found

/-- The compact form of a duration takes no more bytes than the spelled-out one. -/
theorem shortens_spelledDuration : Shortens spelledDuration id := by
  intro before text hit found
  obtain ⟨digits, gap, unit, tail, rfl, ⟨some_digit, decimal⟩, -, -, rfl⟩ :=
    exists_parts_of_spelledDuration found
  have length := List.length_pos_of_ne_nil some_digit
  constructor
  · have parts := congrArg byteLength (List.take_append_drop 1 unit)
    have covers : (digits ++ (gap ++ unit)).length - 1 + 1 = (digits ++ (gap ++ unit)).length := by
      rw [List.length_append]
      omega
    simp only [covers, List.take_left, byteLength_append, id_eq] at parts ⊢
    omega
  · obtain ⟨c, mem⟩ := List.exists_mem_of_ne_nil digits some_digit
    exact ⟨c, List.mem_append_left _ mem, isBlank_of_isWord (isWord_of_isDecimal (decimal c mem))⟩

theorem byteLength_foldPhrases_le (text : List Char) :
    byteLength (foldPhrases text) ≤ byteLength text :=
  List.foldlRecOn phrases foldPhrase (motive := fun folded => byteLength folded ≤ byteLength text)
    (Nat.le_refl _) fun folded shorter _ known =>
      ((shortens_phrase known).byteLength_le folded).trans shorter

theorem worded_foldPhrases (worded : Worded text) : Worded (foldPhrases text) :=
  List.foldlRecOn phrases foldPhrase (motive := Worded) worded fun _ worded _ known =>
    (shortens_phrase known).worded worded

/-- A text that is not blank has a canonical wording that is not blank. -/
theorem worded_canonicalText (worded : Worded text) : Worded (canonicalText text) :=
  (shortens_spelledDuration.worded (worded_foldPhrases worded.lower)).singleSpaced

/-- The canonical wording grows just by the letters that grow in lower case. -/
theorem byteLength_canonicalText_le (text : List Char) :
    byteLength (canonicalText text) ≤
      byteLength text + text.countP (growingLetters.contains ·) :=
  calc byteLength (canonicalText text)
      ≤ byteLength (foldDurations (foldPhrases (lower text))) := byteLength_singleSpaced_le _
    _ ≤ byteLength (foldPhrases (lower text)) := shortens_spelledDuration.byteLength_le _
    _ ≤ byteLength (lower text) := byteLength_foldPhrases_le _
    _ ≤ byteLength text + text.countP (growingLetters.contains ·) := byteLength_lower_le text

namespace Reader

/-- A text that is not blank is refused just for its length. -/
theorem refusal?_of_worded {text : String} (worded : Worded text.toList) :
    reader.refusal? text =
      if reader.limit < byteCount text then some (.tooLong reader.limit) else none := by
  unfold refusal?
  rw [worded_iff.mpr worded, if_neg Bool.false_ne_true]

/-- The reader says the intent and the entities of the text. -/
def ReadsOn (reader : Reader) (text : String) : Prop :=
  (∃ intent, reader.intent text = .ok intent) ∧ ∃ entities, reader.entities text = .ok entities

/-- The reader refuses the text as too long, whichever of both it is asked for. -/
def FindsTooLong (reader : Reader) (text : String) : Prop :=
  reader.intent text = .error (.refused (.tooLong reader.limit)) ∧
    reader.entities text = .error (.refused (.tooLong reader.limit))

theorem readsOn_iff {text : String} : reader.ReadsOn text ↔ reader.refusal? text = none := by
  unfold ReadsOn intent entities
  simp only [accepted_eq_ok_iff]
  constructor
  · rintro ⟨⟨_, accepted, -⟩, -⟩
    exact accepted
  · intro accepted
    exact ⟨⟨_, accepted, rfl⟩, ⟨_, accepted, rfl⟩⟩

theorem findsTooLong_of_refusal? {text : String}
    (refused : reader.refusal? text = some (.tooLong reader.limit)) : reader.FindsTooLong text := by
  constructor
  · exact accepted_eq_error_iff.mpr ⟨_, refused, rfl⟩
  · exact accepted_eq_error_iff.mpr ⟨_, refused, rfl⟩

theorem worded_of_accepted {text : String} (accepted : reader.refusal? text = none) :
    Worded text.toList ∧ byteCount text ≤ reader.limit := by
  unfold refusal? at accepted
  split at accepted
  · cases accepted
  · next worded =>
      split at accepted
      · cases accepted
      · next short =>
          exact ⟨worded_iff.mp (eq_false_of_ne_true worded), Nat.not_lt.mp short⟩

/-- The wording of an accepted question is read on just if it is no longer than the limit. Else it
is too long, by letters of the question that grow in lower case. -/
theorem accepted_again (accepted : reader.wording question = .ok wording) :
    (reader.ReadsOn wording ↔ byteCount wording ≤ reader.limit) ∧
      (¬ reader.ReadsOn wording →
        reader.FindsTooLong wording ∧ ∃ c ∈ question.toList, c ∈ growingLetters) ∧
      byteCount wording ≤
        byteCount question + question.toList.countP (growingLetters.contains ·) := by
  obtain ⟨unrefused, rfl⟩ := accepted_eq_ok_iff.mp accepted
  obtain ⟨worded, short⟩ := worded_of_accepted unrefused
  have again : Worded (canonical question).toList := by
    unfold canonical
    rw [String.toList_ofList]
    exact worded_canonicalText worded
  have size : byteCount (canonical question) ≤
      byteCount question + question.toList.countP (growingLetters.contains ·) := by
    unfold byteCount canonical
    rw [String.toList_ofList]
    exact byteLength_canonicalText_le question.toList
  have decides : reader.refusal? (canonical question) =
      if reader.limit < byteCount (canonical question) then some (.tooLong reader.limit) else none :=
    refusal?_of_worded again
  have within : reader.ReadsOn (canonical question) ↔
      byteCount (canonical question) ≤ reader.limit := by
    rw [readsOn_iff, decides, ite_eq_right_iff]
    simp
  refine ⟨within, fun stuck => ?_, size⟩
  have long : reader.limit < byteCount (canonical question) :=
    Nat.not_le.mp fun fits => stuck (within.mpr fits)
  constructor
  · apply findsTooLong_of_refusal?
    rw [decides, if_pos long]
  · -- The question is short enough, so that letters of it have grown.
    have grown : 0 < question.toList.countP (growingLetters.contains ·) := by omega
    obtain ⟨c, mem, grows⟩ := List.countP_pos_iff.mp grown
    exact ⟨c, mem, List.contains_iff_mem.mp grows⟩

/-- At the limit, a letter that grows is still read on where a blank makes room for it. -/
theorem accepted_again_spaced :
    (⟨11⟩ : Reader).wording "rate  of Ⱥ" = .ok "rate of ⱥ" ∧
      (⟨11⟩ : Reader).ReadsOn "rate of ⱥ" := by
  have accepted : (⟨11⟩ : Reader).wording "rate  of Ⱥ" = .ok "rate of ⱥ" :=
    accepted_eq_ok_iff.mpr (by decide +kernel)
  exact ⟨accepted, (accepted_again accepted).1.mpr (by decide +kernel)⟩

/-- A question is accepted whose wording the same reader finds too long. -/
theorem exists_outgrown : ∃ (reader : Reader) (question wording : String),
    reader.wording question = .ok wording ∧ reader.FindsTooLong wording := by
  have accepted : (⟨10⟩ : Reader).wording "rate of Ⱥ" = .ok "rate of ⱥ" :=
    accepted_eq_ok_iff.mpr (by decide +kernel)
  have refused : (⟨10⟩ : Reader).refusal? "rate of ⱥ" = some (.tooLong 10) := by decide +kernel
  exact ⟨⟨10⟩, "rate of Ⱥ", "rate of ⱥ", accepted, findsTooLong_of_refusal? refused⟩

end Reader

end PromScribe.Question

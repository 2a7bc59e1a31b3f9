import PromScribe.Proofs.Text.Sweep
import PromScribe.Proofs.Time.Advance
import PromScribe.Proofs.Time.QueryForm

/-!
# Refused spans

The wording of a refusal has the refused text in quotes. Whatever is wrong with two texts, if it is
of one kind then they are told apart by the wording.
-/

namespace PromScribe

open Text

namespace SpanReader

variable {α β : Type} {total sum number offset size : Nat} {reading next : Reading}
variable {fraction : Option Fraction} {unit : SpanUnit} {spelling named : String}

/-- Nothing but the range is exceeded. -/
def Ranged (outcome : Except SpanReason α) : Prop :=
  ∀ reason, outcome = .error reason → reason = .outOfRange

theorem Ranged.ok (value : α) : Ranged (.ok value) := by
  intro reason fails
  cases fails

theorem Ranged.outOfRange : Ranged (α := α) (.error .outOfRange) := by
  intro reason fails
  cases fails
  rfl

theorem Ranged.bind {first : Except SpanReason α} {rest : α → Except SpanReason β}
    (ranged : Ranged first) (goesOn : ∀ value, Ranged (rest value)) : Ranged (first >>= rest) := by
  intro reason fails
  cases first with
  | ok value => exact goesOn value reason fails
  | error cause =>
      cases fails
      exact ranged reason rfl

theorem ranged_bounded (number : Nat) : Ranged (bounded number) := by
  unfold bounded
  split
  · exact .ok _
  · exact .outOfRange

theorem ranged_plusNanoseconds (total amount : Nat) : Ranged (plusNanoseconds total amount) := by
  refine (ranged_bounded _).bind fun _ => ?_
  exact (ranged_bounded _).bind fun _ => .ok _

theorem ranged_plusSeconds (total amount : Nat) : Ranged (plusSeconds total amount) :=
  (ranged_bounded _).bind fun _ => .ok _

theorem ranged_of (fraction : Fraction) (size : Nat) : Ranged (fraction.of size) := by
  refine (ranged_bounded _).bind fun product => ?_
  split
  · exact .ok _
  · exact .outOfRange

theorem ranged_addWhole (total number : Nat) (unit : SpanUnit) :
    Ranged (addWhole total number unit) := by
  cases unit with
  | nanoseconds size => exact (ranged_bounded _).bind fun _ => ranged_plusNanoseconds _ _
  | minutes => exact (ranged_bounded _).bind fun _ => ranged_plusSeconds _ _
  | seconds size => exact (ranged_bounded _).bind fun _ => ranged_plusSeconds _ _

theorem ranged_addFraction (total : Nat) (fraction : Fraction) (unit : SpanUnit) :
    Ranged (addFraction total fraction unit) := by
  unfold addFraction
  split
  · exact .outOfRange
  · exact (ranged_of _ _).bind fun _ => ranged_plusNanoseconds _ _
  · exact (ranged_of _ _).bind fun _ => ranged_plusNanoseconds _ _
  · exact (ranged_of _ _).bind fun _ => ranged_plusNanoseconds _ _
  · exact (ranged_of _ _).bind fun _ => ranged_plusSeconds _ _

/-- A unit that is not known is the one that is written. -/
theorem eq_of_addGroup
    (fails : addGroup total number fraction spelling = .error (.unknownUnit named)) :
    named = spelling := by
  unfold addGroup at fails
  split at fails
  · cases fails
  · split at fails
    · cases fails
      rfl
    · next unit _ =>
        refine absurd (Ranged.bind (ranged_addWhole _ _ _) (fun total => ?_) _ fails) ?_
        · cases fraction with
          | none => exact .ok _
          | some fraction => exact ranged_addFraction _ _ _
        · intro same
          cases same

/-- What is read of a unit has only letters of units. -/
def Reading.Lettered : Reading → Prop
  | .unit _ _ letters => ∀ c ∈ letters, isUnitLetter c = true
  | _ => True

theorem lettered_step {c : Char} (lettered : reading.Lettered)
    (advances : Advances c total reading sum next) : next.Lettered := by
  cases advances with
  | letter letter =>
      intro d mem
      rwa [List.mem_singleton.mp mem]
  | decimalLetter letter =>
      intro d mem
      rwa [List.mem_singleton.mp mem]
  | more letter =>
      intro d mem
      rcases List.mem_cons.mp mem with rfl | earlier
      · exact letter
      · exact lettered d earlier
  | group _ fresh =>
      rcases fresh with rfl | ⟨since, rfl⟩
      · trivial
      · trivial
  | _ => trivial

/-- What is added for a unit fails only with its letters or with the range. -/
theorem letters_of_addGroup {letters : List Char} (lettered : ∀ c ∈ letters, isUnitLetter c = true)
    (fails : addGroup total number fraction (String.ofList letters.reverse) =
      .error (.unknownUnit named)) : ∀ c ∈ named.toList, isUnitLetter c = true := by
  rw [eq_of_addGroup fails, String.toList_ofList]
  exact fun c mem => lettered c (List.mem_reverse.mp mem)

/-- A character that is refused for an unknown unit ends a unit. -/
theorem letters_of_advance {c : Char} (lettered : reading.Lettered)
    (fails : advance total offset c reading = .error (.unknownUnit named)) :
    ∀ c ∈ named.toList, isUnitLetter c = true := by
  have adds {number : Nat} {fraction : Option Fraction} {letters : List Char}
      {made : Nat → Nat × Reading} (lettered : ∀ c ∈ letters, isUnitLetter c = true)
      (fails : (do return made (← addGroup total number fraction (String.ofList letters.reverse))) =
        Except.error (SpanReason.unknownUnit named)) :
      ∀ c ∈ named.toList, isUnitLetter c = true := by
    cases outcome : addGroup total number fraction (String.ofList letters.reverse) with
    | ok sum =>
        rw [outcome] at fails
        cases fails
    | error reason =>
        rw [outcome] at fails
        cases fails
        exact letters_of_addGroup lettered outcome
  cases reading with
  | start since =>
      simp only [advance] at fails
      split at fails
      · cases fails
      · split at fails <;> cases fails
  | whole number =>
      simp only [advance] at fails
      split at fails
      · have ranged : Ranged (do
            return (total, Reading.whole (← bounded (number * 10 + digitValue c)))) :=
          (ranged_bounded _).bind fun _ => .ok _
        cases ranged _ fails
      · split at fails
        · cases fails
        · split at fails
          · cases fails
          · split at fails <;> cases fails
  | fraction number fraction since =>
      simp only [advance] at fails
      split at fails
      · have ranged : Ranged (do
            return (total, Reading.fraction number (← fraction.push (digitValue c))
              (offset + c.utf8Size))) := by
          refine Ranged.bind ?_ fun _ => .ok _
          refine (ranged_bounded _).bind fun _ => ?_
          exact (ranged_bounded _).bind fun _ => .ok _
        cases ranged _ fails
      · split at fails
        · cases fails
        · split at fails <;> cases fails
  | unit number fraction letters =>
      simp only [advance] at fails
      split at fails
      · cases fails
      · split at fails
        · exact adds lettered fails
        · split at fails
          · exact adds lettered fails
          · cases fails

theorem letters_of_finish (lettered : reading.Lettered)
    (fails : finish total reading = .error (.unknownUnit named)) :
    ∀ c ∈ named.toList, isUnitLetter c = true := by
  cases reading with
  | start since => cases fails
  | whole number => cases fails
  | fraction number fraction since =>
      simp only [finish] at fails
      split at fails
      · cases fails
      · rw [eq_of_addGroup fails]
        exact fun c mem => absurd mem List.not_mem_nil
  | unit number fraction letters => exact letters_of_addGroup lettered fails

/-- A unit that is not known is written in letters of units. -/
theorem letters_of_readFrom {text : List Char} (lettered : reading.Lettered)
    (fails : readFrom total reading offset text = .error (.unknownUnit named)) :
    ∀ c ∈ named.toList, isUnitLetter c = true := by
  have steps : ∀ c ∈ text, ∀ ⦃total reading sum next⦄, reading.Lettered →
      Advances c total reading sum next → next.Lettered :=
    fun _ _ _ _ _ _ lettered advances => lettered_step lettered advances
  obtain ⟨last, final, kept, ended | ⟨_, c, reason, refused, same⟩⟩ :=
    readFrom_induction steps lettered fails
  · exact letters_of_finish kept ended
  · cases same
    exact letters_of_advance kept refused

end SpanReader

open SpanReader

/-- The reasons are of one kind; they may differ in what they name. -/
inductive SpanReason.SameKind : SpanReason → SpanReason → Prop where
  | empty : SameKind .empty .empty
  | notPositive : SameKind .notPositive .notPositive
  | numberExpected (offset other : Nat) : SameKind (.numberExpected offset) (.numberExpected other)
  | invalidCharacter (offset other : Nat) :
      SameKind (.invalidCharacter offset) (.invalidCharacter other)
  | unitNeeded (number other : Nat) : SameKind (.unitNeeded number) (.unitNeeded other)
  | unknownUnit (unit other : String) : SameKind (.unknownUnit unit) (.unknownUnit other)
  | outOfRange : SameKind .outOfRange .outOfRange

namespace SpanReason

/-! What stands behind the refused text, from the quote that ends it. -/

theorem toList_numberExpected (offset : Nat) :
    "': ".toList ++ (numberExpected offset).message.toList =
      "': expected number at".toList ++ ' ' :: (toString offset).toList := by
  have wording : (numberExpected offset).message = "expected number at " ++ toString offset := rfl
  rw [wording, String.toList_append]
  rfl

theorem toList_invalidCharacter (offset : Nat) :
    "': ".toList ++ (invalidCharacter offset).message.toList =
      "': invalid character at".toList ++ ' ' :: (toString offset).toList := by
  have wording : (invalidCharacter offset).message =
      "invalid character at " ++ toString offset := rfl
  rw [wording, String.toList_append]
  rfl

theorem toList_unitNeeded (number : Nat) :
    "': ".toList ++ (unitNeeded number).message.toList =
      "': time unit needed, for example ".toList ++ (toString number).toList ++
        "sec or".toList ++ ' ' :: ((toString number).toList ++ ['m', 's']) := by
  have wording : (unitNeeded number).message =
      "time unit needed, for example " ++ toString number ++ "sec or " ++ toString number ++
        "ms" := rfl
  rw [wording]
  simp only [String.toList_append, List.append_assoc]
  rfl

theorem toList_unknownUnit (unit : String) :
    "': ".toList ++ (unknownUnit unit).message.toList =
      "': unknown time unit ".toList ++ '"' :: unit.toList ++
        ("\", supported units: ns, us/µs, ms, sec, min, hours, " ++
          "days, weeks, months, years (and few variations)").toList := by
  have wording : (unknownUnit unit).message = "unknown time unit \"" ++ unit ++
      ("\", supported units: ns, us/µs, ms, sec, min, hours, " ++
        "days, weeks, months, years (and few variations)") := by
    rw [← String.append_assoc]
    rfl
  rw [wording, String.toList_append, String.toList_append, List.append_assoc]
  rfl

end SpanReason

namespace TimeSpan

variable {text other : String} {fault otherFault : SpanFault}

theorem input_of_read (refused : TimeSpan.read text = .error fault) :
    fault.input = text ∧ readChars text.toList = .error fault.reason := by
  unfold TimeSpan.read at refused
  cases outcome : readChars text.toList with
  | ok span =>
      rw [outcome] at refused
      cases refused
  | error reason =>
      rw [outcome] at refused
      cases refused
      exact ⟨rfl, rfl⟩

/-- A unit that is not known is written in letters of units. -/
theorem letters_of_unknownUnit {unit : String}
    (refused : readChars text.toList = .error (.unknownUnit unit)) :
    ∀ c ∈ unit.toList, isUnitLetter c = true := by
  unfold readChars at refused
  split at refused
  · cases refused
  · cases refused
  · split at refused
    · next reason fails =>
        cases refused
        have begins : Reading.Lettered (.start 0) := trivial
        exact letters_of_readFrom begins fails
    · cases refused
    · cases refused

/-- What stands in front of the last run of a class is known, and so is the run. -/
theorem append_run_inj {inClass : Char → Bool} {front back run more : List Char} {mark : Char}
    (inside : ∀ c ∈ run, inClass c = true) (also : ∀ c ∈ more, inClass c = true)
    (outside : inClass mark = false) (same : front ++ mark :: run = back ++ mark :: more) :
    front = back ∧ run = more := by
  have reversed := congrArg List.reverse same
  simp only [List.reverse_append, List.reverse_cons, List.append_assoc, List.singleton_append]
    at reversed
  have left : (run.reverse ++ mark :: front.reverse).dropWhile inClass = mark :: front.reverse :=
    dropWhile_run (fun c mem => inside c (List.mem_reverse.mp mem)) outside
  have right : (more.reverse ++ mark :: back.reverse).dropWhile inClass = mark :: back.reverse :=
    dropWhile_run (fun c mem => also c (List.mem_reverse.mp mem)) outside
  rw [reversed, right] at left
  obtain rfl : front = back := List.reverse_injective (List.cons.inj left).2.symm
  exact ⟨rfl, (List.cons.inj (List.append_cancel_left same)).2⟩

theorem toList_message (fault : SpanFault) :
    fault.message.toList = "invalid duration '".toList ++ (fault.input.toList ++
      ("': ".toList ++ fault.reason.message.toList)) := by
  unfold SpanFault.message
  rw [String.toList_append, String.toList_append, String.toList_append, List.append_assoc,
    List.append_assoc]

theorem isDigit_toString (number : Nat) : ∀ c ∈ (toString number).toList, c.isDigit = true := by
  intro c mem
  refine isDigit_of_mem_toDigits number c ?_
  rwa [← Nat.toList_repr]

theorem isAlphanum_milliseconds (number : Nat) :
    ∀ c ∈ (toString number).toList ++ ['m', 's'], c.isAlphanum = true := by
  intro c mem
  rcases List.mem_append.mp mem with digit | letter
  · rw [Char.isAlphanum, isDigit_toString number c digit, Bool.or_true]
  · have units : ['m', 's'].all Char.isAlphanum = true := by decide
    exact List.all_eq_true.mp units c letter

/-- A wording that ends in a number tells what stands in front of it. -/
theorem eq_of_numbered {front back wording : List Char} {number otherNumber : Nat}
    (same : front ++ (wording ++ ' ' :: (toString number).toList) =
      back ++ (wording ++ ' ' :: (toString otherNumber).toList)) : front = back := by
  have digits := isDigit_toString
  rw [← List.append_assoc, ← List.append_assoc] at same
  exact List.append_cancel_right (append_run_inj (digits _) (digits _) (by decide) same).1

/-- Texts that are refused for reasons of one kind are told apart by the wording. -/
theorem eq_of_message (refused : TimeSpan.read text = .error fault)
    (also : TimeSpan.read other = .error otherFault)
    (kind : fault.reason.SameKind otherFault.reason)
    (same : fault.message = otherFault.message) : text = other := by
  obtain ⟨rfl, fails⟩ := input_of_read refused
  obtain ⟨rfl, failsAlso⟩ := input_of_read also
  have chars := congrArg String.toList same
  rw [toList_message, toList_message] at chars
  have chars := List.append_cancel_left chars
  apply String.toList_injective
  generalize fault.input.toList = input at chars ⊢
  generalize otherFault.input.toList = otherInput at chars ⊢
  generalize fault.reason = reason at kind chars fails
  generalize otherFault.reason = otherReason at kind chars failsAlso
  cases kind with
  | empty => exact List.append_cancel_right chars
  | notPositive => exact List.append_cancel_right chars
  | numberExpected offset other =>
      rw [SpanReason.toList_numberExpected, SpanReason.toList_numberExpected] at chars
      exact eq_of_numbered chars
  | invalidCharacter offset other =>
      rw [SpanReason.toList_invalidCharacter, SpanReason.toList_invalidCharacter] at chars
      exact eq_of_numbered chars
  | unitNeeded number other =>
      rw [SpanReason.toList_unitNeeded, SpanReason.toList_unitNeeded,
        ← List.append_assoc input, ← List.append_assoc otherInput] at chars
      have letters := isAlphanum_milliseconds
      obtain ⟨front, run⟩ := append_run_inj (letters _) (letters _) (by decide) chars
      rw [List.append_cancel_right run] at front
      exact List.append_cancel_right front
  | unknownUnit unit other =>
      rw [SpanReason.toList_unknownUnit, SpanReason.toList_unknownUnit,
        ← List.append_assoc input, ← List.append_assoc otherInput] at chars
      have front := List.append_cancel_right chars
      rw [← List.append_assoc input, ← List.append_assoc otherInput] at front
      have named := letters_of_unknownUnit fails
      have namedAlso := letters_of_unknownUnit failsAlso
      exact List.append_cancel_right (append_run_inj named namedAlso (by decide) front).1
  | outOfRange => exact List.append_cancel_right chars

end TimeSpan

end PromScribe

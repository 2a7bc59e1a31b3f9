import PromScribe.Json.Reader
import PromScribe.Proofs.Json.Signs

/-!
# Reading what is written

A text of the grammar is read as the document that it writes, to its end. Wherever a value may
stand, the signs of a written value fill that place and leave what follows to be read.
-/

namespace PromScribe.Json

open Token NumberLiteral Progress

variable {text rest : List Char} {token : Token} {progress : Progress} {slots : List Slot}
variable {document : Document} {content : Content} {items before : List Document}
variable {members : List (Option String × Document)}

/-- A value that comes next fills the innermost of the slots. -/
def Progress.AwaitsValue (progress : Progress) (slots : List Slot) : Prop :=
  ∀ ⦃token⦄, token ≠ .closeArray → progress.take token = takeValue slots token

/-- A key that comes next is for the next member of an object. -/
def Progress.AwaitsKey (progress : Progress) (before : List (Option String × Document))
    (slots : List Slot) : Prop :=
  ∀ ⦃token⦄, token ≠ .closeObject → progress.take token = takeKey before slots token

theorem awaitsValue_value : (Progress.value slots).AwaitsValue slots := fun _ _ => rfl

theorem awaitsValue_firstItem : (Progress.firstItem slots).AwaitsValue (.item [] :: slots) := by
  intro token other
  cases token with
  | closeArray => exact absurd rfl other
  | _ => rfl

theorem awaitsKey_firstKey : (Progress.firstKey slots).AwaitsKey [] slots := by
  intro token other
  cases token with
  | closeObject => exact absurd rfl other
  | _ => rfl

theorem awaitsKey_nextKey {before : List (Option String × Document)} :
    (Progress.nextKey before slots).AwaitsKey before slots := fun _ _ => rfl

theorem run_cons {next : Progress} {tokens : List Token} (taken : progress.take token = some next) :
    progress.run (token :: tokens) = next.run tokens := by
  rw [run, taken]

/-- How what is written is read: a value fills the slot that it stands in, and what stands within a
container goes behind what the container has already, up to its closing bracket. -/
def ReadsOn : Content → List Char → Prop
  | .value document, text => ∀ ⦃progress slots rest⦄, AwaitsValue progress slots →
      EndsNumber rest →
        progress.run (ofText (text ++ rest)) = (fill document slots).run (ofText rest)
  | .spaced document, text => ∀ ⦃progress slots rest⦄, AwaitsValue progress slots →
      EndsNumber rest →
        progress.run (ofText (text ++ rest)) = (fill document slots).run (ofText rest)
  | .items items, text => ∀ ⦃progress before slots rest⦄,
      AwaitsValue progress (.item before :: slots) →
      (items = [] → progress.take .closeArray = some (fill (.array before.reverse true) slots)) →
        progress.run (ofText (text ++ ']' :: rest)) =
          (fill (.array (before.reverse ++ items) true) slots).run (ofText rest)
  | .members members, text => ∀ ⦃progress before slots rest⦄, AwaitsKey progress before slots →
      (members = [] →
        progress.take .closeObject = some (fill (.object before.reverse true) slots)) →
        progress.run (ofText (text ++ '\x7d' :: rest)) =
          (fill (.object (before.reverse ++ members) true) slots).run (ofText rest)

/-- A sign that is a value fills its place. -/
theorem readsOn_scalar (shown : IsSign text (.scalar document)) :
    ReadsOn (.value document) text := by
  intro progress slots rest awaits ends
  rw [ofText_sign shown ends]
  exact run_cons (awaits nofun)

/-- A quoted key is the name of the member whose value follows. -/
theorem run_key {key : Option String} {before : List (Option String × Document)}
    (named : WritesKey key text) (awaits : progress.AwaitsKey before slots) :
    progress.run (ofText (text ++ ':' :: rest)) =
      (Progress.value (.member before key :: slots)).run (ofText rest) := by
  cases named with
  | @spaced _ body _ gap quotable gapBehind =>
      have ends : EndsNumber (':' :: rest) := rfl
      have keyed : progress.take (.scalar (.string (quotedValue? body))) =
          some (.afterKey before (quotedValue? body) slots) := awaits nofun
      rw [List.append_assoc, List.append_assoc, ofText_gap gap,
        ofText_sign (isSign_quoted quotable) (endsNumber_gap gapBehind ends), ofText_gap gapBehind,
        run_cons keyed, ofText_mark rfl]
      exact run_cons rfl

theorem readsOn_of_writes (written : Writes content text) : ReadsOn content text := by
  induction written with
  | null => exact readsOn_scalar isSign_null
  | yes => exact readsOn_scalar (isSign_bool true)
  | no => exact readsOn_scalar (isSign_bool false)
  | number parts => exact readsOn_scalar (isSign_number parts)
  | string quotable => exact readsOn_scalar (isSign_quoted quotable)
  | array inside ih =>
      intro progress slots rest awaits ends
      have opens : progress.take .openArray = some (.firstItem slots) := awaits nofun
      rw [List.cons_append, List.append_assoc, List.singleton_append, ofText_mark rfl,
        run_cons opens]
      exact ih awaitsValue_firstItem fun _ => rfl
  | object inside ih =>
      intro progress slots rest awaits ends
      have opens : progress.take .openObject = some (.firstKey slots) := awaits nofun
      rw [List.cons_append, List.append_assoc, List.singleton_append, ofText_mark rfl,
        run_cons opens]
      exact ih awaitsKey_firstKey fun _ => rfl
  | spaced gap value gapBehind ih =>
      intro progress slots rest awaits ends
      rw [List.append_assoc, List.append_assoc, ofText_gap gap,
        ih awaits (endsNumber_gap gapBehind ends), ofText_gap gapBehind]
  | noItem gap =>
      intro progress before slots rest awaits closes
      rw [ofText_gap gap, ofText_mark rfl, run_cons (closes rfl), List.append_nil]
  | @lastItem text item value ih =>
      intro progress before slots rest awaits closes
      have ends : EndsNumber (']' :: rest) := rfl
      have closed : (fill item (.item before :: slots)).take .closeArray =
          some (fill (.array (item :: before).reverse true) slots) := rfl
      rw [ih awaits ends, ofText_mark rfl, run_cons closed, List.reverse_cons]
  | @moreItems text more item next items value others ih ihMore =>
      intro progress before slots rest awaits closes
      have ends : EndsNumber (',' :: (more ++ ']' :: rest)) := rfl
      have onward : (fill item (.item before :: slots)).take .comma =
          some (.value (.item (item :: before) :: slots)) := rfl
      rw [List.append_assoc, List.cons_append, ih awaits ends, ofText_mark rfl, run_cons onward,
        ihMore awaitsValue_value nofun, List.reverse_cons, List.append_assoc, List.singleton_append]
  | noMember gap =>
      intro progress before slots rest awaits closes
      rw [ofText_gap gap, ofText_mark rfl, run_cons (closes rfl), List.append_nil]
  | @lastMember name text key item named value ih =>
      intro progress before slots rest awaits closes
      have ends : EndsNumber ('\x7d' :: rest) := rfl
      have closed : (fill item (.member before key :: slots)).take .closeObject =
          some (fill (.object ((key, item) :: before).reverse true) slots) := rfl
      rw [List.append_assoc, List.cons_append, run_key named awaits, ih awaitsValue_value ends,
        ofText_mark rfl, run_cons closed, List.reverse_cons]
  | @moreMembers name text more key item next members named value others ih ihMore =>
      intro progress before slots rest awaits closes
      have ends : EndsNumber (',' :: (more ++ '\x7d' :: rest)) := rfl
      have onward : (fill item (.member before key :: slots)).take .comma =
          some (.nextKey ((key, item) :: before) slots) := rfl
      rw [List.append_assoc, List.cons_append, List.append_assoc, List.cons_append,
        run_key named awaits, ih awaitsValue_value ends, ofText_mark rfl, run_cons onward,
        ihMore awaitsKey_nextKey nofun, List.reverse_cons, List.append_assoc, List.singleton_append]

/-- A text that writes a document is read as the document, and as nothing else. -/
theorem readDocument_of_writes (written : Writes (.spaced document) text) :
    readDocument text = (document, true) := by
  have read : (Progress.value []).run (ofText (text ++ [])) = _ :=
    readsOn_of_writes written awaitsValue_value rfl
  rw [List.append_nil] at read
  exact read

end PromScribe.Json

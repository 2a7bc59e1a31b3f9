import PromScribe.Text.Bytes

/-!
# Sweeps

A recogniser looks at one place of a text and accepts some characters from there on. A sweep tries
it at every place from left to right; accepted characters form one piece and are not looked at
again. The pieces of a sweep put together are the text.
-/

namespace PromScribe.Text

/-- An accepted run: the characters it covers beyond the first one, and what it stands for. -/
structure Hit (α : Type) where
  extra : Nat
  value : α

/-- Sees the character before a place, if any, and the text from the place on. -/
abbrev Recogniser (α : Type) := Option Char → List Char → Option (Hit α)

/-- A part of a swept text. -/
inductive Piece (α : Type) where
  | plain (c : Char)
  | hit (text : List Char) (value : α)

/-- The characters that the piece covers. -/
def Piece.text {α : Type} : Piece α → List Char
  | .plain c => [c]
  | .hit text _ => text

/-- The accepted value, if the piece is an accepted run. -/
def Piece.value? {α : Type} : Piece α → Option α
  | .plain _ => none
  | .hit _ value => some value

/-- Sweeps on after `skip` characters that the last accepted run still covers. -/
def sweepFrom {α : Type} (recognise : Recogniser α) :
    Option Char → Nat → List Char → List (Piece α)
  | _, _, [] => []
  | _, skip + 1, c :: rest => sweepFrom recognise (some c) skip rest
  | before, 0, c :: rest =>
      match recognise before (c :: rest) with
      | some hit =>
          .hit (c :: rest.take hit.extra) hit.value ::
            sweepFrom recognise (some c) hit.extra rest
      | none => .plain c :: sweepFrom recognise (some c) 0 rest

/-- The pieces of the text, in order. -/
def sweep {α : Type} (recognise : Recogniser α) (text : List Char) : List (Piece α) :=
  sweepFrom recognise none 0 text

theorem sweepFrom_text {α : Type} (recognise : Recogniser α) (before : Option Char) (skip : Nat)
    (text : List Char) :
    (sweepFrom recognise before skip text).flatMap Piece.text = text.drop skip := by
  induction text generalizing before skip with
  | nil => simp [sweepFrom]
  | cons c rest ih =>
      cases skip with
      | succ skip => simp [sweepFrom, ih]
      | zero =>
          simp only [sweepFrom]
          split <;> simp [Piece.text, ih, List.take_append_drop]

theorem sweep_text {α : Type} (recognise : Recogniser α) (text : List Char) :
    (sweep recognise text).flatMap Piece.text = text := by
  simp [sweep, sweepFrom_text]

/-- The text with every accepted run replaced. -/
def rewriteWith {α : Type} (recognise : Recogniser α) (written : α → List Char)
    (text : List Char) : List Char :=
  (sweep recognise text).flatMap fun
    | .plain c => [c]
    | .hit _ value => written value

/-- The accepted values, in order. -/
def valuesOf {α : Type} (recognise : Recogniser α) (text : List Char) : List α :=
  (sweep recognise text).filterMap Piece.value?

/-- Some place of the text is accepted. -/
def anywhere {α : Type} (recognise : Recogniser α) (text : List Char) : Bool :=
  !(valuesOf recognise text).isEmpty

/-- An accepted run with its place: bytes `start` up to `stop`. -/
structure Span (α : Type) where
  value : α
  text : List Char
  start : Nat
  stop : Nat

/-- The accepted runs of pieces that begin at the byte `offset`. -/
def spansFrom {α : Type} (offset : Nat) : List (Piece α) → List (Span α)
  | [] => []
  | .plain c :: rest => spansFrom (offset + c.utf8Size) rest
  | .hit text value :: rest =>
      let stop := offset + byteLength text
      ⟨value, text, offset, stop⟩ :: spansFrom stop rest

/-- The accepted runs of the text with their places, in order. -/
def spansOf {α : Type} (recognise : Recogniser α) (text : List Char) : List (Span α) :=
  spansFrom 0 (sweep recognise text)

end PromScribe.Text

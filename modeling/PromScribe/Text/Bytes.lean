/-!
# Lengths in bytes

Lengths and offsets of text are counted in bytes of its UTF-8 form.
-/

namespace PromScribe.Text

/-- The number of bytes of the text. -/
def byteLength : List Char → Nat
  | [] => 0
  | c :: rest => c.utf8Size + byteLength rest

@[simp] theorem byteLength_append (left right : List Char) :
    byteLength (left ++ right) = byteLength left + byteLength right := by
  induction left with
  | nil => simp [byteLength]
  | cons c rest ih => simp [byteLength, ih, Nat.add_assoc]

theorem length_le_byteLength (text : List Char) : text.length ≤ byteLength text := by
  induction text with
  | nil => exact Nat.le_refl _
  | cons c rest ih =>
      have := Char.utf8Size_pos c
      simp only [List.length_cons, byteLength]
      omega

/-- The number of bytes of the string. -/
def byteCount (text : String) : Nat :=
  byteLength text.toList

/-- The bytes of one character, highest part first. -/
def utf8Bytes (c : Char) : List Nat :=
  let code := c.toNat
  if code < 0x80 then [code]
  else if code < 0x800 then [0xC0 + code / 0x40, 0x80 + code % 0x40]
  else if code < 0x10000 then
    [0xE0 + code / 0x1000, 0x80 + code / 0x40 % 0x40, 0x80 + code % 0x40]
  else
    [0xF0 + code / 0x40000, 0x80 + code / 0x1000 % 0x40, 0x80 + code / 0x40 % 0x40,
      0x80 + code % 0x40]

/-- The bytes of the text. -/
def bytes (text : List Char) : List Nat :=
  text.flatMap utf8Bytes

end PromScribe.Text

/-!
# Text as it arrives

A stream of bytes seen as text. A `Glyph` is a character, or a single byte that belongs to no
UTF-8 character, so every list of bytes is a `Text`, and the bytes of a string are a `Text` of
characters only.

- `Text.ofBytes` reads bytes; `Text.ofString` is the text of a string.
- `Text.toString?` is the string a text spells, if it holds characters only.
- `encode` writes a string as bytes.
-/

namespace Signoff

/-- Bytes of a file, a line or a stream. -/
abbrev Bytes := List UInt8

/-- A character, or `none` for a byte that belongs to no UTF-8 character. -/
abbrev Glyph := Option Char

/-- The number of bytes a glyph takes. -/
def Glyph.size : Glyph → Nat
  | some c => c.utf8Size
  | none => 1

/-- Text that may hold stray bytes. -/
abbrev Text := List Glyph

namespace Text

/-- The glyphs of `bytes` from position `i` on, put after `acc`, which is held in reverse. -/
def ofByteArray (bytes : ByteArray) (i : Nat) (acc : Text) : Text :=
  if _ : i < bytes.size then
    match bytes.utf8DecodeChar? i with
    | some c => ofByteArray bytes (i + c.utf8Size) (some c :: acc)
    | none => ofByteArray bytes (i + 1) (none :: acc)
  else acc.reverse
termination_by bytes.size - i
decreasing_by
  · have := c.utf8Size_pos; omega
  · omega

/-- Reads bytes: every byte that starts no UTF-8 character stands for itself. -/
def ofBytes (bytes : Bytes) : Text := ofByteArray bytes.toByteArray 0 []

/-- The text of a list of characters. -/
def ofChars (cs : List Char) : Text := cs.map some

/-- The text of a string. -/
def ofString (s : String) : Text := ofChars s.toList

/-- The characters of a text that holds no stray byte. -/
def toChars? : Text → Option (List Char)
  | [] => some []
  | none :: _ => none
  | some c :: rest => (toChars? rest).map (c :: ·)

/-- The string that a text spells, if it holds no stray byte. -/
def toString? (t : Text) : Option String := (toChars? t).map String.ofList

/-- The number of bytes of a text. -/
def size : Text → Nat
  | [] => 0
  | g :: rest => Glyph.size g + size rest

@[simp] theorem toChars?_ofChars (cs : List Char) : toChars? (ofChars cs) = some cs := by
  induction cs with
  | nil => rfl
  | cons c cs ih => simpa [ofChars, toChars?] using ih

@[simp] theorem toString?_ofString (s : String) : toString? (ofString s) = some s := by
  simp [toString?, ofString]

end Text

/-- The bytes of a list of characters. -/
def encodeChars (cs : List Char) : Bytes := cs.flatMap String.utf8EncodeChar

/-- The bytes of a string. -/
def encode (s : String) : Bytes := encodeChars s.toList

/-- The string whose bytes these are, if they are UTF-8. -/
def decode? (bytes : Bytes) : Option String := String.fromUTF8? bytes.toByteArray

end Signoff

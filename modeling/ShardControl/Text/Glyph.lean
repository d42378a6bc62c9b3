/-!
# Characters of a byte string

A byte string is read as the characters that UTF-8 gives it.  A byte that is
part of no character stands alone, as `none`; a text in UTF-8 has no such byte.
-/

namespace ShardControl

/-- A character, or a byte outside every character. -/
abbrev Glyph := Option Char

namespace Glyph

/-- Read on from a position: a character where one starts, else a lone byte. -/
def readFrom (bytes : ByteArray) (position : Nat) : List Glyph :=
  if _inside : position < bytes.size then
    match bytes.utf8DecodeChar? position with
    | some c =>
        have : 0 < c.utf8Size := c.utf8Size_pos
        some c :: readFrom bytes (position + c.utf8Size)
    | none => none :: readFrom bytes (position + 1)
  else []
termination_by bytes.size - position

def ofBytes (bytes : ByteArray) : List Glyph :=
  match String.fromUTF8? bytes with
  | some text => text.toList.map some
  | none => readFrom bytes 0

def ofChars (chars : List Char) : List Glyph := chars.map some

/-- The bytes of a text have just its characters as glyphs. -/
theorem ofBytes_toUTF8 (text : String) : ofBytes text.toUTF8 = ofChars text.toList := by
  have same : String.fromUTF8? text.toUTF8 = some text := dif_pos text.isValidUTF8
  simp only [ofBytes, same, ofChars]

end Glyph

end ShardControl

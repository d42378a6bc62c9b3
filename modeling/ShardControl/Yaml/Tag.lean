import ShardControl.Text.Decimal
import ShardControl.Yaml.Cursor
import ShardControl.Yaml.Token

/-!
# Anchors, tags and directives

The names that are put on values, and the lines in front of a document that
say its version and what the tags in it stand for.
-/

namespace ShardControl.Yaml

/-! ## Anchors -/

def endsName : List Char → Bool
  | [] => true
  | c :: _ =>
      isBlank c || isBreak c || c = '?' || c = ':' || c = ',' || c = ']' || c = '\x7d' ||
        c = '%' || c = '@' || c = '\x60'

def readName? (cursor : Cursor) : Option (String × Cursor) :=
  let (name, after) := cursor.span isNameChar
  if name.isEmpty || !endsName after.rest then none else some (String.ofList name, after)

/-! ## Tags -/

def isTagChar (quoted : Bool) (c : Char) : Bool :=
  isNameChar c || ";/?:@&=+$.%!~*'()".toList.contains c ||
    (quoted && (c = ',' || c = '[' || c = ']'))

def escapedByte? : List Char → Option (Nat × List Char)
  | '%' :: high :: low :: rest =>
      match Decimal.digitIn? 16 high, Decimal.digitIn? 16 low with
      | some high, some low => some (high * 16 + low, rest)
      | _, _ => none
  | _ => none

def byteCount? (byte : Nat) : Option Nat :=
  if byte < 0x80 then some 1
  else if 0xC0 ≤ byte ∧ byte < 0xE0 then some 2
  else if 0xE0 ≤ byte ∧ byte < 0xF0 then some 3
  else if 0xF0 ≤ byte ∧ byte < 0xF8 then some 4
  else none

def trailBytes? : Nat → List Char → Option (Tag × List Char)
  | 0, rest => some ([], rest)
  | count + 1, chars =>
      (escapedByte? chars).bind fun (byte, rest) =>
        if 0x80 ≤ byte ∧ byte < 0xC0 then
          (trailBytes? count rest).map fun (more, after) => (byte.toUInt8 :: more, after)
        else none

/-- The bytes of an escaped character, of which only the first bits are looked at. -/
def escapedBytes? (chars : List Char) : Option (Tag × List Char) := do
  let (first, rest) ← escapedByte? chars
  let count ← byteCount? first
  let (more, after) ← trailBytes? (count - 1) rest
  return (first.toUInt8 :: more, after)

def tagBytes? (quoted : Bool) : Nat → Cursor → Option (Tag × Cursor)
  | 0, cursor => some ([], cursor)
  | bound + 1, cursor =>
      match cursor.rest with
      | '%' :: _ =>
          (escapedBytes? cursor.rest).bind fun (bytes, rest) =>
            let behind := cursor.skip (cursor.rest.length - rest.length)
            (tagBytes? quoted bound behind).map fun (more, after) => (bytes ++ more, after)
      | c :: _ =>
          if isTagChar quoted c then
            (tagBytes? quoted bound (cursor.skip 1)).map fun (more, after) =>
              (c.toNat.toUInt8 :: more, after)
          else some ([], cursor)
      | [] => some ([], cursor)

def readTagBytes? (quoted : Bool) (cursor : Cursor) : Option (Tag × Cursor) :=
  tagBytes? quoted cursor.rest.length cursor

/-- A tag counts up to its first zero byte. -/
def Tag.upToZero (bytes : Tag) : Tag := bytes.takeWhile (· ≠ 0)

/-- Whether a tag is over here; between brackets a comma may end it. -/
def endsTag (flow : Bool) (rest : List Char) : Bool := atGap rest || (flow && rest.head? = some ',')

/-- A handle: an exclamation mark, and perhaps a name with another mark behind it. -/
def readHandle (cursor : Cursor) : List Char × Cursor :=
  let (name, behind) := (cursor.skip 1).span isNameChar
  if behind.sees '!' then ('!' :: name ++ ['!'], behind.skip 1) else ('!' :: name, behind)

/-- A tag as it is written: quoted, a handle with a suffix, or a suffix alone. -/
def readTag? (flow : Bool) (cursor : Cursor) : Option (Token × Cursor) := do
  let (handle, suffix, after) ←
    match cursor.rest with
    | '!' :: '<' :: _ => do
        let (bytes, behind) ← readTagBytes? true (cursor.skip 2)
        if bytes.isEmpty || !behind.sees '>' then none
        else some ("", bytes.upToZero, behind.skip 1)
    | _ => do
        let (handle, behind) := readHandle cursor
        let (bytes, after) ← readTagBytes? false behind
        if 1 < handle.length && handle.getLast? = some '!' then
          if bytes.isEmpty then none else some (String.ofList handle, bytes.upToZero, after)
        else
          let suffix := Tag.upToZero (Tag.ofString (String.ofList handle.tail) ++ bytes)
          if suffix.isEmpty then some ("", Tag.ofString "!", after) else some ("!", suffix, after)
  if endsTag flow after.rest then some (.tag handle suffix, after) else none

/-! ## Directives -/

/-- A number of at most nine digits. -/
def readVersionPart? (cursor : Cursor) : Option (Nat × Cursor) :=
  let (digits, after) := cursor.span Char.isDigit
  if 9 < digits.length then none
  else (Decimal.read? 10 digits).map fun number => (number, after)

def readVersion? (cursor : Cursor) : Option (Token × Cursor) := do
  let (major, dot) ← readVersionPart? cursor
  if !dot.sees '.' then none
  let (minor, after) ← readVersionPart? (dot.skip 1)
  return (.version major minor, after)

def readTagRule? (cursor : Cursor) : Option (Token × Cursor) := do
  if !cursor.sees '!' then none
  let (handle, behind) := readHandle cursor
  if handle.getLast? ≠ some '!' || !behind.rest.head?.any isBlank then none
  let (head, after) ← readTagBytes? true (behind.pass isBlank)
  if head.isEmpty || !atGap after.rest then none
  return (.tagRule (String.ofList handle) head.upToZero, after)

/-- A directive behind its sign, with the line that it stands on. -/
def readDirective? (cursor : Cursor) : Option (Token × Cursor) := do
  let (name, behind) := cursor.span isNameChar
  if !atGap behind.rest then none
  let start := behind.pass isBlank
  let (directive, after) ←
    if name = "YAML".toList then readVersion? start
    else if name = "TAG".toList then readTagRule? start
    else none
  return (directive, ← after.endLine?)

end ShardControl.Yaml

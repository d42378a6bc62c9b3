import ShardControl.Json.Basic
import ShardControl.Text.Decimal

/-!
# Writing structured text

A value is written compactly, without any blank, or indented, with every item
and member on a line of its own.  Strings escape the quote, the backslash and
the control characters below a space; every other character stands for itself.
-/

namespace ShardControl.Json

def hexDigit (n : Nat) : Char :=
  if n < 10 then Char.ofNat ('0'.toNat + n) else Char.ofNat ('a'.toNat + (n - 10))

def escape (c : Char) : List Char :=
  if c = '"' then ['\\', '"']
  else if c = '\\' then ['\\', '\\']
  else if c = '\x08' then ['\\', 'b']
  else if c = '\t' then ['\\', 't']
  else if c = '\n' then ['\\', 'n']
  else if c = '\x0c' then ['\\', 'f']
  else if c = '\r' then ['\\', 'r']
  else if c.toNat < 32 then ['\\', 'u', '0', '0', hexDigit (c.toNat / 16), hexDigit (c.toNat % 16)]
  else [c]

/-- A quoted string. A string that is not Unicode text is written as a lone surrogate. -/
def quoted : JsonText → List Char
  | some content => '"' :: (content.toList.flatMap escape ++ ['"'])
  | none => ['"', '\\', 'u', 'd', '8', '0', '0', '"']

structure Layout where
  line : Nat → List Char
  colon : List Char

namespace Layout

def compact : Layout where
  line _ := []
  colon := [':']

/-- A line for every part, two spaces deeper inside each bracket. -/
def indented : Layout where
  line depth := '\n' :: List.replicate (2 * depth) ' '
  colon := [':', ' ']

end Layout

/-- A number; one that is no integer numeral is written as negative zero. -/
def numeral : Option Int → List Char
  | some (.ofNat value) => Decimal.numeral value
  | some (.negSucc less) => '-' :: Decimal.numeral (less + 1)
  | none => ['-', '0']

mutual

def chars (layout : Layout) (depth : Nat) : Json → List Char
  | .null => ['n', 'u', 'l', 'l']
  | .bool true => ['t', 'r', 'u', 'e']
  | .bool false => ['f', 'a', 'l', 's', 'e']
  | .num value => numeral value
  | .str content => quoted content
  | .arr [] => ['[', ']']
  | .arr (first :: rest) =>
      '[' :: (layout.line (depth + 1) ++ chars layout (depth + 1) first ++
        itemChars layout (depth + 1) rest ++ layout.line depth ++ [']'])
  | .obj [] => ['{', '}']
  | .obj ((name, value) :: rest) =>
      '{' :: (layout.line (depth + 1) ++ quoted name ++ layout.colon ++
        chars layout (depth + 1) value ++ memberChars layout (depth + 1) rest ++
        layout.line depth ++ ['}'])

def itemChars (layout : Layout) (depth : Nat) : List Json → List Char
  | [] => []
  | item :: rest =>
      ',' :: (layout.line depth ++ chars layout depth item ++ itemChars layout depth rest)

def memberChars (layout : Layout) (depth : Nat) : List (JsonText × Json) → List Char
  | [] => []
  | (name, value) :: rest =>
      ',' :: (layout.line depth ++ quoted name ++ layout.colon ++ chars layout depth value ++
        memberChars layout depth rest)

end

def compact (value : Json) : String := String.ofList (chars .compact 0 value)

def indented (value : Json) : String := String.ofList (chars .indented 0 value)

end ShardControl.Json

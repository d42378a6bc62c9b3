import ShardControl.Json.Basic
import ShardControl.Text.Decimal
import ShardControl.Text.Glyph

/-!
# Reading structured text

The whole of the text must be one value.  Blanks are the space, the tab, the
line feed and the carriage return.  A string may hold unpaired surrogates and
bytes outside UTF-8: it is then read as a string without content, since only a
reader that needs the content has to refuse it.
-/

namespace ShardControl.Json

def isBlank : Glyph → Bool
  | some ' ' => true
  | some '\t' => true
  | some '\n' => true
  | some '\r' => true
  | _ => false

def skipBlanks (input : List Glyph) : List Glyph := input.dropWhile isBlank

/-! ## Strings -/

/-- What a string is made of before its surrogates are paired. -/
inductive Piece where
  | char (c : Char)
  | unit (value : Nat)
  | stray

def escaped? : Char → Option Char
  | '"' => some '"'
  | '\\' => some '\\'
  | '/' => some '/'
  | 'b' => some '\x08'
  | 'f' => some '\x0c'
  | 'n' => some '\n'
  | 'r' => some '\r'
  | 't' => some '\t'
  | _ => none

def hex4? (a b c d : Glyph) : Option Nat :=
  match a, b, c, d with
  | some a, some b, some c, some d => Decimal.readOnto 16 0 [a, b, c, d]
  | _, _, _, _ => none

/-- A four-digit escape is a character unless it is half of a surrogate pair. -/
def Piece.ofUnit (value : Nat) : Piece :=
  if 0xD800 ≤ value ∧ value < 0xE000 then .unit value else .char (Char.ofNat value)

/-- The pieces up to the closing quote, and what follows it. -/
def pieces : List Glyph → Option (List Piece × List Glyph)
  | [] => none
  | some '"' :: rest => some ([], rest)
  | some '\\' :: some 'u' :: a :: b :: c :: d :: rest =>
      match hex4? a b c d, pieces rest with
      | some value, some (more, after) => some (Piece.ofUnit value :: more, after)
      | _, _ => none
  | some '\\' :: some letter :: rest =>
      match escaped? letter, pieces rest with
      | some c, some (more, after) => some (.char c :: more, after)
      | _, _ => none
  | some '\\' :: _ => none
  | some c :: rest =>
      if c.toNat < 32 then none
      else
        match pieces rest with
        | some (more, after) => some (.char c :: more, after)
        | none => none
  | none :: rest =>
      match pieces rest with
      | some (more, after) => some (.stray :: more, after)
      | none => none

/-- The characters of the pieces, where every surrogate has its partner. -/
def joined : List Piece → Option (List Char)
  | [] => some []
  | .char c :: rest => (joined rest).map (c :: ·)
  | .unit high :: .unit low :: rest =>
      if high < 0xDC00 ∧ 0xDC00 ≤ low then
        (joined rest).map (Char.ofNat (0x10000 + (high - 0xD800) * 0x400 + (low - 0xDC00)) :: ·)
      else none
  | _ :: _ => none

def readString (input : List Glyph) : Option (JsonText × List Glyph) :=
  (pieces input).map fun (parts, rest) => ((joined parts).map String.ofList, rest)

/-! ## Numbers -/

def isDigit : Glyph → Bool
  | some c => (Decimal.digit? c).isSome
  | none => false

def digits (input : List Glyph) : List Glyph × List Glyph :=
  (input.takeWhile isDigit, input.dropWhile isDigit)

/-- The digits of a whole part: no zero in front of others. -/
def readWhole (input : List Glyph) : Option (List Glyph × List Glyph) :=
  match digits input with
  | ([], _) => none
  | (some '0' :: _ :: _, _) => none
  | split => some split

/-- An optional fraction; the first answer is whether there was one. -/
def readFraction : List Glyph → Option (Bool × List Glyph)
  | some '.' :: rest =>
      match digits rest with
      | ([], _) => none
      | (_, after) => some (true, after)
  | input => some (false, input)

def readExponentDigits (input : List Glyph) : Option (Bool × List Glyph) :=
  let unsigned := match input with
    | some '+' :: rest => rest
    | some '-' :: rest => rest
    | rest => rest
  match digits unsigned with
  | ([], _) => none
  | (_, after) => some (true, after)

def readExponent : List Glyph → Option (Bool × List Glyph)
  | some 'e' :: rest => readExponentDigits rest
  | some 'E' :: rest => readExponentDigits rest
  | input => some (false, input)

/-- A numeral without its sign; it has a value if it is a plain natural numeral. -/
def readUnsigned (input : List Glyph) : Option (Option Nat × List Glyph) := do
  let (whole, afterWhole) ← readWhole input
  let (hasFraction, afterFraction) ← readFraction afterWhole
  let (hasExponent, rest) ← readExponent afterFraction
  let value := if hasFraction || hasExponent then none else Decimal.read? 10 (whole.filterMap id)
  return (value, rest)

/-- A number. Negative zero is no plain integer numeral. -/
def readNumber : List Glyph → Option (Option Int × List Glyph)
  | some '-' :: rest =>
      (readUnsigned rest).map fun (value, after) =>
        ((value.filter (· ≠ 0)).map fun magnitude => -magnitude, after)
  | input => (readUnsigned input).map fun (value, after) => (value.map Int.ofNat, after)

/-! ## Values -/

mutual

/-- A value, blanks before it included. The fuel bounds the brackets and items passed. -/
def readValue : Nat → List Glyph → Option (Json × List Glyph)
  | 0, _ => none
  | fuel + 1, input =>
      match skipBlanks input with
      | some 'n' :: some 'u' :: some 'l' :: some 'l' :: rest => some (.null, rest)
      | some 't' :: some 'r' :: some 'u' :: some 'e' :: rest => some (.bool true, rest)
      | some 'f' :: some 'a' :: some 'l' :: some 's' :: some 'e' :: rest =>
          some (.bool false, rest)
      | some '"' :: rest => (readString rest).map fun (content, after) => (.str content, after)
      | some '[' :: rest =>
          match skipBlanks rest with
          | some ']' :: after => some (.arr [], after)
          | _ => (readItems fuel rest).map fun (items, after) => (.arr items, after)
      | some '{' :: rest =>
          match skipBlanks rest with
          | some '}' :: after => some (.obj [], after)
          | _ => (readMembers fuel rest).map fun (members, after) => (.obj members, after)
      | other => (readNumber other).map fun (value, after) => (.num value, after)

def readItems : Nat → List Glyph → Option (List Json × List Glyph)
  | 0, _ => none
  | fuel + 1, input =>
      match readValue fuel input with
      | none => none
      | some (item, after) =>
          match skipBlanks after with
          | some ']' :: rest => some ([item], rest)
          | some ',' :: rest =>
              (readItems fuel rest).map fun (items, last) => (item :: items, last)
          | _ => none

def readMembers : Nat → List Glyph → Option (List (JsonText × Json) × List Glyph)
  | 0, _ => none
  | fuel + 1, input =>
      match skipBlanks input with
      | some '"' :: nameInput =>
          match readString nameInput with
          | none => none
          | some (name, afterName) =>
              match skipBlanks afterName with
              | some ':' :: valueInput =>
                  match readValue fuel valueInput with
                  | none => none
                  | some (value, after) =>
                      match skipBlanks after with
                      | some '}' :: rest => some ([(name, value)], rest)
                      | some ',' :: rest =>
                          (readMembers fuel rest).map fun (members, last) =>
                            ((name, value) :: members, last)
                      | _ => none
              | _ => none
      | _ => none

end

/-- The value that a whole text is, blanks around it aside. -/
def ofGlyphs? (input : List Glyph) : Option Json :=
  match readValue (2 * input.length + 2) input with
  | some (value, rest) => if (skipBlanks rest).isEmpty then some value else none
  | none => none

def ofBytes? (bytes : ByteArray) : Option Json := ofGlyphs? (Glyph.ofBytes bytes)

end ShardControl.Json

/-!
# Places in configuration markup

The classes of characters that the markup tells apart, and cursors that know
how far into the text they are.
-/

namespace ShardControl.Yaml

/-! ## Characters -/

def isBlank (c : Char) : Bool := c = ' ' || c = '\t'

/-- The characters that end a line, once the other breaks are written as line feeds. -/
def isBreak (c : Char) : Bool := c = '\n' || c = '\u2028' || c = '\u2029'

/-- Whether a blank, a line break or the end of the text comes next. -/
def atGap : List Char → Bool
  | [] => true
  | c :: _ => isBlank c || isBreak c

def atLineEnd : List Char → Bool
  | [] => true
  | c :: _ => isBreak c

/-- The characters that brackets and commas end a scalar with. -/
def isFlowMark (c : Char) : Bool :=
  c = ',' || c = '[' || c = ']' || c = '\x7b' || c = '\x7d'

/-- The characters of names: ASCII letters and digits, the hyphen and the low line. -/
def isNameChar (c : Char) : Bool := c.isAlphanum || c = '-' || c = '_'

def isAllowed (c : Char) : Bool :=
  let n := c.toNat
  n = 0x9 || n = 0xA || n = 0xD || (0x20 ≤ n && n ≤ 0x7E) || n = 0x85 ||
    (0xA0 ≤ n && n ≤ 0xFFFD) || 0x10000 ≤ n

/-- Write a carriage return, alone or before a line feed, and a next line as a line feed. -/
def unifyBreaks : List Char → List Char
  | '\r' :: '\n' :: rest => '\n' :: unifyBreaks rest
  | '\r' :: rest => '\n' :: unifyBreaks rest
  | '\x85' :: rest => '\n' :: unifyBreaks rest
  | c :: rest => c :: unifyBreaks rest
  | [] => []

def atDocumentStart : List Char → Bool
  | '-' :: '-' :: '-' :: rest => atGap rest
  | _ => false

def atDocumentEnd : List Char → Bool
  | '.' :: '.' :: '.' :: rest => atGap rest
  | _ => false

/-! ## Places -/

/-- How far into a text a place lies: lines, columns of the line, and bytes in all. -/
structure Place where
  line : Nat
  column : Nat
  offset : Nat

def Place.after (place : Place) (c : Char) : Place :=
  if isBreak c then ⟨place.line + 1, 0, place.offset + c.utf8Size⟩
  else ⟨place.line, place.column + 1, place.offset + c.utf8Size⟩

structure Cursor extends Place where
  rest : List Char

namespace Cursor

def start (text : List Char) : Cursor := ⟨⟨0, 0, 0⟩, text⟩

def skip (cursor : Cursor) (count : Nat) : Cursor where
  toPlace := (cursor.rest.take count).foldl Place.after cursor.toPlace
  rest := cursor.rest.drop count

/-- The characters in front that belong to a class, and the cursor behind them. -/
def span (cursor : Cursor) (member : Char → Bool) : List Char × Cursor :=
  let found := cursor.rest.takeWhile member
  (found, cursor.skip found.length)

def pass (cursor : Cursor) (member : Char → Bool) : Cursor := (cursor.span member).2

def sees (cursor : Cursor) (c : Char) : Bool := cursor.rest.head? = some c

/-- Whether a document mark stands here; it has its place at the start of a line. -/
def atMark (cursor : Cursor) : Bool :=
  cursor.column = 0 && (atDocumentStart cursor.rest || atDocumentEnd cursor.rest)

/-- The cursor behind the blanks, the comment and the line break that end a line. -/
def endLine? (cursor : Cursor) : Option Cursor :=
  let behind := cursor.pass isBlank
  let last := if behind.sees '#' then behind.pass fun c => !isBreak c else behind
  match last.rest with
  | [] => some last
  | c :: _ => if isBreak c then some (last.skip 1) else none

end Cursor

end ShardControl.Yaml

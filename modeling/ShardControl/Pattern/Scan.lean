import ShardControl.Pattern.Basic
import ShardControl.Pattern.Nesting
import ShardControl.Text.Blank

/-!
# Scanning patterns

The place that the reader of a pattern has come to, and the flags that hold
there.  A text may be well formed and still be refused for what it means; of
such refusals the first one counts.
-/

namespace ShardControl.Pattern

structure Flags where
  ignoreCase : Bool
  multiLine : Bool
  dotAll : Bool
  swapGreed : Bool
  unicode : Bool
  returns : Bool
  /-- Whether white space and comments are left out. -/
  spaced : Bool

namespace Flags

def standard : Flags := ⟨false, false, false, false, true, false, false⟩

def set? (flags : Flags) (letter : Char) (value : Bool) : Option Flags :=
  match letter with
  | 'i' => some { flags with ignoreCase := value }
  | 'm' => some { flags with multiLine := value }
  | 's' => some { flags with dotAll := value }
  | 'U' => some { flags with swapGreed := value }
  | 'u' => some { flags with unicode := value }
  | 'R' => some { flags with returns := value }
  | 'x' => some { flags with spaced := value }
  | _ => none

end Flags

structure Scan where
  rest : List Char
  /-- How many characters have been passed. -/
  offset : Nat
  flags : Flags
  /-- The names of groups, and where they stand. -/
  names : List (List Char × Span)
  refusal : Option Fault

namespace Scan

def start (chars : List Char) : Scan := ⟨chars, 0, .standard, [], none⟩

def isOver (scan : Scan) : Bool := scan.rest.isEmpty

def sees (scan : Scan) (c : Char) : Bool := scan.rest.head? = some c

def skip (scan : Scan) (count : Nat) : Scan :=
  { scan with rest := scan.rest.drop count, offset := scan.offset + min count scan.rest.length }

/-- How many characters in front are white space or belong to comments. -/
def spaces : Bool → List Char → Nat
  | _, [] => 0
  | true, c :: rest => 1 + spaces (c ≠ '\n') rest
  | false, c :: rest =>
      if Text.isBlank c then 1 + spaces false rest
      else if c = '#' then 1 + spaces true rest
      else 0

def skipSpace (scan : Scan) : Scan :=
  if scan.flags.spaced then scan.skip (spaces false scan.rest) else scan

/-- Pass a character and the white space behind it. -/
def next (scan : Scan) : Scan := (scan.skip 1).skipSpace

/--
The character behind the next one and the white space behind that.  One sign
for comments is passed as white space is, and what only that is behind counts
as not passed.
-/
def lookBeyond (scan : Scan) : Option Char :=
  let behind := scan.rest.drop 1
  let found :=
    match behind.dropWhile Text.isBlank with
    | '#' :: rest => rest.dropWhile Text.isBlank
    | rest => rest
  if scan.flags.spaced && !found.isEmpty then found.head? else behind.head?

def spanFrom (scan : Scan) (start : Nat) : Span := ⟨start, scan.offset⟩

def here : Scan → Span := fun scan => ⟨scan.offset, scan.offset⟩

def nextSpan (scan : Scan) : Span := ⟨scan.offset, scan.offset + 1⟩

/-- Refuse a well-formed pattern for what some part of it means. -/
def refuse (scan : Scan) (kind : FaultKind) (span : Span) : Scan :=
  { scan with refusal := some (scan.refusal.getD ⟨kind, span, none⟩) }

end Scan

def fail {α : Type} (kind : FaultKind) (span : Span) : Except Fault α := .error ⟨kind, span, none⟩

/-! ## Decimal numbers -/

/-- The digits in front, with white space left out where it is. -/
def readDigits : Nat → Scan → List Char × Scan
  | 0, scan => ([], scan)
  | bound + 1, scan =>
      match scan.rest with
      | c :: _ =>
          if c.isDigit then
            let (digits, after) := readDigits bound scan.next
            (c :: digits, after)
          else ([], scan)
      | [] => ([], scan)

/-- Pass white space wherever it stands. -/
def Scan.skipBlanks (scan : Scan) : Scan :=
  scan.skip (scan.rest.takeWhile Text.isBlank).length

def readCount (scan : Scan) : Except Fault Nat × Scan :=
  let start := scan.skipBlanks
  let (digits, behind) := readDigits start.rest.length start
  let span := behind.spanFrom start.offset
  let found : Except Fault Nat :=
    match Decimal.read? 10 digits with
    | none => fail .repetitionCountDecimalEmpty span
    | some count => if count < UInt32.size then .ok count else fail .decimalInvalid span
  (found, behind.skipBlanks.skipSpace)

/-! ## Hexadecimal numbers -/

def hexChar? (digits : List Char) : Option Char :=
  (Decimal.read? 16 digits).bind fun value =>
    if value < 0xD800 || (0xDFFF < value && value ≤ 0x10FFFF) then some (Char.ofNat value) else none

def isHexDigit (c : Char) : Bool := (Decimal.digitIn? 16 c).isSome

/-- The digits of a number with some number of them; the scan stands on the last one. -/
def readHexDigits : Nat → Scan → Except Fault (List Char × Scan)
  | 0, scan => .ok ([], scan)
  | count + 1, scan =>
      match scan.rest with
      | [] => fail .escapeUnexpectedEnd scan.here
      | c :: _ =>
          if !isHexDigit c then fail .escapeHexInvalidDigit scan.nextSpan
          else
            match count with
            | 0 => .ok ([c], scan)
            | count + 1 => do
                let (digits, after) ← readHexDigits (count + 1) scan.next
                return (c :: digits, after)

/-- The digits of a number up to its closing brace, with a bound on their number. -/
def readBracedHex (opening : Nat) : Nat → Scan → Except Fault (List Char × Scan)
  | 0, scan => fail .escapeUnexpectedEnd (scan.spanFrom opening)
  | bound + 1, scan =>
      match scan.rest with
      | [] => fail .escapeUnexpectedEnd (scan.spanFrom opening)
      | c :: _ =>
          if c = '\x7d' then .ok ([], scan)
          else if !isHexDigit c then fail .escapeHexInvalidDigit scan.nextSpan
          else do
            let (digits, after) ← readBracedHex opening bound scan.next
            return (c :: digits, after)

def readHexChar (length : Nat) (scan : Scan) : Except Fault (Char × Bool × Scan) := do
  let start := scan.next
  match start.rest with
  | [] => fail .escapeUnexpectedEnd start.here
  | '\x7b' :: _ =>
      let (digits, closing) ← readBracedHex start.offset (start.rest.length + 1) start.next
      let after := closing.next
      if digits.isEmpty then fail .escapeHexEmpty (after.spanFrom start.offset)
      else
        match hexChar? digits with
        | some c => return (c, false, after)
        | none => fail .escapeHexInvalid ⟨start.offset + 1, closing.offset⟩
  | _ =>
      let (digits, last) ← readHexDigits length start
      let after := last.next
      match hexChar? digits with
      | some c => return (c, length = 2, after)
      | none => fail .escapeHexInvalid (after.spanFrom start.offset)

end ShardControl.Pattern

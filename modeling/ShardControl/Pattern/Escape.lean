import ShardControl.Pattern.Scan

/-!
# Single parts of patterns

Characters, escapes, and what they mean under the flags that hold.  Classes of
characters and cases beyond ASCII are not known, so a pattern that asks for
them is refused; without the flag for Unicode only ASCII is asked for.
-/

namespace ShardControl.Pattern

inductive Atom where
  /-- A character, and whether it is written as the number of a byte. -/
  | literal (c : Char) (byte : Bool)
  | dot
  | lineStart
  | lineEnd
  /-- A condition that is the same under all flags. -/
  | fixed (condition : Assertion)
  | word (condition : WordCondition)
  /-- A class with a letter of its own, and whether it is negated. -/
  | letterClass (set : Ranges) (negated : Bool)
  /-- A class with the name of a property, of which none is known. -/
  | property (missing : FaultKind)

structure Part where
  atom : Atom
  span : Span

/-! ## Reading -/

/-- The characters that mean something else where they are not escaped. -/
def isMeta (c : Char) : Bool := "\\.+*?()|[]\x7b\x7d^$#&-~".toList.contains c

def isEscapable (c : Char) : Bool :=
  isMeta c || (c.toNat < 0x80 && !c.isAlphanum && c ≠ '<' && c ≠ '>')

/--
The name of a property as it is compared: in small letters, without the word
in front that every name may have, and without what sets its parts apart.
-/
def propertyName (chars : List Char) : String :=
  let hasWord := (chars.take 2).map Char.toLower = ['i', 's']
  let kept := (if hasWord then chars.drop 2 else chars).filter fun c =>
    c.toNat < 0x80 && c ≠ ' ' && c ≠ '_' && c ≠ '-'
  let name := String.ofList (kept.map Char.toLower)
  if hasWord && name = "c" then "isc" else name

/-- Why a property is not known. Names of some general categories get as far as their value. -/
def missingProperty (chars : List Char) : FaultKind :=
  if chars.any (fun c => c = ':' || c = '=') then .propertyNotFound
  else if ["cf", "sc", "lc"].contains (propertyName chars) then .propertyValueNotFound
  else .propertyNotFound

def readBraced : Nat → Scan → List Char × Scan
  | 0, scan => ([], scan)
  | bound + 1, scan =>
      match scan.rest with
      | c :: _ =>
          if c = '\x7d' then ([], scan)
          else
            let (chars, after) := readBraced bound scan.next
            (c :: chars, after)
      | [] => ([], scan)

/-- A class behind the letter for properties. -/
def readProperty (start : Nat) (scan : Scan) : Except Fault (Part × Scan) :=
  let name := scan.next
  match name.rest with
  | [] => fail .escapeUnexpectedEnd name.here
  | '\x7b' :: _ =>
      let (chars, closing) := readBraced name.rest.length name.next
      if closing.isOver then fail .escapeUnexpectedEnd closing.here
      else
        let after := closing.skip 1
        .ok (⟨.property (missingProperty chars), after.spanFrom start⟩, after)
  | c :: _ =>
      if c = '\\' then fail .unicodeClassInvalid name.nextSpan
      else
        let after := name.next
        .ok (⟨.property (missingProperty [c]), after.spanFrom start⟩, after)

def wordCondition? (name : String) : Option WordCondition :=
  match name with
  | "start" => some .start
  | "end" => some .stop
  | "start-half" => some .noneBefore
  | "end-half" => some .noneAfter
  | _ => none

def isConditionChar (c : Char) : Bool := c.isAlpha || c = '-'

def readConditionName : Nat → Scan → List Char × Scan
  | 0, scan => ([], scan)
  | bound + 1, scan =>
      match scan.rest with
      | c :: _ =>
          if isConditionChar c then
            let (chars, after) := readConditionName bound scan.next
            (c :: chars, after)
          else ([], scan)
      | [] => ([], scan)

/-- The condition on words in braces behind an escape, if it is not a repetition. -/
def readWordCondition (start : Nat) (scan : Scan) : Except Fault (Option (WordCondition × Scan)) :=
  let inner := scan.next
  match inner.rest with
  | [] => fail .wordBoundaryUnexpectedEnd (inner.spanFrom start)
  | c :: _ =>
      if !isConditionChar c then .ok none
      else
        let (name, closing) := readConditionName inner.rest.length inner
        if !closing.sees '\x7d' then fail .wordBoundaryUnclosed (closing.spanFrom scan.offset)
        else
          match wordCondition? (String.ofList name) with
          | some condition => .ok (some (condition, closing.skip 1))
          | none => fail .wordBoundaryUnrecognized (closing.spanFrom inner.offset)

def letterAtom? : Char → Option Atom
  | 'a' => some (.literal '\x07' false)
  | 'f' => some (.literal '\x0c' false)
  | 't' => some (.literal '\t' false)
  | 'n' => some (.literal '\n' false)
  | 'r' => some (.literal '\r' false)
  | 'v' => some (.literal '\x0b' false)
  | 'A' => some (.fixed .textStart)
  | 'z' => some (.fixed .textEnd)
  | 'B' => some (.word .noBoundary)
  | '<' => some (.word .start)
  | '>' => some (.word .stop)
  | 'd' => some (.letterClass Ranges.digits false)
  | 's' => some (.letterClass Ranges.spaces false)
  | 'w' => some (.letterClass Ranges.wordChars false)
  | 'D' => some (.letterClass Ranges.digits true)
  | 'S' => some (.letterClass Ranges.spaces true)
  | 'W' => some (.letterClass Ranges.wordChars true)
  | _ => none

def hexLength? : Char → Option Nat
  | 'x' => some 2
  | 'u' => some 4
  | 'U' => some 8
  | _ => none

def readEscape (scan : Scan) : Except Fault (Part × Scan) := do
  let start := scan.offset
  let behind := scan.skip 1
  match behind.rest with
  | [] => fail .escapeUnexpectedEnd (behind.spanFrom start)
  | c :: _ =>
      let after := behind.skip 1
      let span := after.spanFrom start
      if c.isDigit then fail .unsupportedBackreference span
      else if c = 'p' || c = 'P' then readProperty start behind
      else
        match hexLength? c, letterAtom? c with
        | some length, _ =>
            let (found, byte, last) ← readHexChar length behind
            return (⟨.literal found byte, last.spanFrom start⟩, last)
        | _, some atom => return (⟨atom, span⟩, after)
        | none, none =>
            if c = 'b' then
              let special ← if after.sees '\x7b' then readWordCondition start after else pure none
              match special with
              | some (condition, last) => return (⟨.word condition, last.spanFrom start⟩, last)
              | none => return (⟨.word .boundary, span⟩, after)
            else if isEscapable c then return (⟨.literal c false, span⟩, after)
            else fail .escapeUnrecognized span

def readPart (scan : Scan) : Except Fault (Part × Scan) :=
  let plain (atom : Atom) : Except Fault (Part × Scan) :=
    .ok (⟨atom, scan.nextSpan⟩, scan.skip 1)
  match scan.rest with
  | '\\' :: _ => readEscape scan
  | '.' :: _ => plain .dot
  | '^' :: _ => plain .lineStart
  | '$' :: _ => plain .lineEnd
  | c :: _ => plain (.literal c false)
  | [] => fail .escapeUnexpectedEnd scan.here

/-! ## Meaning -/

/-- The set of a letter class; negated it holds more than ASCII. -/
def letterSet (scan : Scan) (ranges : Ranges) (negated : Bool) (span : Span) : CharSet × Scan :=
  (.ofRanges ranges,
   if scan.flags.unicode then scan.refuse .letterClassNotFound span
   else if negated then scan.refuse .invalidBytes span
   else scan)

def refuseProperty (scan : Scan) (missing : FaultKind) (span : Span) : Scan :=
  scan.refuse (if scan.flags.unicode then missing else .unicodeNotAllowed) span

/-- Refuse a byte beyond ASCII where characters are asked for. -/
def checkByte (scan : Scan) (c : Char) (byte : Bool) (span : Span) : Scan :=
  if !scan.flags.unicode && byte && 0x80 ≤ c.toNat then scan.refuse .invalidBytes span else scan

/-- A single character, in both cases if they count as one. -/
def literalPattern (scan : Scan) (c : Char) (byte : Bool) (span : Span) : Pattern × Scan :=
  let checked := checkByte scan c byte span
  if !scan.flags.ignoreCase then (literal [c], checked)
  else if scan.flags.unicode then (literal [c], checked.refuse .caseUnavailable span)
  else (ofRanges true (CharSet.nothing.addChar c).inBothCases.ranges, checked)

def dotRanges (flags : Flags) : Ranges :=
  let ends := if flags.dotAll then [] else if flags.returns then ['\n', '\r'] else ['\n']
  .complement Ranges.lastPoint (.ofPairs (ends.map fun c => (c, c)))

def Part.pattern (part : Part) (scan : Scan) : Pattern × Scan :=
  match part.atom with
  | .literal c byte => literalPattern scan c byte part.span
  | .dot =>
      (ofRanges false (dotRanges scan.flags),
       if scan.flags.unicode then scan else scan.refuse .invalidBytes part.span)
  | .lineStart =>
      (.assertion (if scan.flags.multiLine then .lineStart scan.flags.returns else .textStart),
       scan)
  | .lineEnd =>
      (.assertion (if scan.flags.multiLine then .lineEnd scan.flags.returns else .textEnd), scan)
  | .fixed condition => (.assertion condition, scan)
  | .word condition => (.assertion (.word condition scan.flags.unicode), scan)
  | .letterClass ranges negated =>
      let (found, after) := letterSet scan ranges negated part.span
      (ofRanges true found.ranges, after)
  | .property missing => (.empty, refuseProperty scan missing part.span)

end ShardControl.Pattern

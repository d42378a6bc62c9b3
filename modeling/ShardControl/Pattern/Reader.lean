import ShardControl.Pattern.ClassReader
import ShardControl.Pattern.Size
import ShardControl.Text.Letter

/-!
# Reading patterns

A pattern is read from left to right.  Flags hold up to the end of the group
that they are set in.  A text that is well formed may still be refused for
what it means, and a pattern for what it takes.
-/

namespace ShardControl.Pattern

/-! ## Groups -/

/-- The letters of flags up to the sign that ends them, where each of them stands. -/
structure FlagList where
  letters : List (Char × Span)
  last : Scan

/-- Flags up to a colon or a parenthesis, with those that are there already. -/
def readFlagLetters : Nat → List (Char × Span) → Scan → Except Fault FlagList
  | 0, _, scan => fail .flagUnexpectedEnd scan.here
  | bound + 1, found, scan =>
      match scan.rest with
      | [] => fail .flagUnexpectedEnd scan.here
      | c :: _ =>
          if c = ':' || c = ')' then
            match found.getLast? with
            | some ('-', span) => fail .flagDanglingNegation span
            | _ => .ok ⟨found, scan⟩
          else if c ≠ '-' && (Flags.standard.set? c true).isNone then
            fail .flagUnrecognized scan.nextSpan
          else
            match found.lookup c with
            | some earlier =>
                let kind := if c = '-' then .flagRepeatedNegation else .flagDuplicate
                .error ⟨kind, scan.nextSpan, some earlier⟩
            | none =>
                let after := scan.skip 1
                if after.isOver then fail .flagUnexpectedEnd after.here
                else readFlagLetters bound (found ++ [(c, scan.nextSpan)]) after

def setFlags (flags : Flags) (letters : List Char) : Flags :=
  let on := letters.takeWhile (· ≠ '-')
  let off := letters.drop (on.length + 1)
  let change (value : Bool) (flags : Flags) (letter : Char) : Flags :=
    (flags.set? letter value).getD flags
  off.foldl (change false) (on.foldl (change true) flags)

/-- Whether a character may stand in the name of a group, first or later. -/
def isGroupNameChar (first : Bool) (c : Char) : Bool :=
  if first then c = '_' || Text.isLetter c
  else c = '_' || c = '.' || c = '[' || c = ']' || Text.isLetter c || Text.isNumber c

/-- The name of a group up to its closing sign. -/
def readGroupName (scan : Scan) : Except Fault Scan :=
  if scan.isOver then fail .groupNameUnexpectedEnd scan.here
  else
    let name := scan.rest.takeWhile (· ≠ '>')
    let good := (name.take 1).takeWhile (isGroupNameChar true) ++
      (name.drop 1).takeWhile (isGroupNameChar false)
    let valid := if (name.take 1).all (isGroupNameChar true) then good.length else 0
    if valid < name.length then fail .groupNameInvalid (scan.skip valid).nextSpan
    else
      let closing := scan.skip name.length
      let span := closing.spanFrom scan.offset
      if closing.isOver then fail .groupNameUnexpectedEnd closing.here
      else if name.isEmpty then fail .groupNameEmpty scan.here
      else
        match scan.names.lookup name with
        | some earlier => .error ⟨.groupNameDuplicate, span, some earlier⟩
        | none => .ok { closing.skip 1 with names := scan.names ++ [(name, span)] }

inductive Opening where
  /-- Flags for what follows in the group around them. -/
  | flags (flags : Flags) (after : Scan)
  /-- A group with flags of its own, and whether its place in a text is kept. -/
  | group (kept : Bool) (flags : Flags) (after : Scan)

def lookAround? : List Char → Option Nat
  | '?' :: '=' :: _ => some 2
  | '?' :: '!' :: _ => some 2
  | '?' :: '<' :: '=' :: _ => some 3
  | '?' :: '<' :: '!' :: _ => some 3
  | _ => none

def readFlags (opening mark : Span) (scan : Scan) : Except Fault Opening := do
  if scan.isOver then fail .groupUnclosed opening
  let ⟨letters, last⟩ ← readFlagLetters (scan.rest.length + 1) [] scan
  let flags := setFlags scan.flags (letters.map Prod.fst)
  if last.sees ')' then
    if letters.isEmpty then fail .repetitionMissing mark
    else return .flags flags (last.skip 1)
  else return .group false flags (last.skip 1)

def readOpening (scan : Scan) : Except Fault Opening := do
  let opening := scan.nextSpan
  let inner := scan.next
  match lookAround? inner.rest with
  | some length => fail .unsupportedLookAround ((inner.skip length).spanFrom opening.start)
  | none =>
      match inner.rest with
      | '?' :: 'P' :: '<' :: _ => return .group true inner.flags (← readGroupName (inner.skip 3))
      | '?' :: '<' :: _ => return .group true inner.flags (← readGroupName (inner.skip 2))
      | '?' :: _ => readFlags opening inner.here (inner.skip 1)
      | _ => return .group true inner.flags inner

/-! ## Repetitions -/

structure Repetition where
  least : Nat
  most : Option Nat

/--
Pass the sign that makes a repetition take as little as it can, and tell
whether it takes as much as it can.  A flag turns that around.
-/
def readGreed (scan : Scan) : Bool × Scan :=
  if scan.sees '?' then (scan.flags.swapGreed, scan.skip 1) else (!scan.flags.swapGreed, scan)

/-- A repetition with its counts in braces, from the opening brace on. -/
def readRepetition (scan : Scan) : Except Fault (Repetition × Bool × Scan) := do
  let start := scan.offset
  let inner := scan.next
  if inner.isOver then fail .repetitionCountUnclosed (inner.spanFrom start)
  let (least, behind) := readCount inner
  if behind.isOver then fail .repetitionCountUnclosed (behind.spanFrom start)
  let (range, closing) ←
    if behind.sees ',' then do
      let second := behind.next
      if second.isOver then fail .repetitionCountUnclosed (second.spanFrom start)
      if second.sees '\x7d' then pure (⟨← least, none⟩, second)
      else do
        let least ← least
        let (most, last) := readCount second
        pure (⟨least, some (← most)⟩, last)
    else do
      let count ← least
      pure ((⟨count, some count⟩ : Repetition), behind)
  if !closing.sees '\x7d' then fail .repetitionCountUnclosed (closing.spanFrom start)
  let (greedy, after) := readGreed closing.next
  if range.most.any fun most => decide (most < range.least) then
    fail .repetitionCountInvalid (after.spanFrom start)
  return (range, greedy, after)

def simpleRepetition? : Char → Option Repetition
  | '?' => some ⟨0, some 1⟩
  | '*' => some ⟨0, none⟩
  | '+' => some ⟨1, none⟩
  | _ => none

/-! ## Alternatives -/

structure Piece where
  start : Nat
  nesting : Nesting
  /-- What it describes; what only sets flags describes nothing. -/
  pattern : Option Pattern

structure Alternatives where
  /-- Where the first alternative starts. -/
  outset : Nat
  /-- The alternatives before the last one, and what is nested in them. -/
  before : List (Pattern × Nesting)
  /-- Where the last one starts. -/
  start : Nat
  /-- The parts of the last one, the latest first. -/
  pieces : List Piece

namespace Alternatives

def fresh (start : Nat) : Alternatives := ⟨start, [], start, []⟩

def push (read : Alternatives) (piece : Piece) : Alternatives :=
  { read with pieces := piece :: read.pieces }

def latest (read : Alternatives) (stop : Nat) : Pattern × Nesting :=
  let pieces := read.pieces.reverse
  (ofList (pieces.filterMap Piece.pattern),
   .gathered ⟨read.start, stop⟩ (pieces.map Piece.nesting))

def next (read : Alternatives) (stop : Nat) : Alternatives :=
  { read with before := read.before ++ [read.latest stop], start := stop + 1, pieces := [] }

def close (read : Alternatives) (stop : Nat) : Pattern × Nesting :=
  let parts := read.before ++ [read.latest stop]
  (anyOf (parts.map Prod.fst), .gathered ⟨read.outset, stop⟩ (parts.map Prod.snd))

/-- The latest part with the parts before it, which a sign for repetition has to follow. -/
def split (read : Alternatives) (sign : Span) : Except Fault (Pattern × Piece × Alternatives) :=
  match read.pieces with
  | piece :: rest =>
      match piece.pattern with
      | some pattern => .ok (pattern, piece, { read with pieces := rest })
      | none => fail .repetitionMissing sign
  | [] => fail .repetitionMissing sign

end Alternatives

def Piece.repeated (piece : Piece) (pattern : Pattern) (repetition : Repetition) (greedy : Bool)
    (stop : Nat) : Piece :=
  { start := piece.start
    nesting := .within ⟨piece.start, stop⟩ piece.nesting
    pattern := some (pattern.iterate repetition.least repetition.most greedy) }

/-- Read to the end of a group, or of the text, with a bound on the number of its parts. -/
def readAlternatives : Nat → Option Span → Alternatives → Scan →
    Except Fault ((Pattern × Nesting) × Scan)
  | 0, opening, _, scan => fail .groupUnclosed (opening.getD scan.here)
  | bound + 1, opening, read, before => do
      let scan := before.skipSpace
      let start := scan.offset
      match scan.rest with
      | [] =>
          match opening with
          | some span => fail .groupUnclosed span
          | none => return (read.close start, scan)
      | c :: _ =>
          if c = '(' then
            match ← readOpening scan with
            | .flags flags after =>
                readAlternatives bound opening (read.push ⟨start, [], none⟩)
                  { after with flags := flags }
            | .group kept flags inner =>
                let ((pattern, nesting), after) ←
                  readAlternatives bound (some scan.nextSpan) (.fresh inner.offset)
                    { inner with flags := flags }
                let found := if kept then .group start pattern else pattern
                readAlternatives bound opening
                  (read.push ⟨start, .within (after.spanFrom start) nesting, some found⟩)
                  { after with flags := scan.flags }
          else if c = ')' then
            if opening.isSome then return (read.close start, scan.skip 1)
            else fail .groupUnopened scan.nextSpan
          else if c = '|' then readAlternatives bound opening (read.next start) (scan.skip 1)
          else if c = '[' then
            let (found, after) ← readSet scan
            readAlternatives bound opening
              (read.push
                ⟨start, found.nesting, some (ofRanges (!scan.flags.unicode) found.set.ranges)⟩)
              after
          else if c = '\x7b' then
            let (pattern, piece, others) ← read.split scan.here
            let (repetition, greedy, after) ← readRepetition scan
            readAlternatives bound opening
              (others.push (piece.repeated pattern repetition greedy after.offset)) after
          else
            match simpleRepetition? c with
            | some repetition =>
                let (pattern, piece, others) ← read.split scan.here
                let (greedy, after) := readGreed (scan.skip 1)
                readAlternatives bound opening
                  (others.push (piece.repeated pattern repetition greedy after.offset)) after
            | none =>
                let (part, behind) ← readPart scan
                let (pattern, after) := part.pattern behind
                readAlternatives bound opening (read.push ⟨start, [], some pattern⟩) after

def read (text : String) : Except Refusal Pattern :=
  let chars := text.toList
  match readAlternatives (chars.length + 1) none (.fresh 0) (.start chars) with
  | .error fault => .error (.fault fault)
  | .ok ((pattern, nesting), last) =>
      match nesting.tooDeep? <|> last.refusal with
      | some fault => .error (.fault fault)
      | none =>
          if (pattern.machine false).isOver then .error .tooLarge
          else if pattern.asksForWords then .error .wordBoundary
          else if (pattern.machine true).isOver then .error .tooLarge
          else .ok pattern

end ShardControl.Pattern

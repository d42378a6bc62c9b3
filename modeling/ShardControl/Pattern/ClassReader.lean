import ShardControl.Pattern.Escape

/-!
# Reading sets of characters

A set in brackets holds characters, ranges, classes and other sets.  What
stands side by side is united first; the other operations follow from left to
right.
-/

namespace ShardControl.Pattern

inductive SetOperation where
  | common
  | without
  | either

def SetOperation.apply : SetOperation → CharSet → CharSet → CharSet
  | common => .common
  | without => .without
  | either => .either

/-- A side of an operation: a set, where it stands, and what is nested in it. -/
structure Side where
  set : CharSet
  span : Span
  nesting : Nesting

/-- A set whose closing bracket has not come yet. -/
structure OpenSet where
  /-- The opening bracket and what is read with it. -/
  opening : Span
  negated : Bool
  /-- What has been united since the last operation, and where it stands. -/
  members : CharSet
  memberSpan : Span
  /-- What is nested in each of the members. -/
  nestings : List Nesting
  /-- The operation that waits for its second side. -/
  pending : Option (SetOperation × Side)

namespace OpenSet

def isFresh (level : OpenSet) : Bool := level.nestings.isEmpty

/-- Go on with the members that there are behind one more part. -/
def extend (level : OpenSet) (members : CharSet) (span : Span) (nesting : Nesting) : OpenSet :=
  { level with
    members := members
    memberSpan := if level.isFresh then span else ⟨level.memberSpan.start, span.stop⟩
    nestings := level.nestings ++ [nesting] }

def unite (level : OpenSet) (set : CharSet) (span : Span) (nesting : Nesting) : OpenSet :=
  level.extend (level.members.union set) span nesting

def addChar (level : OpenSet) (c : Char) (span : Span) : OpenSet :=
  level.extend (level.members.addChar c) span []

end OpenSet

/-- A set in both cases if they count as one; of no characters there are no cases. -/
def foldSet (scan : Scan) (set : CharSet) (span : Span) : CharSet × Scan :=
  if !scan.flags.ignoreCase || set.isCased then (set, scan)
  else if scan.flags.unicode && !set.ranges.isEmpty then (set, scan.refuse .caseUnavailable span)
  else (set.inBothCases, scan)

/-- The greatest member that a set can have: a code point, or a byte. -/
def Flags.greatest (flags : Flags) : Nat := if flags.unicode then Ranges.lastPoint else 0xFF

/--
A set in both cases if they count as one, and negated if it is to be.  A set
of bytes has to keep to ASCII.
-/
def foldAndNegate (scan : Scan) (set : CharSet) (negated : Bool) (span : Span) : CharSet × Scan :=
  let (folded, after) := foldSet scan set span
  let found := if negated then folded.complement scan.flags.greatest else folded
  (found,
   if !scan.flags.unicode && !found.ranges.isNarrow then after.refuse .invalidBytes span
   else after)

namespace OpenSet

/-- What stands up to here. Both sides of an operation take letters in both cases. -/
def value (level : OpenSet) (scan : Scan) : Side × Scan :=
  let latest : Side :=
    ⟨level.members, level.memberSpan, .gathered level.memberSpan level.nestings⟩
  match level.pending with
  | none => (latest, scan)
  | some (operation, first) =>
      let (second, checked) := foldSet scan latest.set latest.span
      let (set, after) := foldSet checked first.set first.span
      let span : Span := ⟨first.span.start, latest.span.stop⟩
      let result := CharSet.nothing.union (operation.apply set second)
      (⟨result, span, .within span (.all [first.nesting, latest.nesting])⟩, after)

/-- Wait for the second side of an operation behind its sign. -/
def operate (level : OpenSet) (operation : SetOperation) (scan : Scan) : OpenSet × Scan :=
  let (first, after) := level.value scan
  let behind := after.skip 2
  ({ level with
     members := .nothing
     memberSpan := behind.here
     nestings := []
     pending := some (operation, first) }, behind)

def close (level : OpenSet) (scan : Scan) : Side × Scan :=
  let span := scan.spanFrom level.opening.start
  let (inner, valued) := level.value scan
  let (set, after) := foldAndNegate valued inner.set level.negated span
  (⟨set, span, .within span inner.nesting⟩, after)

end OpenSet

/-- Hyphens at the beginning of a set stand for themselves. -/
def readHyphens (start : Nat) : Nat → OpenSet → Scan → Except Fault (OpenSet × Scan)
  | 0, level, scan => .ok (level, scan)
  | bound + 1, level, scan =>
      if scan.sees '-' then
        let after := scan.next
        if after.isOver then fail .classUnclosed ⟨start, start⟩
        else readHyphens start bound (level.addChar '-' scan.nextSpan) after
      else .ok (level, scan)

def openSet (scan : Scan) : Except Fault (OpenSet × Scan) := do
  let start := scan.offset
  let inner := scan.next
  if inner.isOver then fail .classUnclosed (inner.spanFrom start)
  let negated := inner.sees '^'
  let first := if negated then inner.next else inner
  if first.isOver then fail .classUnclosed (first.spanFrom start)
  let fresh : OpenSet := ⟨first.here, negated, .nothing, first.here, [], none⟩
  let (level, behind) ← readHyphens start first.rest.length fresh first
  if level.isFresh && behind.sees ']' then
    let after := behind.next
    if after.isOver then fail .classUnclosed (after.spanFrom start)
    let added := level.addChar ']' behind.nextSpan
    return ({ added with opening := after.spanFrom start }, after)
  else return ({ level with opening := behind.spanFrom start }, behind)

/-- The set of ASCII characters with a name, where one stands in brackets and colons. -/
def readNamedSet? (scan : Scan) : Option (Ranges × Bool × Scan) :=
  match scan.rest with
  | '[' :: ':' :: rest =>
      let negated := rest.head? = some '^'
      let inner := if negated then rest.tail else rest
      let name := inner.takeWhile (· ≠ ':')
      match inner.drop name.length with
      | ':' :: ']' :: _ =>
          (Ranges.named? (String.ofList name)).map fun ranges =>
            (ranges, negated, scan.skip ((if negated then 3 else 2) + name.length + 2))
      | _ => none
  | _ => none

def readMember (scan : Scan) : Except Fault (Part × Scan) :=
  match scan.rest with
  | '\\' :: _ => readEscape scan
  | c :: _ => .ok (⟨.literal c false, scan.nextSpan⟩, scan.skip 1)
  | [] => fail .classUnclosed scan.here

/-- Refuse a character beyond ASCII where bytes are asked for. -/
def checkMember (scan : Scan) (c : Char) (byte : Bool) (span : Span) : Scan :=
  let checked := checkByte scan c byte span
  if !scan.flags.unicode && 0x80 ≤ c.toNat then checked.refuse .unicodeNotAllowed span else checked

/-- The members of a set with one more part. Conditions have no place in sets. -/
def addMember (members : CharSet) (part : Part) (scan : Scan) : Except Fault (CharSet × Scan) :=
  match part.atom with
  | .literal c byte => .ok (members.addChar c, checkMember scan c byte part.span)
  | .letterClass ranges negated =>
      let (found, after) := letterSet scan ranges negated part.span
      .ok (members.union found, after)
  | .property missing => .ok (members, refuseProperty scan missing part.span)
  | _ => fail .classEscapeInvalid part.span

/-- The character that a part is, which an end of a range has to be. -/
def rangeEnd (part : Part) : Except Fault (Char × Bool) :=
  match part.atom with
  | .literal c byte => .ok (c, byte)
  | _ => fail .classRangeLiteral part.span

/-- A member or a range of characters in the innermost of the open sets. -/
def readRange (level : OpenSet) (scan : Scan) : Except Fault (OpenSet × Scan) := do
  let (first, behind) ← readMember scan
  let hyphen := behind.skipSpace
  if hyphen.isOver then fail .classUnclosed level.opening
  let follower := hyphen.lookBeyond
  if !hyphen.sees '-' || follower = some ']' || follower = some '-' then
    let (members, after) ← addMember level.members first hyphen
    return (level.extend members first.span [], after)
  let beyond := hyphen.next
  if beyond.isOver then fail .classUnclosed level.opening
  let (second, last) ← readMember beyond
  let span : Span := ⟨first.span.start, second.span.stop⟩
  let (low, lowByte) ← rangeEnd first
  let (high, highByte) ← rangeEnd second
  if high < low then fail .classRangeInvalid span
  let checked := checkMember (checkMember last low lowByte first.span) high highByte second.span
  return (level.extend (level.members.add ⟨low.toNat, high.toNat⟩) span [], checked)

def operation? : List Char → Option SetOperation
  | '&' :: '&' :: _ => some .common
  | '-' :: '-' :: _ => some .without
  | '~' :: '~' :: _ => some .either
  | _ => none

/-- Read to the end of the outermost set, with a bound on the number of its parts. -/
def readLevels : Nat → OpenSet → List OpenSet → Scan → Except Fault (Side × Scan)
  | 0, level, _, _ => fail .classUnclosed level.opening
  | bound + 1, level, outer, before => do
      let scan := before.skipSpace
      match operation? scan.rest with
      | some operation =>
          let (waiting, after) := level.operate operation scan
          readLevels bound waiting outer after
      | none =>
          match scan.rest with
          | [] => fail .classUnclosed level.opening
          | '[' :: _ =>
              match readNamedSet? scan with
              | some (ranges, negated, after) =>
                  let span := after.spanFrom scan.offset
                  let (found, checked) := foldAndNegate after (.ofRanges ranges) negated span
                  readLevels bound (level.unite found span []) outer checked
              | none =>
                  let (inner, after) ← openSet scan
                  readLevels bound inner (level :: outer) after
          | ']' :: _ =>
              let (found, after) := level.close (scan.skip 1)
              match outer with
              | [] => return (found, after)
              | parent :: rest =>
                  readLevels bound (parent.unite found.set found.span found.nesting) rest after
          | _ =>
              let (added, after) ← readRange level scan
              readLevels bound added outer after

def readSet (scan : Scan) : Except Fault (Side × Scan) := do
  let (level, inner) ← openSet scan
  readLevels (scan.rest.length + 1) level [] inner

end ShardControl.Pattern

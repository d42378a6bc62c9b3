import ShardControl.Yaml.Cursor

/-!
# Block scalars

A literal scalar keeps the lines of an indented block as they are, and a folded
one joins them: a single line feed between two lines counts as a space unless
one of them starts with a blank.  The first line with content gives the
indentation, if the header does not.
-/

namespace ShardControl.Yaml

/-- What becomes of the line breaks at the end of a block. -/
inductive Chomping where
  | strip
  | clip
  | keep
  deriving DecidableEq

structure BlockHeader where
  chomping : Chomping
  /-- How far the block is indented beyond what it belongs to, if this is said. -/
  indentation : Option Nat

def readChomping (cursor : Cursor) : Option Chomping × Cursor :=
  match cursor.rest with
  | '+' :: _ => (some .keep, cursor.skip 1)
  | '-' :: _ => (some .strip, cursor.skip 1)
  | _ => (none, cursor)

/-- The digit for the indentation, if one stands here; it cannot be zero. -/
def readIndentation? (cursor : Cursor) : Option (Option Nat × Cursor) :=
  match cursor.rest with
  | c :: _ =>
      if c = '0' then none
      else if c.isDigit then some (some (c.toNat - '0'.toNat), cursor.skip 1)
      else some (none, cursor)
  | [] => some (none, cursor)

/-- The header of a block scalar, which ends its line. -/
def readHeader? (cursor : Cursor) : Option (BlockHeader × Cursor) := do
  let (first, behindFirst) := readChomping cursor
  let (indentation, behindDigit) ← readIndentation? behindFirst
  let (second, behind) := if first.isSome then (none, behindDigit) else readChomping behindDigit
  return (⟨(first.orElse fun _ => second).getD .clip, indentation⟩, ← behind.endLine?)

/-- Empty lines of a block, and what is in front of the content behind them. -/
structure EmptyLines where
  breaks : List Char
  after : Cursor
  /-- The column that the furthest of the indentations reaches. -/
  reach : Nat

/--
Pass the spaces in front of a line, at most up to the column of the block if it
is known, and the lines that hold nothing else.  No tab may stand there.
-/
def emptyLines (column : Option Nat) (reach : Nat) (place : Place) :
    List Char → Option EmptyLines
  | [] => some ⟨[], ⟨place, []⟩, max reach place.column⟩
  | c :: rest =>
      let isIndented := column.any fun column => decide (column ≤ place.column)
      if c = ' ' && !isIndented then emptyLines column reach (place.after c) rest
      else if c = '\t' && !isIndented then none
      else if isBreak c then
        (emptyLines column (max reach place.column) (place.after c) rest).map fun lines =>
          { lines with breaks := c :: lines.breaks }
      else some ⟨[], ⟨place, c :: rest⟩, max reach place.column⟩

/-- What the breaks between two lines come to, the first of them and the others. -/
def joinedBreaks (folded : Bool) (first : Option Char) (more : List Char) : List Char :=
  if folded && first = some '\n' then if more.isEmpty then [' '] else more
  else first.toList ++ more

/--
The lines of a block in its column.  What is in front of a line is the break
that ends the line before it, the breaks of empty lines behind that, and
whether the line before it starts with a blank.
-/
def blockLines (folded : Bool) (chomping : Chomping) (column : Nat) :
    Nat → Option Char → List Char → Bool → Cursor → Option (List Char × Cursor)
  | 0, _, _, _, _ => none
  | fuel + 1, first, more, blankBefore, cursor =>
      if cursor.column = column && !cursor.rest.isEmpty then do
        let blankHere := cursor.rest.head?.any isBlank
        let (line, behind) := cursor.span fun c => !isBreak c
        let lines ← emptyLines (some column) 0 (behind.skip 1).toPlace (behind.skip 1).rest
        let (others, after) ←
          blockLines folded chomping column fuel behind.rest.head? lines.breaks blankHere
            lines.after
        return (joinedBreaks (folded && !blankBefore && !blankHere) first more ++ line ++ others,
          after)
      else
        let tail := match chomping with
          | .strip => []
          | .clip => first.toList
          | .keep => first.toList ++ more
        some (tail, cursor)

/-- A block scalar behind its sign; its text lies at a column or further behind. -/
def readBlockScalar (folded : Bool) (floor : Nat) (cursor : Cursor) :
    Option (List Char × Cursor) := do
  let (header, behind) ← readHeader? cursor
  let said := header.indentation.map fun width => (floor - 1) + width
  let lines ← emptyLines said 0 behind.toPlace behind.rest
  let column := said.getD (max (max lines.reach floor) 1)
  blockLines folded header.chomping column (lines.after.rest.length + 1) none lines.breaks false
    lines.after

end ShardControl.Yaml

import ShardControl.Pattern.Basic
import ShardControl.Pattern.Sharing
import ShardControl.Pattern.WordTree

/-!
# Sizes of patterns

How much the machine takes that looks for a pattern.  There are two of them:
one goes through a text from its beginning, and keeps the places of groups; the
other comes back from the end of what was found.
-/

namespace ShardControl.Pattern

def bytesOf (chars : List Char) : ByteWord := chars.flatMap fun c => Interval.bytesOf c.toNat

def words? (pattern : Pattern) : Option (List ByteWord) :=
  match pattern.choices with
  | first :: second :: rest =>
      (first :: second :: rest).mapM fun
        | literal chars => some (bytesOf chars)
        | _ => none
  | _ => none

def growthOf (reversed : Bool) (pattern : Pattern) (choices : List Growth) : Growth :=
  match pattern.words? with
  | some words => .ofWords (if reversed then words.map List.reverse else words)
  | none => .either choices

def growthOfRanges (reversed : Bool) (ranges : Ranges) : Growth :=
  if ranges.isNarrow then fun machine =>
    .plain ((machine.addStates 1).addSwitch ranges.length)
  else if reversed then .ofReversedRanges ranges
  else .ofRanges ranges

def growths (reversed : Bool) : Pattern → List Growth
  | empty => [.line 1]
  | literal chars => [.line (bytesOf chars).length]
  | oneOf _ ranges => [growthOfRanges reversed ranges]
  | assertion _ => [.line 1]
  | seq first rest =>
      let one := growthOf reversed first (growths reversed first)
      let other := growthOf reversed rest (growths reversed rest)
      [if reversed then other.behind one else one.behind other]
  | alt first rest => growthOf reversed first (growths reversed first) :: growths reversed rest
  | group _ part =>
      let inner := growthOf reversed part (growths reversed part)
      [if reversed then inner else ((Growth.line 1).behind inner).behind (.line 1)]
  | repeated part least most _ =>
      let inner := growthOf reversed part (growths reversed part)
      [match most with
       | some most => .upTo inner least most
       | none => .atLeast inner (part.minLength?.any (0 < ·)) least]

/-- The machine that looks for a pattern, in a text or back through one. -/
def machine (reversed : Bool) (pattern : Pattern) : Machine :=
  let bound := if reversed then pattern.endsText else pattern.startsText
  let start : Machine :=
    if bound then Machine.addStates ⟨0, 0⟩ 1
    else (Machine.addForks ⟨2, 0⟩ 2).addSwitch 1
  let inner := growthOf reversed pattern (growths reversed pattern)
  let whole := if reversed then inner else ((Growth.line 1).behind inner).behind (.line 1)
  (whole.behind (.line 1) start).machine

end ShardControl.Pattern

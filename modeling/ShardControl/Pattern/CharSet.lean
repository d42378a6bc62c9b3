import ShardControl.Pattern.Ranges

/-!
# Sets that are put together

A set within brackets grows member by member.  It is known of some sets that
taking their letters in both cases adds nothing: of those for which that has
been done, and of sets that came to hold nothing, or everything, at once.
-/

namespace ShardControl

structure CharSet where
  ranges : Ranges
  /-- Whether it is known that the set has each letter in both cases or not at all. -/
  isCased : Bool
  deriving DecidableEq

namespace CharSet

def nothing : CharSet := ⟨[], true⟩

def ofRanges (ranges : Ranges) : CharSet := ⟨ranges, ranges.isEmpty⟩

def add (set : CharSet) (range : Interval) : CharSet := ⟨set.ranges.insert range, false⟩

def addChar (set : CharSet) (c : Char) : CharSet := set.add ⟨c.toNat, c.toNat⟩

def union (first second : CharSet) : CharSet :=
  if second.ranges.isEmpty || first.ranges = second.ranges then first
  else ⟨first.ranges.union second.ranges, first.isCased && second.isCased⟩

def common (first second : CharSet) : CharSet :=
  if first.ranges.isEmpty then first
  else if second.ranges.isEmpty then nothing
  else ⟨first.ranges.common second.ranges, first.isCased && second.isCased⟩

def without (first second : CharSet) : CharSet :=
  if first.ranges.isEmpty || second.ranges.isEmpty then first
  else ⟨first.ranges.without second.ranges, first.isCased && second.isCased⟩

/-- What is in one of two sets and not in both. -/
def either (first second : CharSet) : CharSet :=
  (first.union second).without (first.common second)

def complement (greatest : Nat) (set : CharSet) : CharSet :=
  ⟨set.ranges.complement greatest, set.isCased || set.ranges.isEmpty⟩

def otherCase (range : Interval) : List Interval :=
  let small := (range.meet? ⟨0x61, 0x7A⟩).map fun found => ⟨found.low - 0x20, found.high - 0x20⟩
  let large := (range.meet? ⟨0x41, 0x5A⟩).map fun found => ⟨found.low + 0x20, found.high + 0x20⟩
  small.toList ++ large.toList

def inBothCases (set : CharSet) : CharSet :=
  if set.isCased then set
  else ⟨set.ranges.union (set.ranges.flatMap otherCase), true⟩

end CharSet

end ShardControl

import ShardControl.Pattern.Ranges

/-!
# Encoded ranges

The characters of a range, as they are written in bytes.  A range is cut into
parts, all characters of which have the same number of bytes; of those bytes
each goes through a range of its own, whatever the others are.
-/

namespace ShardControl

namespace Interval

def cutBehind (bound : Nat) (interval : Interval) : List Interval :=
  if interval.low ≤ bound && bound < interval.high then
    [⟨interval.low, bound⟩, ⟨bound + 1, interval.high⟩]
  else [interval]

/-- The parts of an interval below surrogates and above them. -/
def besideSurrogates (interval : Interval) : List Interval :=
  if interval.low < 0xE000 && 0xD7FF < interval.high then
    [⟨interval.low, 0xD7FF⟩, ⟨0xE000, interval.high⟩].filter fun part => part.low ≤ part.high
  else [interval]

/--
Cut an interval that goes over several blocks of numbers into the blocks that
it fills, and what is left of it on either side.
-/
def alignTo (block : Nat) (interval : Interval) : List Interval :=
  if interval.low / block = interval.high / block then [interval]
  else
    let first := (interval.low + block - 1) / block * block
    let last := (interval.high + 1) / block * block
    [⟨interval.low, first - 1⟩, ⟨first, last - 1⟩, ⟨last, interval.high⟩].filter fun part =>
      part.low ≤ part.high

/-- The parts of an interval whose bytes go through ranges. -/
def encodable (interval : Interval) : List Interval :=
  let sized :=
    (((interval.besideSurrogates.flatMap (cutBehind 0x7F)).flatMap (cutBehind 0x7FF)).flatMap
      (cutBehind 0xFFFF))
  sized.flatMap fun part =>
    if part.high < 0x80 then [part]
    else ((part.alignTo 0x40).flatMap (alignTo 0x1000)).flatMap (alignTo 0x40000)

def bytesOf (n : Nat) : List Nat :=
  let trail (shift : Nat) : Nat := 0x80 + n / shift % 0x40
  if n < 0x80 then [n]
  else if n < 0x800 then [0xC0 + n / 0x40, trail 1]
  else if n < 0x10000 then [0xE0 + n / 0x1000, trail 0x40, trail 1]
  else [0xF0 + n / 0x40000, trail 0x1000, trail 0x40, trail 1]

/-- The ranges of the bytes of an interval, for each of its parts. -/
def encodings (interval : Interval) : List (List Interval) :=
  interval.encodable.map fun part =>
    List.zipWith (fun low high => ⟨low, high⟩) (bytesOf part.low) (bytesOf part.high)

end Interval

def Ranges.encodings (ranges : Ranges) : List (List Interval) := ranges.flatMap Interval.encodings

end ShardControl

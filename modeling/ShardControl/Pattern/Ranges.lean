/-!
# Ranges of code points

A set of code points is a list of ranges in ascending order, with a number
between any two of them that neither holds.  The code points of surrogates are
no characters: the characters on either side of them follow one another, though
their numbers do not.
-/

namespace ShardControl

/-- The numbers from one to another. -/
structure Interval where
  low : Nat
  high : Nat
  deriving DecidableEq

namespace Interval

def has (interval : Interval) (n : Nat) : Bool :=
  decide (interval.low ≤ n) && decide (n ≤ interval.high)

/-- The numbers from one of two to the other, whichever is first. -/
def between (one other : Nat) : Interval := if one ≤ other then ⟨one, other⟩ else ⟨other, one⟩

def meet? (first second : Interval) : Option Interval :=
  let common : Interval := ⟨max first.low second.low, min first.high second.high⟩
  if common.low ≤ common.high then some common else none

end Interval

abbrev Ranges := List Interval

namespace Ranges

/-- The code point of the character before one, and of the character behind it. -/
def before (n : Nat) : Nat := if n = 0xE000 then 0xD7FF else n - 1

def after (n : Nat) : Nat := if n = 0xD7FF then 0xE000 else n + 1

def has (ranges : Ranges) (c : Char) : Bool := ranges.any fun range => range.has c.toNat

def insert (range : Interval) : Ranges → Ranges
  | [] => [range]
  | other :: rest =>
      if range.high + 1 < other.low then range :: other :: rest
      else if other.high + 1 < range.low then other :: insert range rest
      else insert ⟨min range.low other.low, max range.high other.high⟩ rest

def union (first second : Ranges) : Ranges :=
  second.foldl (fun found range => insert range found) first

def ofList (ranges : List Interval) : Ranges := union [] ranges

def ofPairs (pairs : List (Char × Char)) : Ranges :=
  ofList (pairs.map fun (low, high) => ⟨low.toNat, high.toNat⟩)

def common (first second : Ranges) : Ranges :=
  first.flatMap fun range => second.filterMap range.meet?

/-- The ends of the gaps between ranges. Two ranges that surrogates alone set apart have none. -/
def innerGaps : Ranges → List (Nat × Nat)
  | first :: second :: rest => (after first.high, before second.low) :: innerGaps (second :: rest)
  | _ => []

def gaps (greatest : Nat) (ranges : Ranges) : List (Nat × Nat) :=
  let front := ranges.head?.filter fun range => 0 < range.low
  let back := ranges.getLast?.filter fun range => range.high < greatest
  (front.map fun range => (0, before range.low)).toList ++ innerGaps ranges ++
    (back.map fun range => (after range.high, greatest)).toList

/--
What ranges leave out.  Where surrogates alone set two of them apart, the ends
of that gap have changed places, and the characters beside it are held.
-/
def complement (greatest : Nat) (ranges : Ranges) : Ranges :=
  if ranges.isEmpty then [⟨0, greatest⟩]
  else (gaps greatest ranges).map fun (low, high) => .between low high

/-- The code point behind all others is not above this one. -/
def lastPoint : Nat := 0x10FFFF

def without (first second : Ranges) : Ranges :=
  if second.isEmpty then first
  else common first ((gaps lastPoint second).filterMap fun (low, high) =>
    if low ≤ high then some ⟨low, high⟩ else none)

/-- Whether a set holds ASCII characters only. -/
def isNarrow (ranges : Ranges) : Bool := ranges.all fun range => decide (range.high < 0x80)

/-! ## Named sets -/

def digits : Ranges := ofPairs [('0', '9')]

def letters : Ranges := ofPairs [('A', 'Z'), ('a', 'z')]

def wordChars : Ranges := ofPairs [('0', '9'), ('A', 'Z'), ('_', '_'), ('a', 'z')]

def spaces : Ranges := ofPairs [('\t', '\r'), (' ', ' ')]

def named? (name : String) : Option Ranges :=
  match name with
  | "alnum" => some (union letters digits)
  | "alpha" => some letters
  | "ascii" => some (ofPairs [('\x00', '\x7f')])
  | "blank" => some (ofPairs [('\t', '\t'), (' ', ' ')])
  | "cntrl" => some (ofPairs [('\x00', '\x1f'), ('\x7f', '\x7f')])
  | "digit" => some digits
  | "graph" => some (ofPairs [('!', '~')])
  | "lower" => some (ofPairs [('a', 'z')])
  | "print" => some (ofPairs [(' ', '~')])
  | "punct" => some (ofPairs [('!', '/'), (':', '@'), ('[', '\x60'), ('\x7b', '~')])
  | "space" => some spaces
  | "upper" => some (ofPairs [('A', 'Z')])
  | "word" => some wordChars
  | "xdigit" => some (ofPairs [('0', '9'), ('A', 'F'), ('a', 'f')])
  | _ => none

end Ranges

end ShardControl

import ShardControl.Pattern.Encoding
import ShardControl.Pattern.Machine

/-!
# Shared states

The bytes of characters in a set have many endings in common.  The states for
them are shared as far as they are remembered: there is a place for each value
of a hash, and a state takes the place of an earlier one.
-/

namespace ShardControl.Pattern

/-- A state that is remembered by what it is made of. -/
structure Memory (κ : Type) where
  place : Nat
  key : κ
  state : Nat

namespace Memory

def absorb (hash : UInt64) (n : Nat) : UInt64 := (hash ^^^ n.toUInt64) * 1099511628211

def placeOf (count : Nat) (numbers : List Nat) : Nat :=
  (numbers.foldl absorb 14695981039346656037).toNat % count

def find? {κ : Type} [DecidableEq κ] (memories : List (Memory κ)) (place : Nat) (key : κ) :
    Option Nat :=
  (memories.find? fun memory => memory.place = place).bind fun memory =>
    if memory.key = key then some memory.state else none

end Memory

structure Sharing (κ : Type) where
  machine : Machine
  memories : List (Memory κ)

/-! ## Byte by byte -/

structure Way where
  range : Interval
  target : Nat
  deriving DecidableEq

def stateOf (ways : List Way) (sharing : Sharing (List Way)) : Nat × Sharing (List Way) :=
  let place := Memory.placeOf 10000
    (ways.flatMap fun way => [way.range.low, way.range.high, way.target])
  match Memory.find? sharing.memories place ways with
  | some state => (state, sharing)
  | none =>
      let state := sharing.machine.states
      (state, ⟨sharing.machine.addSwitch ways.length, ⟨place, ways, state⟩ :: sharing.memories⟩)

/-- A state that is not finished: more ways may lead out of it than its last range. -/
structure OpenState where
  ways : List Way
  last : Interval

/-- The unfinished states that begin with some ranges, the outermost first. -/
def OpenState.ofRanges (ranges : List Interval) : List OpenState :=
  ranges.map fun range => ⟨[], range⟩

/-- Finish states, the innermost first, before a last state. -/
def finish (last : Nat) : List OpenState → Sharing (List Way) → Nat × Sharing (List Way)
  | [], sharing => (last, sharing)
  | outer :: inner, sharing =>
      let (target, after) := finish last inner sharing
      stateOf (outer.ways ++ [⟨outer.last, target⟩]) after

/-- Go on with the ranges of more bytes; what differs from the last ones is finished. -/
def extend (last : Nat) : List OpenState → List Interval → Sharing (List Way) →
    List OpenState × Sharing (List Way)
  | outer :: inner, range :: rest, sharing =>
      if outer.last = range then
        let (states, after) := extend last inner rest sharing
        (outer :: states, after)
      else
        let (target, after) := finish last inner sharing
        (⟨outer.ways ++ [⟨outer.last, target⟩], range⟩ :: OpenState.ofRanges rest, after)
  | _, ranges, sharing => (OpenState.ofRanges ranges, sharing)

/-- A character from a set, byte by byte. -/
def Growth.ofRanges (ranges : Ranges) : Growth := fun machine =>
  let last := machine.states
  let (states, sharing) := ranges.encodings.foldl
    (fun (states, sharing) encoding => extend last states encoding sharing)
    (([] : List OpenState), (⟨machine.addStates 1, []⟩ : Sharing (List Way)))
  .plain (finish last states sharing).2.machine

/-! ## From the last byte to the first -/

structure Step where
  target : Nat
  range : Interval
  deriving DecidableEq

def stepTo (target : Nat) (range : Interval) (sharing : Sharing Step) : Nat × Sharing Step :=
  let place := Memory.placeOf 1000 [target, range.low, range.high]
  match Memory.find? sharing.memories place ⟨target, range⟩ with
  | some state => (state, sharing)
  | none =>
      let state := sharing.machine.states
      (state, ⟨sharing.machine.addStates 1, ⟨place, ⟨target, range⟩, state⟩ :: sharing.memories⟩)

/-- A character from a set, from its last byte to its first. -/
def Growth.ofReversedRanges (ranges : Ranges) : Growth := fun machine =>
  let last := machine.states + 1
  let sharing := ranges.encodings.foldl
    (fun sharing encoding =>
      let (_, after) := encoding.foldl
        (fun (target, sharing) range => stepTo target range sharing) (last, sharing)
      { after with machine := after.machine.addForks 1 })
    (⟨machine.addStates 2, []⟩ : Sharing Step)
  .plain sharing.machine

end ShardControl.Pattern

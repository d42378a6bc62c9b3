import ShardControl.Pattern.Basic

/-!
# Matching

A text of some length has one place more than characters.  A set of places is
a number whose bits are the places, so a pattern turns the places that it may
start at into the places that it may end at.
-/

namespace ShardControl.Pattern

abbrev Places := Nat

namespace Places

def all (length : Nat) : Places := (1 <<< (length + 1)) - 1

def before (member : Char → Bool) : List Char → Places
  | [] => 0
  | c :: rest => 2 * before member rest + if member c then 1 else 0

/-- The places where a condition holds, behind a character. -/
def meeting (condition : Assertion) (previous : Option Char) : List Char → Places
  | [] => if condition.holds previous none then 1 else 0
  | c :: rest =>
      2 * meeting condition (some c) rest + if condition.holds previous (some c) then 1 else 0

/-- The places behind those characters of a text that stand at some places and are members. -/
def pass (text : List Char) (places : Places) (member : Char → Bool) : Places :=
  if places = 0 then 0 else 2 * (places &&& before member text)

/-- Repeat a step a number of times, unless it changes nothing any more. -/
def times (step : Places → Places) : Nat → Places → Places
  | 0, places => places
  | count + 1, places =>
      let next := step places
      if next = places then places else times step count next

/-- All that at most a number of steps reach. -/
def reach (step : Places → Places) : Nat → Places → Places
  | 0, places => places
  | count + 1, places =>
      let next := places ||| step places
      if next = places then places else reach step count next

end Places

def ends (text : List Char) : Pattern → Places → Places
  | empty, places => places
  | literal chars, places =>
      chars.foldl (fun reached c => Places.pass text reached (· = c)) places
  | oneOf _ ranges, places => Places.pass text places ranges.has
  | assertion condition, places => places &&& Places.meeting condition none text
  | seq first second, places => ends text second (ends text first places)
  | alt first second, places => ends text first places ||| ends text second places
  | group _ part, places => ends text part places
  | repeated part least most _, places =>
      let start := Places.times (ends text part) least places
      match most with
      | some most => Places.reach (ends text part) (most - least) start
      | none => Places.reach (ends text part) (text.length + 1) start

def isFoundIn (pattern : Pattern) (text : String) : Bool :=
  let chars := text.toList
  pattern.ends chars (Places.all chars.length) ≠ 0

end ShardControl.Pattern

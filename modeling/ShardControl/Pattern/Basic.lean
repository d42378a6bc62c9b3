import ShardControl.Pattern.CharSet

/-!
# Patterns

A pattern describes texts: characters one behind another, characters from
sets, one part behind another, one part or another, parts that are repeated,
and conditions on the place between two characters.  Parts are put together in
such a way that what describes the same texts is often the same pattern:
nothing empty stands in a row, and characters in a row are one part.
-/

namespace ShardControl

inductive WordCondition where
  | boundary
  | noBoundary
  | start
  | stop
  | noneBefore
  | noneAfter
  deriving DecidableEq

namespace WordCondition

/-- Whether a condition holds where a word may stand before a place, or behind it. -/
def holds (condition : WordCondition) (before after : Bool) : Bool :=
  match condition with
  | boundary => before != after
  | noBoundary => before == after
  | start => !before && after
  | stop => before && !after
  | noneBefore => !before
  | noneAfter => !after

end WordCondition

inductive Assertion where
  | textStart
  | textEnd
  /-- The start of a line; a carriage return may end the line before it or not. -/
  | lineStart (returns : Bool)
  | lineEnd (returns : Bool)
  /-- A condition on words, of all texts or of ASCII texts alone. -/
  | word (condition : WordCondition) (unicode : Bool)
  deriving DecidableEq

namespace Assertion

def isWord (c : Option Char) : Bool := c.any Ranges.wordChars.has

/-- Whether a condition holds between two characters, each missing at an end of the text. -/
def holds (assertion : Assertion) (before after : Option Char) : Bool :=
  match assertion with
  | textStart => before.isNone
  | textEnd => after.isNone
  | lineStart false => before.isNone || before = some '\n'
  | lineStart true =>
      before.isNone || before = some '\n' || (before = some '\r' && after ≠ some '\n')
  | lineEnd false => after.isNone || after = some '\n'
  | lineEnd true =>
      after.isNone || after = some '\r' || (after = some '\n' && before ≠ some '\r')
  | word condition _ => condition.holds (isWord before) (isWord after)

end Assertion

inductive Pattern where
  | empty
  /-- Some characters, one behind another. -/
  | literal (chars : List Char)
  /-- A character from a set, which may be one of bytes. -/
  | oneOf (bytes : Bool) (ranges : Ranges)
  | assertion (condition : Assertion)
  | seq (first rest : Pattern)
  | alt (first rest : Pattern)
  /-- A part whose place in a text is kept, known by where it stands itself. -/
  | group (place : Nat) (part : Pattern)
  | repeated (part : Pattern) (least : Nat) (most : Option Nat) (greedy : Bool)
  deriving DecidableEq

namespace Pattern

/-! ## Properties -/

/-- Whether a pattern describes no characters, so that repeating it changes nothing. -/
def isHollow : Pattern → Bool
  | empty => true
  | literal chars => chars.isEmpty
  | oneOf _ _ => false
  | assertion _ => true
  | seq first rest => first.isHollow && rest.isHollow
  | alt first rest => first.isHollow && rest.isHollow
  | group _ part => part.isHollow
  | repeated part _ most _ => part.isHollow && most.isSome

/-- The least number of characters that a text has; none where a part describes no text. -/
def minLength? : Pattern → Option Nat
  | empty => some 0
  | literal chars => some chars.length
  | oneOf _ ranges => if ranges.isEmpty then none else some 1
  | assertion _ => some 0
  | seq first rest => do return (← first.minLength?) + (← rest.minLength?)
  | alt first rest => do return min (← first.minLength?) (← rest.minLength?)
  | group _ part => part.minLength?
  | repeated part least _ _ => part.minLength?.map (least * ·)

/-- Whether a text that a pattern describes has to stand at the beginning of the whole text. -/
def startsText : Pattern → Bool
  | assertion condition => condition = .textStart
  | seq first rest => first.startsText || (first.isHollow && rest.startsText)
  | alt first rest => first.startsText && rest.startsText
  | group _ part => part.startsText
  | repeated part least _ _ => decide (0 < least) && part.startsText
  | _ => false

def endsText : Pattern → Bool
  | assertion condition => condition = .textEnd
  | seq first rest => rest.endsText || (rest.isHollow && first.endsText)
  | alt first rest => first.endsText && rest.endsText
  | group _ part => part.endsText
  | repeated part least _ _ => decide (0 < least) && part.endsText
  | _ => false

/-- Whether a condition asks where words begin and end beyond ASCII. -/
def asksForWords : Pattern → Bool
  | assertion (.word _ unicode) => unicode
  | seq first rest => first.asksForWords || rest.asksForWords
  | alt first rest => first.asksForWords || rest.asksForWords
  | group _ part => part.asksForWords
  | repeated part _ _ _ => part.asksForWords
  | _ => false

/-! ## Rows -/

def parts : Pattern → List Pattern
  | empty => []
  | seq first rest => first :: rest.parts
  | pattern => [pattern]

def prepend (part : Pattern) (rest : List Pattern) : List Pattern :=
  match part, rest with
  | literal chars, literal more :: others => literal (chars ++ more) :: others
  | part, rest => part :: rest

def row : List Pattern → Pattern
  | [] => empty
  | [part] => part
  | part :: rest => seq part (row rest)

def ofList (patterns : List Pattern) : Pattern := row ((patterns.flatMap parts).foldr prepend [])

def ofRanges (bytes : Bool) : Ranges → Pattern
  | [] => oneOf true []
  | [range] =>
      if range.low = range.high then literal [Char.ofNat range.low] else oneOf bytes [range]
  | ranges => oneOf bytes ranges

/-! ## Alternatives -/

def choices : Pattern → List Pattern
  | alt first rest => first :: rest.choices
  | pattern => [pattern]

def choice : List Pattern → Pattern
  | [] => oneOf true []
  | [pattern] => pattern
  | pattern :: rest => alt pattern (choice rest)

def char? : Pattern → Option Char
  | literal [c] => some c
  | _ => none

def ranges? : Pattern → Option Ranges
  | oneOf _ ranges => some ranges
  | _ => none

/-- The set that alternatives come to, which are all characters or all sets of them. -/
def merged? (patterns : List Pattern) : Option Ranges :=
  match patterns.mapM char? with
  | some chars => some (Ranges.ofPairs (chars.map fun c => (c, c)))
  | none => (patterns.mapM ranges?).map fun sets => sets.foldl Ranges.union []

def rowParts? : Pattern → Option (List Pattern)
  | seq first rest => some (first :: rest.parts)
  | _ => none

/-- The parts that two rows begin with alike. -/
def sharedParts : List Pattern → List Pattern → List Pattern
  | one :: first, other :: second => if one = other then one :: sharedParts first second else []
  | _, _ => []

def shared : List (List Pattern) → List Pattern
  | [] => []
  | first :: rest => rest.foldl sharedParts first

def weight : Pattern → Nat
  | seq first rest => first.weight + rest.weight + 1
  | alt first rest => first.weight + rest.weight + 1
  | group _ part => part.weight + 1
  | repeated part _ _ _ => part.weight + 1
  | _ => 1

/-- One pattern or another; what all of them begin with comes once, so often at most. -/
def anyOfWithin : Nat → List Pattern → Pattern
  | 0, patterns => choice patterns
  | bound + 1, patterns =>
      match patterns.flatMap choices with
      | [] => oneOf true []
      | [pattern] => pattern
      | all =>
          match merged? all, all.mapM rowParts? with
          | some ranges, _ => ofRanges false ranges
          | none, none => choice all
          | none, some rows =>
              let front := shared rows
              if front.isEmpty then choice all
              else
                let rests := rows.map fun row => ofList (row.drop front.length)
                ofList (front ++ [anyOfWithin bound rests])

/-- One pattern or another, with what all of them begin with in front. -/
def anyOf (patterns : List Pattern) : Pattern :=
  anyOfWithin ((patterns.map weight).foldl (· + ·) 1) patterns

/-! ## Repetitions -/

/-- A part that is repeated. What describes no characters is so once at most. -/
def iterate (part : Pattern) (least : Nat) (most : Option Nat) (greedy : Bool) : Pattern :=
  let (least, most) :=
    if part.isHollow then (min least 1, some ((most.map (min · 1)).getD 1)) else (least, most)
  if most = some 0 then empty
  else if least = 1 && most = some 1 then part
  else repeated part least most greedy

end Pattern

end ShardControl

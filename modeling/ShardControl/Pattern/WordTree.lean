import ShardControl.Pattern.Machine

/-!
# Trees of words

Words that stand side by side as alternatives are looked for together: those
that begin with the same byte go the same way.  A word that ends where others
go on has to be told from them by its place among them.
-/

namespace ShardControl.Pattern

/-- A word, as the bytes that are left of it. -/
abbrev ByteWord := List Nat

namespace WordTree

abbrev Branch := Nat × ByteWord

/-- Put a word in front of those that begin with the same byte. -/
def insert (branch : Branch) : List (Nat × List ByteWord) → List (Nat × List ByteWord)
  | [] => [(branch.1, [branch.2])]
  | (byte, words) :: rest =>
      if byte = branch.1 then (byte, branch.2 :: words) :: rest
      else (byte, words) :: insert branch rest

def grouped (branches : List Branch) : List (Nat × List ByteWord) := branches.foldr insert []

/-- The words between those that are over. -/
def runs : List ByteWord → List (List Branch)
  | [] => [[]]
  | [] :: rest => [] :: runs rest
  | (byte :: word) :: rest =>
      match runs rest with
      | [] => [[(byte, word)]]
      | run :: others => ((byte, word) :: run) :: others

/-- Words without those that are over, where one that is over stands in front of them. -/
def withoutRepeats : List ByteWord → List ByteWord
  | [] :: rest => [] :: rest.dropWhile List.isEmpty
  | words => words

/-- What a tree of words adds to a machine, up to a depth; where all words are over, nothing. -/
def grow : Nat → List ByteWord → Machine → Machine
  | 0, _, machine => machine
  | depth + 1, words, machine =>
      if words.all List.isEmpty then machine
      else
        let parts := runs (withoutRepeats words)
        let branching := (parts.map grouped).filter fun branches => !branches.isEmpty
        let inner := branching.flatten.foldl
          (fun grown (_, rest) => grow depth rest grown) machine
        let switched := branching.foldl
          (fun grown branches =>
            if branches.length = 1 then grown.addStates 1 else grown.addSwitch branches.length)
          inner
        (switched.addStates 1).addForks (branching.length + (parts.length - 1))

end WordTree

def Growth.ofWords (words : List ByteWord) : Growth := fun machine =>
  let depth := (words.map List.length).foldl max 0
  .plain (WordTree.grow (depth + 1) words (machine.addStates 1))

end ShardControl.Pattern

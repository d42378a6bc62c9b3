/-!
# Configuration markup

The values of a configuration text: scalars, lists and maps.  A scalar keeps
how it was written and its tag, since a quoted scalar is never a number.  What
is written as nothing is an empty plain scalar.  An alias stands for a value
that is anchored elsewhere in the same text.
-/

namespace ShardControl

namespace Yaml

inductive Style where
  | plain
  | quoted
  | literal
  | folded
  deriving DecidableEq

/-- A tag is any bytes, since its escapes need not write characters. -/
abbrev Tag := List UInt8

def Tag.ofString (text : String) : Tag := text.toUTF8.data.toList

def Tag.text? (tag : Tag) : Option String := String.fromUTF8? ⟨tag.toArray⟩

end Yaml

inductive Yaml where
  | scalar (tag : Option Yaml.Tag) (style : Yaml.Style) (text : String)
  | list (items : List Yaml)
  | map (entries : List (Yaml × Yaml))
  /-- An alias of what is anchored under a number. -/
  | mention (anchor : Nat)

namespace Yaml

def empty : Yaml := scalar none .plain ""

/-- The value of a text, and the values that are anchored in it. -/
structure Tree where
  root : Yaml
  anchored : List (Nat × Yaml)

namespace Tree

def blank : Tree := ⟨empty, []⟩

/-- The value that an alias stands for; any other value stands for itself. -/
def resolve (tree : Tree) : Yaml → Yaml
  | mention anchor => (tree.anchored.lookup anchor).getD empty
  | value => value

end Tree

end Yaml

end ShardControl

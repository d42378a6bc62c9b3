/-!
# Structured text values

The values that a document text can hold.  Two kinds of scalars keep no
content, since no field of a document takes them: a number that is not a plain
integer numeral, and a string that is not Unicode text because of an unpaired
surrogate or of bytes outside UTF-8.
-/

namespace ShardControl

/-- The content of a string, or `none` where it is not Unicode text. -/
abbrev JsonText := Option String

/-- A value of a structured text; members keep their order and their repetitions. -/
inductive Json where
  | null
  | bool (value : Bool)
  | num (value : Option Int)
  | str (content : JsonText)
  | arr (items : List Json)
  | obj (members : List (JsonText × Json))
  deriving Inhabited

namespace Json

def nat (value : Nat) : Json := num (some value)

def text (content : String) : Json := str (some content)

def record (members : List (String × Json)) : Json :=
  obj (members.map fun member => (some member.1, member.2))

end Json

end ShardControl

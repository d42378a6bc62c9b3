/-!
# Splitting texts

A text that is split at a separator has one part more than separators.
-/

namespace ShardControl.Text

def splitAt (separator : Char) : List Char → List (List Char)
  | [] => [[]]
  | c :: rest =>
      if c = separator then [] :: splitAt separator rest
      else
        match splitAt separator rest with
        | [] => [[c]]
        | part :: parts => (c :: part) :: parts

/--
The lines of a text, each without its line feed and a carriage return before
that.  The last line may lack both.
-/
def lines (chars : List Char) : List (List Char) :=
  let parts := splitAt '\n' chars
  let ended := parts.dropLast.map fun line =>
    if line.getLast? = some '\r' then line.dropLast else line
  ended ++ parts.getLast?.toList.filter (· ≠ [])

end ShardControl.Text

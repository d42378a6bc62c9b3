import ShardControl.Text.Split

/-!
# Paths

A path is a text whose parts are set apart by slashes.  The operations here
look at the text alone; what a path names is a matter of the file tree.
-/

namespace ShardControl.Path

def isAbsolute (path : String) : Bool := path.toList.head? = some '/'

def parts (path : String) : List String := (Text.splitAt '/' path.toList).map String.ofList

/-- Drop from the end of a reversed path the parts that lead nowhere: empty ones, and dots. -/
def trimIdle : List Char → List Char
  | '/' :: rest => if rest.isEmpty then ['/'] else trimIdle rest
  | '.' :: '/' :: rest => if rest.isEmpty then ['/'] else trimIdle rest
  | other => other

/-- The directory part of a path, the text before its last part; none for the root. -/
def parent? (path : String) : Option String :=
  match trimIdle path.toList.reverse with
  | [] => none
  | ['/'] => none
  | reversed => some (String.ofList (trimIdle (reversed.dropWhile (· ≠ '/'))).reverse)

/-- A path below a base, unless the path is absolute itself. -/
def join (base path : String) : String :=
  if isAbsolute path then path
  else if base = "" || base.toList.getLast? = some '/' then base ++ path
  else base ++ "/" ++ path

/-- The last part of a reversed path without its extension, or none if it names no file. -/
def stem? (reversedName : List Char) : Option (List Char) :=
  if reversedName = [] || reversedName = ['.', '.'] || reversedName = ['.'] then none
  else
    match reversedName.dropWhile (· ≠ '.') with
    | _ :: c :: rest => some (c :: rest)
    | _ => some reversedName

/--
The path with another extension of its last part.  A path that names no file
stays, and so does what is left of a path that names none without its extension.
-/
def withExtension (path extension : String) : String :=
  let reversed := trimIdle path.toList.reverse
  let above := reversed.dropWhile (· ≠ '/')
  match stem? (reversed.takeWhile (· ≠ '/')) with
  | none => path
  | some stem =>
      if stem = ['.'] ∧ reversed.length = path.length then
        String.ofList (('.' :: stem ++ above).reverse)
      else String.ofList ((stem ++ above).reverse) ++ "." ++ extension

end ShardControl.Path

import ShardControl.Files.Path
import ShardControl.KeyedMap.Basic

/-!
# File trees

Files and directories by the place they have below the root.  A path names a
place only if all that it passes through are directories, and if neither the
path nor any name in it is too long.
-/

namespace ShardControl

/-- What a place holds: the bytes of a file, or a directory. -/
structure FileEntry where
  /-- The names from the root, each after a slash. -/
  place : String
  content : Option ByteArray

instance : Keyed FileEntry String := ⟨FileEntry.place⟩

structure FileTree where
  entries : KeyedMap FileEntry
  /-- The directory that relative paths start from. -/
  home : List String

namespace FileTree

/-- The place that names lead to, the innermost name first. -/
def placeOf (names : List String) : String :=
  String.join (names.reverse.map fun name => "/" ++ name)

def entry? (tree : FileTree) (names : List String) : Option FileEntry :=
  tree.entries.find? (placeOf names)

/-- Whether names lead to a directory; the root is one. -/
def isDirectory (tree : FileTree) (names : List String) : Bool :=
  names.isEmpty || (tree.entry? names).any fun entry => entry.content.isNone

def nameLimit : Nat := 255

def pathLimit : Nat := 4095

/-- Follow the parts of a path from a place, the innermost name first. -/
def follow (tree : FileTree) : List String → List String → Option (List String)
  | names, [] => some names
  | names, part :: parts =>
      if tree.isDirectory names then
        if part = "" || part = "." then tree.follow names parts
        else if part = ".." then tree.follow names.tail parts
        else if nameLimit < part.utf8ByteSize then none
        else tree.follow (part :: names) parts
      else none

/-- The place that a path names. It may be free, but it lies in a directory. -/
def resolve (tree : FileTree) (path : String) : Option (List String) :=
  if path = "" || path.toList.contains '\x00' || pathLimit < path.utf8ByteSize then none
  else tree.follow (if Path.isAbsolute path then [] else tree.home) (Path.parts path)

def hasPath (tree : FileTree) (path : String) : Bool :=
  (tree.resolve path).any fun names => names.isEmpty || (tree.entry? names).isSome

def read (tree : FileTree) (path : String) : Option ByteArray :=
  (tree.resolve path).bind fun names => (tree.entry? names).bind FileEntry.content

def put (tree : FileTree) (names : List String) (bytes : ByteArray) : Option FileTree :=
  if tree.isDirectory names then none
  else some { tree with entries := tree.entries.insert ⟨placeOf names, some bytes⟩ }

def write (tree : FileTree) (path : String) (bytes : ByteArray) : Option FileTree :=
  (tree.resolve path).bind fun names => tree.put names bytes

def rename (tree : FileTree) (source target : String) : Option FileTree := do
  let names ← tree.resolve source
  let bytes ← (← tree.entry? names).content
  let moved ← tree.resolve target
  { tree with entries := tree.entries.erase (placeOf names) }.put moved bytes

/-- Make the directories that the parts of a path lead through from a place, and their end. -/
def makeDirectories (tree : FileTree) : List String → List String → FileTree × List String
  | names, [] => (tree, names)
  | names, part :: parts =>
      if part = ".." then tree.makeDirectories names.tail parts
      else
        let inner := part :: names
        let made :=
          if tree.isDirectory inner then tree
          else { tree with entries := tree.entries.insert ⟨placeOf inner, none⟩ }
        made.makeDirectories inner parts

/-- Write a file together with the directories that its path leads through. -/
def place (tree : FileTree) (path : String) (bytes : ByteArray) : FileTree :=
  let parts := (Path.parts path).filter fun part => part ≠ "" && part ≠ "."
  let (made, names) := tree.makeDirectories [] parts.dropLast
  (made.put (parts.getLast?.toList ++ names) bytes).getD made

/-- A tree with one directory, from which relative paths start. -/
def withHome (path : String) : FileTree :=
  let names := (Path.parts path).filter (· ≠ "")
  ({ entries := ∅, home := names.reverse : FileTree }.makeDirectories [] names).1

def files (tree : FileTree) : List String :=
  (tree.entries.toList.filter fun entry => entry.content.isSome).map FileEntry.place

/-- The files below a directory, in order, by their paths from there on. -/
def filesBelow (tree : FileTree) (directory : String) : List String :=
  let above := directory.toList ++ ['/']
  tree.files.filterMap fun place =>
    if above.isPrefixOf place.toList then some (String.ofList (place.toList.drop above.length))
    else none

end FileTree

end ShardControl

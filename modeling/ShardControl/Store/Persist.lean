import ShardControl.Files.Tree
import ShardControl.Store.Basic

/-!
# Stores in files

A store is written as a document beside its place and then moved there, so
that a reader finds the old document or the new one.
-/

namespace ShardControl.Store

/-- The path that a document is first written to. -/
def draftPath (path : String) : String := Path.withExtension path "tmp"

/-- Write the store to a file. A document that cannot be moved stays where it was written. -/
def persist (store : Store) (tree : FileTree) (path : String) :
    Except MetadataError Unit × FileTree :=
  match tree.write (draftPath path) store.document.encode.toUTF8 with
  | none => (.error .io, tree)
  | some written =>
      match written.rename (draftPath path) path with
      | none => (.error .io, written)
      | some moved => (.ok (), moved)

def load (tree : FileTree) (path : String) : Except MetadataError Store :=
  match tree.read path with
  | none => .error .io
  | some bytes =>
      match Document.decode bytes with
      | .error reason => .error (.document reason)
      | .ok document => ofDocument document

end ShardControl.Store

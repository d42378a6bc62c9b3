import ShardControl.Proofs.Document.RoundTrip
import ShardControl.Proofs.Files.Tree
import ShardControl.Store.Persist

/-!
# Stores that come back from files

A store can be written wherever its draft and the file itself have a place, and
what is loaded from there starts with the same topology and parameters.
-/

namespace ShardControl.Store

variable {store : Store} {tree moved : FileTree} {path : String}

theorem persist_eq_ok_iff :
    store.persist tree path = (.ok (), moved) ↔
      ∃ written, tree.write (draftPath path) store.document.encode.toUTF8 = some written ∧
        written.rename (draftPath path) path = some moved := by
  unfold persist
  cases tree.write (draftPath path) store.document.encode.toUTF8 with
  | none => simp
  | some written => cases onto : written.rename (draftPath path) path <;> simp [onto]

/-- What a store holds does not matter to whether it can be written. -/
theorem exists_persist_iff :
    (∃ moved, store.persist tree path = (.ok (), moved)) ↔
      tree.Takes (draftPath path) ∧ tree.Takes path := by
  simp only [persist_eq_ok_iff]
  constructor
  · rintro ⟨moved, written, wrote, renamed⟩
    exact ⟨FileTree.exists_write_iff.mp ⟨written, wrote⟩,
      (FileTree.exists_rename_iff wrote).mp ⟨moved, renamed⟩⟩
  · rintro ⟨draft, target⟩
    obtain ⟨written, wrote⟩ := FileTree.exists_write_iff.mpr draft
    obtain ⟨moved, renamed⟩ := (FileTree.exists_rename_iff wrote).mpr target
    exact ⟨moved, written, wrote, renamed⟩

theorem read_persist (persisted : store.persist tree path = (.ok (), moved)) :
    moved.read path = some store.document.encode.toUTF8 := by
  obtain ⟨written, wrote, renamed⟩ := persist_eq_ok_iff.mp persisted
  exact FileTree.read_rename wrote renamed

/-- A store that was written comes back, as if nothing had been committed yet. -/
theorem load_persist (persisted : store.persist tree path = (.ok (), moved)) :
    load moved path = .ok (start store.topology store.parameters) := by
  have decoded : Document.decode store.document.encode.toUTF8 = .ok store.document :=
    Document.decode_encode_make store.topology store.parameters
  have verified : store.document.verify = .ok () :=
    Document.verify_make store.topology store.parameters
  simp only [load, read_persist persisted, decoded, ofDocument, verified]
  rfl

end ShardControl.Store

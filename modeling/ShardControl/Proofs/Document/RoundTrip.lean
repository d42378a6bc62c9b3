import ShardControl.Proofs.Document.Form
import ShardControl.Proofs.Json.Values
import ShardControl.Store.Basic

/-!
# Decoding encoded documents

A document is read back from its text, whatever strings and numbers it holds:
what remains of decoding is the three checks, in their order.  A document made
of a topology and parameters passes them all.
-/

namespace ShardControl.Document

open Json

instance : LawfulForm Document where
  ofJson?_toJson document := by
    rw [toJson, ofJson?, instJsonForm]
    dsimp only
    rw [members?_record]
    · simp only [List.map, required_toJson]
      rfl
    · rfl
    · decide

/-- The version is found whatever the other members are. -/
theorem version?_toJson (document : Document) :
    version? (toJson document) = some document.version := by
  change required (some (toJson document.version)) = _
  exact required_toJson document.version

/-- Once the text is read, the version is looked at, and then whether the document agrees. -/
theorem decode_encode (document : Document) : decode document.encode.toUTF8 =
    if document.version ≠ formatVersion then .error (.unsupportedVersion document.version)
    else document.verify.map fun _ => document := by
  rw [decode, encode, ofBytes?_indented]
  dsimp only
  rw [ofValue, version?_toJson, ofJson?_toJson]

/-- Header first, then hash: the document itself comes through only if both agree. -/
theorem map_verify (document : Document) : (document.verify.map fun _ => document) =
    if document.sequence ≠ document.topology.sequence then
      .error (.sequenceMismatch document.sequence document.topology.sequence)
    else if digestOf document.topology document.parameters ≠ document.digest then
      .error (.digestMismatch document.digest (digestOf document.topology document.parameters))
    else .ok document := by
  rw [verify]
  split
  · rfl
  · dsimp only
    split <;> rfl

theorem verify_make (topology : Topology) (parameters : Parameters) :
    (make topology parameters).verify = .ok () := by
  simp [verify, make]

theorem decode_encode_make (topology : Topology) (parameters : Parameters) :
    decode (make topology parameters).encode.toUTF8 = .ok (make topology parameters) := by
  have version : (make topology parameters).version = formatVersion := rfl
  rw [decode_encode, version, if_neg (not_not_intro rfl), verify_make]
  rfl

/-- Decoding what was encoded tells the three defects of a document apart, in their order, and
gives back every other document; so what a store exports is its topology and its parameters. -/
theorem decodes_encoded :
    (∀ document : Document, decode document.encode.toUTF8 =
      if document.version ≠ formatVersion then .error (.unsupportedVersion document.version)
      else if document.sequence ≠ document.topology.sequence then
        .error (.sequenceMismatch document.sequence document.topology.sequence)
      else if digestOf document.topology document.parameters ≠ document.digest then
        .error (.digestMismatch document.digest (digestOf document.topology document.parameters))
      else .ok document) ∧
    (∀ topology parameters,
      decode (make topology parameters).encode.toUTF8 = .ok (make topology parameters)) ∧
    (∀ store : Store, ∃ document, decode store.document.encode.toUTF8 = .ok document ∧
      document.topology = store.topology ∧ document.parameters = store.parameters) := by
  refine ⟨fun document => ?_, decode_encode_make, fun store => ?_⟩
  · rw [decode_encode, map_verify]
  · exact ⟨store.document, decode_encode_make store.topology store.parameters, rfl, rfl⟩

end ShardControl.Document

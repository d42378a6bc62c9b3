import ShardControl.Document.Basic

/-!
# Metadata store

The store holds one topology and its parameters.  A commit names the sequence
it is based on and takes effect only if that is still the sequence of the
store; every commit moves the sequence on by one, so of two commits with one
base at most one succeeds.
-/

namespace ShardControl

inductive MetadataError where
  | conflict (expected actual : UInt64)
  | topology (reason : TopologyError)
  | document (reason : DocumentError)
  | io
  | unavailable (reason : String)
  deriving DecidableEq

namespace MetadataError

def message : MetadataError → String
  | conflict expected actual =>
      "metadata version conflict: expected sequence " ++ Word.text64 expected ++
        ", store is at " ++ Word.text64 actual
  | topology reason => reason.message
  | document reason => reason.message
  | io => "metadata store I/O error"
  | unavailable reason => "metadata store unavailable: " ++ reason

/-- Whether another planner was faster. -/
def isConflict : MetadataError → Bool
  | conflict .. => true
  | _ => false

end MetadataError

/-- What a planner asks the store to change in one step. -/
structure Update where
  expected : UInt64
  topology : Option Topology
  upserts : List ReplicaParams
  removals : List ReplicaId

/-- Topology, parameters, and how many commits succeeded. -/
structure Store where
  topology : Topology
  parameters : Parameters
  commits : Nat
  deriving DecidableEq

namespace Store

def start (topology : Topology) (parameters : Parameters) : Store where
  topology := topology
  parameters := parameters
  commits := 0

instance : Inhabited Store := ⟨start default default⟩

/-- The version that commits are compared with. -/
def sequence (store : Store) : UInt64 := store.topology.sequence

/-- The store after an update: removals come before upserts. -/
def apply (store : Store) (update : Update) : Store where
  topology := (update.topology.getD store.topology).withSequence (store.sequence + 1)
  parameters :=
    update.upserts.foldl Parameters.putReplica <|
      update.removals.foldl Parameters.removeReplica store.parameters
  commits := store.commits + 1

/-- Apply an update that is based on the present sequence. -/
def commit (store : Store) (update : Update) : Except MetadataError Store :=
  if update.expected = store.sequence then .ok (store.apply update)
  else .error (.conflict update.expected store.sequence)

/-! ## Documents -/

def document (store : Store) : Document := .make store.topology store.parameters

/-- A store that starts from a document that agrees with itself. -/
def ofDocument (document : Document) : Except MetadataError Store :=
  match document.verify with
  | .error reason => .error (.document reason)
  | .ok () => .ok (start document.topology document.parameters)

/-- Replace all metadata by that of a document, unless the document is older. -/
def adopt (store : Store) (document : Document) : Except MetadataError Store :=
  match document.verify with
  | .error reason => .error (.document reason)
  | .ok () =>
      if document.sequence < store.sequence then
        .error (.conflict document.sequence store.sequence)
      else
        .ok { store with topology := document.topology, parameters := document.parameters }

end Store

end ShardControl

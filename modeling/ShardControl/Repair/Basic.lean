import ShardControl.Store.Basic

/-!
# Remedies

What can be wrong with one replica on one storage node, and what is done about
it.
-/

namespace ShardControl

inductive RemedyKind where
  /-- Metadata and storage node agree. -/
  | noOp
  /-- The metadata name a replica that the storage node never created. -/
  | removeStrayMetadata
  /-- The storage node runs a replica that the topology does not place there. -/
  | markDisabled
  /-- The parameters name another storage node than the topology. -/
  | repairParams
  deriving DecidableEq

namespace RemedyKind

def text : RemedyKind → String
  | noOp => "no_op"
  | removeStrayMetadata => "remove_stray_metadata"
  | markDisabled => "mark_disabled"
  | repairParams => "repair_params"

def ofText? (text : String) : Option RemedyKind :=
  [noOp, removeStrayMetadata, markDisabled, repairParams].find? fun kind => kind.text = text

end RemedyKind

structure Remedy where
  storageNode : StorageNodeId
  node : ReplicaId
  kind : RemedyKind
  deriving DecidableEq

inductive CheckError where
  | metadata (reason : MetadataError)
  | inspect (node : StorageNodeId) (reason : String)
  deriving DecidableEq

def CheckError.message : CheckError → String
  | metadata reason => reason.message
  | inspect node reason => "cannot inspect storage node " ++ node.text ++ ": " ++ reason

end ShardControl

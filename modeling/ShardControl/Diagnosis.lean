import ShardControl.ControlPlane.Basic

/-!
# Diagnoses

A diagnosis tells an error by its message and by the path of its kinds, from
the outermost to the one at the root.  An error that wraps another keeps the
message of its cause and puts its own kind in front.
-/

namespace ShardControl

/-- The kinds of an error, the outermost first, and its message. -/
structure Diagnosis where
  kinds : List String
  message : String
  deriving DecidableEq

class Diagnosable (ε : Type) where
  diagnosis : ε → Diagnosis

export Diagnosable (diagnosis)

namespace Diagnosis

def root (kind message : String) : Diagnosis := ⟨[kind], message⟩

def within (kind : String) (cause : Diagnosis) : Diagnosis :=
  { cause with kinds := kind :: cause.kinds }

def path (found : Diagnosis) : String := "/".intercalate found.kinds

end Diagnosis

open Diagnosis

instance : Diagnosable TopologyError where
  diagnosis reason :=
    root (match reason with
      | .unknownShard _ => "UnknownShard"
      | .unknownStorageNode _ => "UnknownStorageNode"
      | .unknownDatacenter _ => "UnknownDatacenter"
      | .unknownReplica _ => "UnknownReplica") reason.message

instance : Diagnosable DocumentError where
  diagnosis reason :=
    root (match reason with
      | .unsupportedVersion _ => "UnsupportedSchema"
      | .digestMismatch _ _ => "DigestMismatch"
      | .sequenceMismatch _ _ => "SequenceMismatch"
      | .malformed => "Json") reason.message

instance : Diagnosable MetadataError where
  diagnosis
    | .topology cause => within "Topology" (diagnosis cause)
    | .document cause => within "Document" (diagnosis cause)
    | reason@(.conflict _ _) => root "VersionConflict" reason.message
    | reason@.io => root "Io" reason.message
    | reason@(.unavailable _) => root "Unavailable" reason.message

instance : Diagnosable RemoteError where
  diagnosis reason :=
    root (match reason with
      | .invalidState _ _ => "InvalidState"
      | .unreachable _ _ => "Unreachable"
      | .rejected _ _ => "Rejected") reason.message

instance : Diagnosable PortError where
  diagnosis reason :=
    root (match reason with
      | .exhausted _ _ => "Exhausted"
      | .unknownStorageNode _ => "UnknownStorageNode") reason.message

instance : Diagnosable CheckError where
  diagnosis
    | .metadata cause => within "Metadata" (diagnosis cause)
    | reason@(.inspect _ _) => root "Inspect" reason.message

instance : Diagnosable ServiceError where
  diagnosis reason := root "StopFailed" reason.message

instance : Diagnosable ConfigError where
  diagnosis reason :=
    root (match reason with
      | .unreadable _ => "Read"
      | .malformed => "Parse"
      | .invalid _ => "Invalid") reason.message

instance : Diagnosable DeployError where
  diagnosis
    | .invalidState cause => within "RemoteInvalidState" (diagnosis cause)
    | .remote cause => within "Remote" (diagnosis cause)
    | .metadata cause => within "Metadata" (diagnosis cause)
    | .topology cause => within "Topology" (diagnosis cause)
    | .port cause => within "Port" (diagnosis cause)
    | reason@(.unknownStorageNode _) => root "UnknownStorageNode" reason.message
    | reason@(.missingStorageNodeParams _) => root "MissingStorageNodeParams" reason.message
    | reason@(.shardNotFound _) => root "ShardNotFound" reason.message
    | reason@(.unresolvedShard _) => root "UnresolvedShard" reason.message
    | reason@(.notElectable _ _) => root "NotElectable" reason.message
    | reason@(.missingReplicaParams _) => root "MissingNodeParams" reason.message
    | reason@(.commitConflict _) => root "CommitConflict" reason.message

instance : Diagnosable PlaneError where
  diagnosis
    | .config cause => within "Config" (diagnosis cause)
    | .metadata cause => within "Metadata" (diagnosis cause)
    | .deploy cause => within "Deploy" (diagnosis cause)

end ShardControl

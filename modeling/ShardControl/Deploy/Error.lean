import ShardControl.Port.Ledger
import ShardControl.Store.Basic

/-!
# Failed deployments

Why a deployment fails, and what each failure leaves for the plan to do.
-/

namespace ShardControl

inductive RemoteError where
  | invalidState (node : StorageNodeId) (reason : String)
  | unreachable (node : StorageNodeId) (reason : String)
  | rejected (node : StorageNodeId) (reason : String)
  deriving DecidableEq

def RemoteError.message : RemoteError → String
  | invalidState node reason =>
      "storage node " ++ node.text ++ " reported invalid state: " ++ reason
  | unreachable node reason => "storage node " ++ node.text ++ " unreachable: " ++ reason
  | rejected node reason => "storage node " ++ node.text ++ " rejected request: " ++ reason

inductive FailurePolicy where
  /-- Clean up; the deployment may be tried again. -/
  | runCleanup
  /-- Clean up after this task and schedule nothing more. -/
  | noCleanupJobs
  /-- Cancel the plan without cleaning up. -/
  | planCancel
  deriving DecidableEq

namespace FailurePolicy

def isFatal : FailurePolicy → Bool
  | runCleanup => false
  | noCleanupJobs | planCancel => true

def label : FailurePolicy → String
  | runCleanup => "RunCleanup"
  | noCleanupJobs => "NoCleanupJobs"
  | planCancel => "PlanCancel"

end FailurePolicy

inductive DeployError where
  | unknownStorageNode (node : StorageNodeId)
  | missingStorageNodeParams (node : StorageNodeId)
  | shardNotFound (shard : ShardId)
  | unresolvedShard (slot : Nat)
  | notElectable (shard : ShardId) (node : StorageNodeId)
  | missingReplicaParams (replica : ReplicaId)
  | invalidState (reason : RemoteError)
  | remote (reason : RemoteError)
  | commitConflict (attempts : Nat)
  | metadata (reason : MetadataError)
  | topology (reason : TopologyError)
  | port (reason : PortError)
  deriving DecidableEq

namespace DeployError

/-- A storage node in an invalid state is a failure of its own. -/
def ofRemote : RemoteError → DeployError
  | .invalidState node reason => .invalidState (.invalidState node reason)
  | other => .remote other

def message : DeployError → String
  | unknownStorageNode node => "storage node " ++ node.text ++ " is not in the topology"
  | missingStorageNodeParams node => "storage node " ++ node.text ++ " has no parameters"
  | shardNotFound shard =>
      "expected to find shard " ++ shard.text ++ " in the current topology, but it is missing"
  | unresolvedShard slot => "plan shard slot " ++ Decimal.text slot ++ " was never allocated"
  | notElectable shard node =>
      "new node in " ++ shard.text ++ " on " ++ node.text ++
        " has no electable peers and is not electable itself"
  | missingReplicaParams replica => "no parameters stored for existing node " ++ replica.text
  | invalidState reason => reason.message
  | remote reason => reason.message
  | commitConflict attempts =>
      "metadata commit still conflicting after " ++ Decimal.text attempts ++ " attempts"
  | metadata reason => reason.message
  | topology reason => reason.message
  | port reason => reason.message

def policy : DeployError → FailurePolicy
  | unknownStorageNode _ | missingStorageNodeParams _ | shardNotFound _ | unresolvedShard _
  | notElectable .. | invalidState _ => .noCleanupJobs
  | missingReplicaParams _ => .planCancel
  | remote _ | commitConflict _ | metadata _ | topology _ | port _ => .runCleanup

end DeployError

end ShardControl

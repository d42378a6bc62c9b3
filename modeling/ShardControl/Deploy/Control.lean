import ShardControl.Log.Event
import ShardControl.Store.Interface

/-!
# Surroundings of a plan

What the programs of a plan ask: the metadata store, the plan itself, the
agents and inspectors on storage nodes, the monitor, the clock, the log, and
threads for the jobs that clean up after failures.
-/

namespace ShardControl

/-- A task is known by its key; under it is noted which replica the task resolved to. -/
abbrev TaskKey := Nat

/-- A job that follows up the deployment of a task on a storage node. -/
structure CleanupJob where
  /-- The name of the task, as it was when the job was made. -/
  task : String
  key : TaskKey
  storageNode : StorageNodeId
  retries : RetryPolicy

def CleanupJob.thread (job : CleanupJob) : String := "cleanup-" ++ job.storageNode.text

inductive ControlCall where
  | store (call : StoreCall)
  /-- The shard noted in a slot of the plan. -/
  | shard (slot : Nat)
  | isCancelled
  | cancel
  | resolved (task : TaskKey)
  | resolve (task : TaskKey) (replica : ReplicaId)
  /-- Find the agent of a storage node. -/
  | findAgent (topology : Topology) (node : StorageNodeId)
  /-- Have the agent create a replica; it answers false if the replica was there before. -/
  | createReplica (node : StorageNodeId) (settings : ParameterMap) (topology : Topology)
  | register (host : String) (port : UInt16) (resource : ResourceId)
  | isDeployed (node : StorageNodeId) (replica : ReplicaId)
  | disable (node : StorageNodeId) (replica : ReplicaId)
  /-- Start a thread, under a name, that runs a job; an error says why there is none. -/
  | spawn (thread : String) (job : CleanupJob)
  | clock (call : ClockCall)
  /-- Pause whatever happens. -/
  | rest (pause : Nat)
  /-- Pause until the plan is cancelled; the answer says whether it was. -/
  | sleep (pause : Nat)
  | log (event : Event)

namespace ControlCall

def Answer : ControlCall → Type
  | store call => call.Answer
  | shard _ => Option ShardId
  | isCancelled => Bool
  | cancel => Unit
  | resolved _ => Option ReplicaId
  | resolve .. => Unit
  | findAgent .. => Except RemoteError Unit
  | createReplica .. => Except RemoteError Bool
  | register .. => Unit
  | isDeployed .. => Except CheckError Bool
  | disable .. => Except CheckError Unit
  | spawn .. => Except String Unit
  | clock call => call.Answer
  | rest _ => Unit
  | sleep _ => Bool
  | log _ => Unit

end ControlCall

def Control : Interface where
  Call := ControlCall
  Answer := ControlCall.Answer

namespace Control

def ask (call : ControlCall) : Program Control call.Answer := Program.ask (I := Control) call

instance : Clocked Control where
  clock call := ask (.clock call)

def log (event : Event) : Program Control Unit := ask (.log event)

end Control

end ShardControl

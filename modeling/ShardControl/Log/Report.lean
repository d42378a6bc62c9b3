import ShardControl.Log.Event
import ShardControl.Service.Monitored
import ShardControl.Telemetry.Monitor

/-!
# Reports

The events that operations on the store, the monitor and services report once
they are done.
-/

namespace ShardControl

/-- A commit that succeeded reports its size and the new sequence. -/
def Update.report (update : Update) (sequence : UInt64) : Event :=
  .metadataCommit sequence update.upserts.length update.removals.length

/-- The adoption of a document reports the sequences after and before it. -/
def Store.adoptionReport (before after : Store) : Event :=
  .metadataImport after.sequence before.sequence

/-- A registration reports how many resources are registered after it. -/
def Monitor.registrationReport (monitor : Monitor) (host : String) (port : UInt16)
    (resource : ResourceId) : Event :=
  .agentRegistered resource host port monitor.registrations.size

/-- A drain reports the measurements that have given way, if there are any. -/
def Snapshot.report (snapshot : Snapshot) (resource : Option ResourceId) : List Event :=
  match snapshot.pruned with
  | none => []
  | some pruned => [.repositoryPruned resource pruned.count pruned.statusChanges]

def Transition.report (transition : Transition) : Event :=
  .serviceStatus transition.resource transition.source transition.target

end ShardControl

import ShardControl.Topology.InPlace

/-!
# Changes of a topology

The changes that planners make to a topology, as values, so that a run of them
is a list.
-/

namespace ShardControl

inductive Change where
  | addDatacenter (datacenter : Datacenter)
  | addStorageNode (node : StorageNode)
  | addShard (id : ShardId)
  | addReplica (shard : ShardId) (node : StorageNodeId)
  | addArbiter (shard : ShardId) (node : StorageNodeId)
  | removeReplica (id : ReplicaId)

namespace Change

inductive Answer where
  | done
  | shard (shard : Shard)
  | replica (id : ReplicaId)
  | arbiter (id : ArbiterId)
  | removed (replica : Replica)

/-- The answer to a change together with the changed topology, or why it is refused. -/
def attempt (topology : Topology) : Change → Except TopologyError (Answer × Topology)
  | addDatacenter datacenter => .ok (.done, topology.addDatacenter datacenter)
  | addStorageNode node => (topology.addStorageNode node).map fun changed => (.done, changed)
  | addShard id =>
      let added := topology.addShard id
      .ok (.shard added.1, added.2)
  | addReplica shard node =>
      (topology.addReplica shard node).map fun added => (.replica added.1, added.2)
  | addArbiter shard node =>
      (topology.addArbiter shard node).map fun added => (.arbiter added.1, added.2)
  | removeReplica id =>
      (topology.removeReplica id).map fun removed => (.removed removed.1, removed.2)

def steps : Change → InPlace Answer
  | addDatacenter datacenter => do
      InPlace.addDatacenter datacenter
      return .done
  | addStorageNode node => do
      InPlace.addStorageNode node
      return .done
  | addShard id => return .shard (← InPlace.addShard id)
  | addReplica shard node => return .replica (← InPlace.addReplica shard node)
  | addArbiter shard node => return .arbiter (← InPlace.addArbiter shard node)
  | removeReplica id => return .removed (← InPlace.removeReplica id)

def perform (topology : Topology) (change : Change) : Except TopologyError Answer × Topology :=
  change.steps.on topology

def performAll (topology : Topology) (changes : List Change) : Topology :=
  changes.foldl (fun current change => (change.perform current).2) topology

end Change

end ShardControl

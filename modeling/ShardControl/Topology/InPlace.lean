import ShardControl.Topology.Basic

/-!
# Changes in place

A planner changes the topology that it holds, one step after the other.  What
a step has written stays, even if a later step fails.
-/

namespace ShardControl

abbrev InPlace := ExceptT TopologyError (StateM Topology)

namespace InPlace

/-- What the work answers, and the topology that it leaves. -/
def on {α : Type} (topology : Topology) (work : InPlace α) : Except TopologyError α × Topology :=
  StateT.run (ExceptT.run work) topology

def requireDatacenter (id : DatacenterId) : InPlace Unit := do
  if (← get).datacenters.contains id then return () else throw (.unknownDatacenter id)

def requireStorageNode (id : StorageNodeId) : InPlace Unit := do
  if (← get).storageNodes.contains id then return () else throw (.unknownStorageNode id)

def requireShard (id : ShardId) : InPlace Shard := do
  match (← get).shard? id with
  | some shard => return shard
  | none => throw (.unknownShard id)

def writeShard (shard : Shard) : InPlace Unit := modify fun topology => topology.putShard shard

def changeShard (id : ShardId) (change : Shard → Shard) : InPlace Unit :=
  modify fun topology =>
    match topology.shard? id with
    | some shard => topology.putShard (change shard)
    | none => topology

/-- Take the next number of a shard, which counts it as given out. -/
def takeNumber (shard : Shard) : InPlace UInt32 := do
  changeShard shard.id Shard.advance
  return shard.nextNum

def addDatacenter (datacenter : Datacenter) : InPlace Unit :=
  modify fun topology => topology.addDatacenter datacenter

def addStorageNode (node : StorageNode) : InPlace Unit := do
  requireDatacenter node.datacenter
  modify fun topology => { topology with storageNodes := topology.storageNodes.insert node }

def addShard (id : ShardId) : InPlace Shard := do
  match (← get).shard? id with
  | some shard => return shard
  | none =>
      writeShard (Shard.fresh id)
      return Shard.fresh id

def addReplica (shard : ShardId) (node : StorageNodeId) : InPlace ReplicaId := do
  requireStorageNode node
  let found ← requireShard shard
  let num ← takeNumber found
  let id : ReplicaId := ⟨found.id, num⟩
  changeShard found.id fun shard => { shard with replicas := shard.replicas.insert ⟨id, node⟩ }
  return id

def addArbiter (shard : ShardId) (node : StorageNodeId) : InPlace ArbiterId := do
  requireStorageNode node
  let found ← requireShard shard
  let num ← takeNumber found
  let id : ArbiterId := ⟨found.id, num⟩
  changeShard found.id fun shard => { shard with arbiters := shard.arbiters.insert ⟨id, node⟩ }
  return id

def removeReplica (id : ReplicaId) : InPlace Replica := do
  match (← get).shard? id.shard with
  | none => throw (.unknownReplica id)
  | some shard =>
      writeShard { shard with replicas := shard.replicas.erase id }
      match shard.replicas.find? id with
      | none => throw (.unknownReplica id)
      | some replica => return replica

end InPlace

end ShardControl

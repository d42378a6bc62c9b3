import ShardControl.Id
import ShardControl.KeyedMap.Basic

/-!
# Topology

The layout of a store: datacenters, the storage nodes in them, and shards with
the replicas and arbiters that storage nodes host.  A topology is a value;
its sequence number is the version that commits compare.
-/

namespace ShardControl

inductive NodeType where
  | electable
  | secondary
  deriving DecidableEq

namespace NodeType

def isElectable : NodeType → Bool
  | electable => true
  | secondary => false

def text : NodeType → String
  | electable => "ELECTABLE"
  | secondary => "SECONDARY"

end NodeType

inductive DatacenterType where
  | primary
  | secondary
  deriving DecidableEq

structure Datacenter where
  id : DatacenterId
  name : String
  kind : DatacenterType
  deriving DecidableEq

/-- Replicas of a primary datacenter can be elected, those of a secondary one cannot. -/
def Datacenter.replicaType (datacenter : Datacenter) : NodeType :=
  match datacenter.kind with
  | .primary => .electable
  | .secondary => .secondary

structure StorageNode where
  id : StorageNodeId
  datacenter : DatacenterId
  hostname : String
  registryPort : UInt16
  deriving DecidableEq

def StorageNode.descriptor (node : StorageNode) : String :=
  node.id.text ++ "(" ++ node.hostname ++ ":" ++ Word.text16 node.registryPort ++ ")"

structure Replica where
  id : ReplicaId
  storageNode : StorageNodeId
  deriving DecidableEq

structure Arbiter where
  id : ArbiterId
  storageNode : StorageNodeId
  deriving DecidableEq

instance : Keyed Datacenter DatacenterId := ⟨Datacenter.id⟩
instance : Keyed StorageNode StorageNodeId := ⟨StorageNode.id⟩
instance : Keyed Replica ReplicaId := ⟨Replica.id⟩
instance : Keyed Arbiter ArbiterId := ⟨Arbiter.id⟩

/-- A shard, with the number its next replica or arbiter gets. -/
structure Shard where
  id : ShardId
  replicas : KeyedMap Replica
  arbiters : KeyedMap Arbiter
  nextNum : UInt32
  deriving DecidableEq

instance : Keyed Shard ShardId := ⟨Shard.id⟩

namespace Shard

def fresh (id : ShardId) : Shard where
  id := id
  replicas := ∅
  arbiters := ∅
  nextNum := 1

/-- The replica of the shard on a storage node, the first by id. -/
def replicaOn (shard : Shard) (node : StorageNodeId) : Option Replica :=
  shard.replicas.toList.find? fun replica => replica.storageNode = node

/-- Count one more number as given out. -/
def advance (shard : Shard) : Shard :=
  { shard with nextNum := Word.succSat shard.nextNum }

def addReplica (shard : Shard) (node : StorageNodeId) : ReplicaId × Shard :=
  let id : ReplicaId := ⟨shard.id, shard.nextNum⟩
  (id, { shard.advance with replicas := shard.replicas.insert ⟨id, node⟩ })

def addArbiter (shard : Shard) (node : StorageNodeId) : ArbiterId × Shard :=
  let id : ArbiterId := ⟨shard.id, shard.nextNum⟩
  (id, { shard.advance with arbiters := shard.arbiters.insert ⟨id, node⟩ })

end Shard

structure Topology where
  storeName : String
  sequence : UInt64
  datacenters : KeyedMap Datacenter
  storageNodes : KeyedMap StorageNode
  shards : KeyedMap Shard
  deriving DecidableEq

inductive TopologyError where
  | unknownShard (id : ShardId)
  | unknownStorageNode (id : StorageNodeId)
  | unknownDatacenter (id : DatacenterId)
  | unknownReplica (id : ReplicaId)
  deriving DecidableEq

def TopologyError.message : TopologyError → String
  | unknownShard id => "shard " ++ id.text ++ " not found"
  | unknownStorageNode id => "storage node " ++ id.text ++ " not found"
  | unknownDatacenter id => "datacenter " ++ id.text ++ " not found"
  | unknownReplica id => "replica node " ++ id.text ++ " not found"

namespace Topology

def named (storeName : String) : Topology where
  storeName := storeName
  sequence := 0
  datacenters := ∅
  storageNodes := ∅
  shards := ∅

instance : Inhabited Topology := ⟨named ""⟩

def withSequence (topology : Topology) (sequence : UInt64) : Topology :=
  { topology with sequence := sequence }

/-! ## Queries -/

def shard? (topology : Topology) (id : ShardId) : Option Shard := topology.shards.find? id

def storageNode? (topology : Topology) (id : StorageNodeId) : Option StorageNode :=
  topology.storageNodes.find? id

def datacenter? (topology : Topology) (id : DatacenterId) : Option Datacenter :=
  topology.datacenters.find? id

/-- A replica is looked up in the shard that its id names. -/
def replica? (topology : Topology) (id : ReplicaId) : Option Replica :=
  (topology.shard? id.shard).bind fun shard => shard.replicas.find? id

def datacenterOf (topology : Topology) (node : StorageNodeId) :
    Except TopologyError Datacenter :=
  match topology.storageNode? node with
  | none => .error (.unknownStorageNode node)
  | some found =>
      match topology.datacenter? found.datacenter with
      | none => .error (.unknownDatacenter found.datacenter)
      | some datacenter => .ok datacenter

def replicas (topology : Topology) : List Replica :=
  topology.shards.toList.flatMap fun shard => shard.replicas.toList

def arbiters (topology : Topology) : List Arbiter :=
  topology.shards.toList.flatMap fun shard => shard.arbiters.toList

def hostedReplicas (topology : Topology) (node : StorageNodeId) : List ReplicaId :=
  (topology.replicas.filter fun replica => replica.storageNode = node).map Replica.id

def hostedArbiters (topology : Topology) (node : StorageNodeId) : List ArbiterId :=
  (topology.arbiters.filter fun arbiter => arbiter.storageNode = node).map Arbiter.id

/-! ## Changes -/

def addDatacenter (topology : Topology) (datacenter : Datacenter) : Topology :=
  { topology with datacenters := topology.datacenters.insert datacenter }

def addStorageNode (topology : Topology) (node : StorageNode) :
    Except TopologyError Topology :=
  if topology.datacenters.contains node.datacenter then
    .ok { topology with storageNodes := topology.storageNodes.insert node }
  else .error (.unknownDatacenter node.datacenter)

def putShard (topology : Topology) (shard : Shard) : Topology :=
  { topology with shards := topology.shards.insert shard }

/-- The shard of an id, made without members if it is new. -/
def addShard (topology : Topology) (id : ShardId) : Shard × Topology :=
  match topology.shard? id with
  | some shard => (shard, topology)
  | none => (Shard.fresh id, topology.putShard (Shard.fresh id))

def addReplica (topology : Topology) (shard : ShardId) (node : StorageNodeId) :
    Except TopologyError (ReplicaId × Topology) :=
  if topology.storageNodes.contains node then
    match topology.shard? shard with
    | none => .error (.unknownShard shard)
    | some found =>
        let added := found.addReplica node
        .ok (added.1, topology.putShard added.2)
  else .error (.unknownStorageNode node)

def addArbiter (topology : Topology) (shard : ShardId) (node : StorageNodeId) :
    Except TopologyError (ArbiterId × Topology) :=
  if topology.storageNodes.contains node then
    match topology.shard? shard with
    | none => .error (.unknownShard shard)
    | some found =>
        let added := found.addArbiter node
        .ok (added.1, topology.putShard added.2)
  else .error (.unknownStorageNode node)

def removeReplica (topology : Topology) (id : ReplicaId) :
    Except TopologyError (Replica × Topology) :=
  match topology.shard? id.shard with
  | none => .error (.unknownReplica id)
  | some shard =>
      match shard.replicas.find? id with
      | none => .error (.unknownReplica id)
      | some replica =>
          .ok (replica, topology.putShard { shard with replicas := shard.replicas.erase id })

end Topology

end ShardControl

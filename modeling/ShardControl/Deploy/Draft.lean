import ShardControl.Deploy.Error
import ShardControl.Parameters.Sizing

/-!
# Drafts of new replicas

A draft is worked out from one reading of topology and parameters alone: the
topology with the new replica, and the parameters to create it with.
-/

namespace ShardControl

/-- A topology that lists a replica, and the parameters of that replica. -/
structure Draft where
  topology : Topology
  params : ReplicaParams
  deriving DecidableEq

namespace Draft

/-- The draft of a replica that the topology lists; it has to have parameters. -/
def ofStored (topology : Topology) (replica : ReplicaId) : Option ReplicaParams →
    Except DeployError Draft
  | none => .error (.missingReplicaParams replica)
  | some params => .ok ⟨topology, params⟩

/-- The addresses of the members of a shard; each member has to have parameters. -/
def helpers (parameters : Parameters) : List Replica → Except DeployError (List String)
  | [] => .ok []
  | replica :: rest =>
      match parameters.replica? replica.id with
      | none => .error (.missingReplicaParams replica.id)
      | some params => (helpers parameters rest).map (params.hostPort :: ·)

/-- The size of a replica on a storage node, once the topology lists it. -/
def size (topology : Topology) (parameters : Parameters) (host : StorageNodeParams) :
    HeapAndCache :=
  host.heapAndCache parameters.policies (UInt64.ofNat (topology.hostedReplicas host.id).length)
    parameters.policies.replicaCachePercent
    (UInt64.ofNat (topology.hostedArbiters host.id).length)

/-- The parameters of a new replica; one without peers helps itself. -/
def newParams (topology : Topology) (parameters : Parameters) (host : StorageNodeParams)
    (id : ReplicaId) (node : StorageNodeId) (port : UInt16) (nodeType : NodeType)
    (peers : List String) (directory : Option StorageDirectory) : ReplicaParams :=
  let bare : ReplicaParams :=
    { id := id
      storageNode := node
      disabled := false
      haHostname := host.haHostname
      haPort := port
      helperHosts := ""
      directory := directory
      nodeType := nodeType
      heapMb := 0
      cacheBytes := 0
      cachePercent := 0
      gcThreads := host.gcThreads
      policies := parameters.policies.settings }
  let helped := if peers.isEmpty then bare.hostPort else ",".intercalate peers
  { bare with helperHosts := helped }.withSize (size topology parameters host)

/--
A new replica of a shard on a storage node.  Unless the datacenter makes it
electable, the shard has to have a member already.
-/
def ofNewReplica (topology : Topology) (parameters : Parameters) (shard : Shard)
    (node : StorageNodeId) (directory : Option StorageDirectory) : Except DeployError Draft := do
  let some host := parameters.storageNode? node
    | throw (.missingStorageNodeParams node)
  let datacenter ← (topology.datacenterOf node).mapError .topology
  let peers ← helpers parameters shard.replicas.toList
  if peers.isEmpty && !datacenter.replicaType.isElectable then
    throw (.notElectable shard.id node)
  let (id, grown) ← (topology.addReplica shard.id node).mapError .topology
  let (port, _) ← ((PortLedger.ofTopology grown parameters).next node).mapError .port
  return {
    topology := grown
    params :=
      newParams grown parameters host id node port datacenter.replicaType peers directory }

end Draft

end ShardControl

import ShardControl.Parameters.ParameterMap
import ShardControl.Topology.Basic

/-!
# Parameters

What a store knows about its nodes beside where they are: policies for the
whole store, the resources of each storage node, and the parameters that each
replica was made with.  Times are in milliseconds.
-/

namespace ShardControl

/-- Values that seed the parameters of every new node. -/
structure Policies where
  newNodeRetryTime : UInt64
  cleanupRetryDelay : UInt64
  replicaCachePercent : UInt32
  replicaHeapPercent : UInt32
  arbiterHeapMb : UInt64
  maxHeapMb : UInt64
  deriving DecidableEq

namespace Policies

def standard : Policies where
  newNodeRetryTime := 300000
  cleanupRetryDelay := 10000
  replicaCachePercent := 70
  replicaHeapPercent := 85
  arbiterHeapMb := 128
  maxHeapMb := 32767

instance : Inhabited Policies := ⟨standard⟩

def settings (policies : Policies) : ParameterMap :=
  ParameterMap.setAll ∅
    [("newNodeRetryTimeMs", Word.text64 policies.newNodeRetryTime),
     ("cleanupRetryDelayMs", Word.text64 policies.cleanupRetryDelay),
     ("cachePercent", Word.text32 policies.replicaCachePercent),
     ("heapPercent", Word.text32 policies.replicaHeapPercent)]

end Policies

/-- The ports from a first to a last one, both included. -/
structure PortRange where
  first : UInt16
  last : UInt16
  deriving DecidableEq

namespace PortRange

def contains (range : PortRange) (port : UInt16) : Bool :=
  decide (range.first ≤ port) && decide (port ≤ range.last)

def count (range : PortRange) : Nat := range.last.toNat + 1 - range.first.toNat

def ports (range : PortRange) : List UInt16 :=
  (List.range' range.first.toNat range.count).map UInt16.ofNat

end PortRange

/-- The resources of a storage node; no memory leaves sizing to the nodes it hosts. -/
structure StorageNodeParams where
  id : StorageNodeId
  haHostname : String
  haPorts : PortRange
  memoryMb : UInt64
  numCpus : UInt32
  capacity : UInt32
  deriving DecidableEq

instance : Keyed StorageNodeParams StorageNodeId := ⟨StorageNodeParams.id⟩

def StorageNodeParams.display (params : StorageNodeParams) : String :=
  params.id.text ++ "(" ++ params.haHostname ++ ")"

structure StorageDirectory where
  path : String
  size : UInt64
  deriving DecidableEq

/-- Everything an agent needs to create and start a replica. -/
structure ReplicaParams where
  id : ReplicaId
  storageNode : StorageNodeId
  disabled : Bool
  haHostname : String
  haPort : UInt16
  helperHosts : String
  directory : Option StorageDirectory
  nodeType : NodeType
  heapMb : UInt64
  cacheBytes : UInt64
  cachePercent : UInt32
  gcThreads : UInt32
  policies : ParameterMap
  deriving DecidableEq

instance : Keyed ReplicaParams ReplicaId := ⟨ReplicaParams.id⟩

namespace ReplicaParams

def hostPort (params : ReplicaParams) : String :=
  params.haHostname ++ ":" ++ Word.text16 params.haPort

def directorySettings : Option StorageDirectory → List (String × String)
  | some directory =>
      [("storageDirectory", directory.path),
       ("storageDirectorySize", Word.text64 directory.size)]
  | none => []

def sizeSettings (params : ReplicaParams) : List (String × String) :=
  (if params.heapMb = 0 then [] else [("heapMB", Word.text64 params.heapMb)]) ++
  (if params.cacheBytes = 0 then []
   else [("cacheSize", Word.text64 params.cacheBytes),
         ("cachePercent", Word.text32 params.cachePercent)]) ++
  (if params.gcThreads = 0 then [] else [("gcThreads", Word.text32 params.gcThreads)])

/-- The settings that the agent is given: the policies, then what is the replica's own. -/
def settings (params : ReplicaParams) : ParameterMap :=
  ParameterMap.setAll params.policies <|
    [("nodeId", params.id.text),
     ("storageNodeId", params.storageNode.text),
     ("disabled", if params.disabled then "true" else "false"),
     ("haHostname", params.haHostname),
     ("haPort", Word.text16 params.haPort),
     ("nodeHostPort", params.hostPort),
     ("helperHosts", params.helperHosts),
     ("nodeType", params.nodeType.text)] ++
    directorySettings params.directory ++ params.sizeSettings

end ReplicaParams

structure Parameters where
  policies : Policies
  storageNodes : KeyedMap StorageNodeParams
  replicas : KeyedMap ReplicaParams
  deriving DecidableEq

namespace Parameters

def ofPolicies (policies : Policies) : Parameters where
  policies := policies
  storageNodes := ∅
  replicas := ∅

instance : Inhabited Parameters := ⟨ofPolicies .standard⟩

def storageNode? (parameters : Parameters) (id : StorageNodeId) : Option StorageNodeParams :=
  parameters.storageNodes.find? id

def replica? (parameters : Parameters) (id : ReplicaId) : Option ReplicaParams :=
  parameters.replicas.find? id

def addStorageNode (parameters : Parameters) (params : StorageNodeParams) : Parameters :=
  { parameters with storageNodes := parameters.storageNodes.insert params }

def putReplica (parameters : Parameters) (params : ReplicaParams) : Parameters :=
  { parameters with replicas := parameters.replicas.insert params }

def removeReplica (parameters : Parameters) (id : ReplicaId) : Parameters :=
  { parameters with replicas := parameters.replicas.erase id }

end Parameters

end ShardControl

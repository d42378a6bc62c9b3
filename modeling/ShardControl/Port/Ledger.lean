import ShardControl.Parameters.Basic

/-!
# Port ledgers

A ledger notes for every storage node of a topology which ports of its range
are taken.  Ports are held by replicas and by nobody else: an arbiter has no
parameters, so it takes none.
-/

namespace ShardControl

inductive PortError where
  | exhausted (node : StorageNodeId) (range : PortRange)
  | unknownStorageNode (node : StorageNodeId)
  deriving DecidableEq

def PortError.message : PortError → String
  | exhausted node range =>
      "no free HA port left on " ++ node.text ++ " in range " ++ Word.text16 range.first ++ "-" ++
        Word.text16 range.last
  | unknownStorageNode node => "storage node " ++ node.text ++ " has no parameters"

instance : Keyed UInt16 UInt16 := ⟨id⟩

/-- The ports of one storage node; without parameters it has no range. -/
structure PortUse where
  node : StorageNodeId
  range : Option PortRange
  taken : KeyedMap UInt16

instance : Keyed PortUse StorageNodeId := ⟨PortUse.node⟩

namespace PortUse

def ofStorageNode (topology : Topology) (parameters : Parameters) (node : StorageNodeId) :
    PortUse where
  node := node
  range := (parameters.storageNode? node).map StorageNodeParams.haPorts
  taken :=
    KeyedMap.ofList <|
      ((topology.hostedReplicas node).filterMap parameters.replica?).map ReplicaParams.haPort

def lowestFree? (use : PortUse) (range : PortRange) : Option UInt16 :=
  range.ports.find? fun port => !use.taken.contains port

def take (use : PortUse) (port : UInt16) : PortUse :=
  { use with taken := use.taken.insert port }

end PortUse

abbrev PortLedger := KeyedMap PortUse

namespace PortLedger

def ofTopology (topology : Topology) (parameters : Parameters) : PortLedger :=
  KeyedMap.ofList <|
    topology.storageNodes.toList.map fun node => .ofStorageNode topology parameters node.id

/-- The ports taken on a storage node, in increasing order. -/
def taken (ledger : PortLedger) (node : StorageNodeId) : List UInt16 :=
  match ledger.find? node with
  | none => []
  | some use => use.taken.toList

/-- Give out the lowest free port of a storage node. -/
def next (ledger : PortLedger) (node : StorageNodeId) : Except PortError (UInt16 × PortLedger) :=
  match ledger.find? node with
  | none => .error (.unknownStorageNode node)
  | some use =>
      match use.range with
      | none => .error (.unknownStorageNode node)
      | some range =>
          match use.lowestFree? range with
          | none => .error (.exhausted node range)
          | some port => .ok (port, ledger.insert (use.take port))

end PortLedger

end ShardControl

import ShardControl.Deploy.Control

/-!
# Checking and repairing a location

A check compares where the metadata place a replica with what the storage node
reports, and names a remedy.  Remedies change the metadata through commits, so
a remedy that another planner overtook changes nothing.
-/

namespace ShardControl

/-- A program that ends early when a check fails. -/
abbrev Checking (α : Type) : Type := ExceptT CheckError (Program Control) α

namespace Checking

def askStore (call : StoreCall) : Checking call.Value :=
  ExceptT.mk do return (← Control.ask (.store call)).mapError .metadata

def log (event : Event) : Checking Unit := ExceptT.lift (Control.log event)

end Checking

def Topology.places (topology : Topology) (replica : ReplicaId) (node : StorageNodeId) : Bool :=
  match topology.replica? replica with
  | some found => found.storageNode = node
  | none => false

def ReplicaParams.isOn (params : Option ReplicaParams) (node : StorageNodeId) : Bool :=
  match params with
  | some found => found.storageNode = node
  | none => false

/-- The remedy for what the topology, the parameters and the storage node say. -/
def RemedyKind.choose (placed deployed : Bool) (params : Option ReplicaParams)
    (node : StorageNodeId) : RemedyKind :=
  if placed then
    if !deployed then .removeStrayMetadata
    else if params.isSome && !ReplicaParams.isOn params node then .repairParams
    else .noOp
  else if deployed then .markDisabled
  else if ReplicaParams.isOn params node then .removeStrayMetadata
  else .noOp

open Checking

def checkLocation (node : StorageNodeId) (replica : ReplicaId) : Checking Remedy := do
  let topology : Topology ← askStore .topology
  let params : Option ReplicaParams ← askStore (.replicaParams replica)
  let deployed ← ExceptT.mk (Control.ask (.isDeployed node replica))
  return ⟨node, replica, .choose (topology.places replica node) deployed params node⟩

namespace Remedy

def commit (remedy : Remedy) (update : Update) : Checking Bool :=
  ExceptT.mk do
    let answer : Except MetadataError UInt64 ← Control.ask (.store (.commit update))
    match answer with
    | .ok sequence =>
        Control.log (.remedyApplied remedy (some sequence))
        return .ok true
    | .error reason =>
        if reason.isConflict then
          Control.log (.remedyConflict remedy reason)
          return .ok false
        else return .error (.metadata reason)

/-- What to commit for a replica that the topology may place and parameters may describe. -/
def removal (remedy : Remedy) (topology : Topology) (placed stored : Bool) :
    Except TopologyError Update := do
  let cleared ←
    if placed then (topology.removeReplica remedy.node).map fun removed => some removed.2
    else .ok none
  return {
    expected := topology.sequence
    topology := cleared
    upserts := []
    removals := if stored then [remedy.node] else [] }

/-- Commit what takes the replica out of the topology and the parameters that were read. -/
def clear (remedy : Remedy) (topology : Topology) (params : Option ReplicaParams) :
    Checking Bool :=
  let placed := topology.places remedy.node remedy.storageNode
  if !placed && params.isNone then return true
  else
    match remedy.removal topology placed params.isSome with
    | .error reason => throw (.metadata (.topology reason))
    | .ok update => remedy.commit update

/-- Take the replica out of the metadata, as far as it is there. -/
def removeStray (remedy : Remedy) : Checking Bool := do
  let topology : Topology ← askStore .topology
  let params : Option ReplicaParams ← askStore (.replicaParams remedy.node)
  remedy.clear topology params

def repaired (parameters : Parameters) (current : ReplicaParams) (node : StorageNodeId) :
    ReplicaParams :=
  { current with
    storageNode := node
    haHostname := ((parameters.storageNode? node).map StorageNodeParams.haHostname).getD
      current.haHostname }

def align (remedy : Remedy) (topology : Topology) (parameters : Parameters) : Checking Bool :=
  match topology.replica? remedy.node, parameters.replica? remedy.node with
  | some placed, some current =>
      remedy.commit
        { expected := topology.sequence
          topology := none
          upserts := [repaired parameters current placed.storageNode]
          removals := [] }
  | _, _ => return false

def repairParams (remedy : Remedy) : Checking Bool := do
  let topology : Topology ← askStore .topology
  let parameters : Parameters ← askStore .parameters
  remedy.align topology parameters

def disable (remedy : Remedy) : Checking Bool := do
  ExceptT.mk (Control.ask (.disable remedy.storageNode remedy.node))
  log (.remedyApplied remedy none)
  return true

/-- Apply the remedy; the answer is whether it took effect. -/
def apply (remedy : Remedy) : Checking Bool :=
  match remedy.kind with
  | .noOp => return true
  | .removeStrayMetadata => remedy.removeStray
  | .repairParams => remedy.repairParams
  | .markDisabled => remedy.disable

end Remedy

end ShardControl

import ShardControl.Deploy.Control
import ShardControl.Deploy.Draft
import ShardControl.Retry.Loop

/-!
# Deployment of one replica

The task makes sure that a shard has a replica on a storage node.  The
metadata are committed before the storage node is contacted; a task that finds
the replica in the topology adopts it, so it can be run again after any
failure.
-/

namespace ShardControl

/-- The shard of a new replica: one that exists, or the one in a slot of the plan. -/
inductive ShardTarget where
  | existing (shard : ShardId)
  | slot (index : Nat)
  deriving DecidableEq

/-- A program that ends early when the deployment fails. -/
abbrev Deploying (α : Type) : Type := ExceptT DeployError (Program Control) α

structure DeployTask where
  key : TaskKey
  plan : Plan
  storageNode : StorageNodeId
  /-- The storage node with its address. -/
  host : String
  target : ShardTarget
  directory : Option StorageDirectory

namespace Deploying

def ask (call : ControlCall) : Deploying call.Answer := ExceptT.lift (Control.ask call)

def askStore (call : StoreCall) : Deploying call.Value :=
  ExceptT.mk do return (← Control.ask (.store call)).mapError .metadata

def log (event : Event) : Deploying Unit := ExceptT.lift (Control.log event)

end Deploying

namespace DeployTask

def make (key : TaskKey) (plan : Plan) (topology : Topology) (node : StorageNodeId)
    (target : ShardTarget) (directory : Option StorageDirectory) :
    Except DeployError DeployTask :=
  match topology.storageNode? node with
  | none => .error (.unknownStorageNode node)
  | some found =>
      .ok {
        key := key
        plan := plan
        storageNode := node
        host := found.descriptor
        target := target
        directory := directory }

def nameWith (task : DeployTask) (resolved : Option ReplicaId) : String :=
  let replica := match resolved with
    | some id => id.text ++ " "
    | none => ""
  "DeployNode " ++ replica ++ "on " ++ task.host

def name (task : DeployTask) : Program Control String := do
  let resolved : Option ReplicaId ← Control.ask (.resolved task.key)
  return task.nameWith resolved

open Deploying

def shard (task : DeployTask) : Deploying ShardId :=
  match task.target with
  | .existing shard => return shard
  | .slot index => do
      let noted : Option ShardId ← ask (.shard index)
      match noted with
      | none => throw (.unresolvedShard index)
      | some shard => return shard

def adopt (task : DeployTask) (topology : Topology) (replica : Replica) : Deploying Draft := do
  ask (.resolve task.key replica.id)
  log (.deployAdopt task.plan.number replica.id task.host)
  let stored : Option ReplicaParams ← askStore (.replicaParams replica.id)
  ExceptT.mk (pure (Draft.ofStored topology replica.id stored))

def create (task : DeployTask) (topology : Topology) (shard : Shard) : Deploying Draft := do
  let parameters : Parameters ← askStore .parameters
  let draft ←
    ExceptT.mk (pure (Draft.ofNewReplica topology parameters shard task.storageNode task.directory))
  let sequence : UInt64 ← askStore <| .commit
    { expected := topology.sequence
      topology := some draft.topology
      upserts := [draft.params]
      removals := [] }
  ask (.resolve task.key draft.params.id)
  log (.deployCommitted task.plan.number draft.params.id task.host draft.params.haPort sequence)
  return { draft with topology := draft.topology.withSequence sequence }

def adoptOrCreate (task : DeployTask) (topology : Topology) (id : ShardId) : Deploying Draft :=
  match topology.shard? id with
  | none => throw (.shardNotFound id)
  | some shard =>
      match shard.replicaOn task.storageNode with
      | some replica => task.adopt topology replica
      | none => task.create topology shard

/-- Find or commit the replica of the task, on one reading of the topology. -/
def prepare (task : DeployTask) : Deploying Draft := do
  let topology : Topology ← askStore .topology
  let id ← task.shard
  task.adoptOrCreate topology id

/-- Prepare again whenever another planner was faster, as often as the plan allows. -/
def preparation (task : DeployTask) :
    Repeated Control MetadataError (Except DeployError Draft) where
  pass := do
    match ← task.prepare.run with
    | .error (.metadata (.conflict expected actual)) => return .inl (.conflict expected actual)
    | other => return .inr other
  rest reason pause := do
    Control.log (.commitConflict task.plan.number (← task.name) pause reason)
    Control.ask (.rest pause)
    return none
  giveUp _ attempts := return .error (.commitConflict attempts)

def prepareWithRetry (task : DeployTask) : Deploying Draft :=
  ExceptT.mk (task.preparation.under task.plan.settings.commitRetries)

def announce (task : DeployTask) (draft : Draft) : Deploying TaskState :=
  match draft.topology.storageNode? task.storageNode with
  | none => throw (.unknownStorageNode task.storageNode)
  | some host => do
      ask (.register host.hostname host.registryPort (.replica draft.params.id))
      return .succeeded

def contact (task : DeployTask) (draft : Draft) : Deploying TaskState := do
  let found : Except RemoteError Unit ← ask (.findAgent draft.topology task.storageNode)
  ExceptT.mk (pure (found.mapError .ofRemote))
  let answer : Except RemoteError Bool ←
    ask (.createReplica task.storageNode draft.params.settings draft.topology)
  let created ← ExceptT.mk (pure (answer.mapError .ofRemote))
  log (.deployCreated task.plan.number draft.params.id task.host created)
  task.announce draft

/-- Prepare the replica before anybody else hears of it. -/
def deploy (task : DeployTask) : Deploying TaskState := do
  let draft ← task.prepareWithRetry
  task.contact draft

def execute (task : DeployTask) : Program Control (Except DeployError TaskState) := task.deploy.run

end DeployTask

end ShardControl

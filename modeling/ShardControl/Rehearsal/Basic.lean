import ShardControl.Deploy.Control
import ShardControl.Log.Report
import ShardControl.Store.Edit

/-!
# Rehearsals

A rehearsal is a surrounding in which plans can be run without storage nodes:
the store and the monitor are the real ones, agents and inspectors answer from
scripts, and every call and event is kept.  A script that has run out answers
that all is well.
-/

namespace ShardControl

/-- What happens to a commit on its way to the store. -/
inductive CommitCue where
  | pass
  /-- The commit is answered as if another planner had been faster. -/
  | conflict
  | fail (reason : MetadataError)
  /-- Another planner commits edits first. -/
  | intrude (edits : List Edit)

structure Creation where
  storageNode : StorageNodeId
  settings : ParameterMap
  topology : Topology

def Creation.hosted (creation : Creation) : List ReplicaId :=
  creation.topology.hostedReplicas creation.storageNode

structure Resolution where
  task : TaskKey
  replica : ReplicaId

instance : Keyed Resolution TaskKey := ⟨Resolution.task⟩

structure Location where
  storageNode : StorageNodeId
  replica : ReplicaId
  deriving DecidableEq

/-- The cues that are still to come, by the part of the surroundings that they concern. -/
structure Script where
  commits : List CommitCue
  topologyReads : List (Option MetadataError)
  parameterReads : List (Option MetadataError)
  replicaReads : List (Option MetadataError)
  resolutions : List (Option RemoteError)
  creations : List (Except RemoteError Bool)
  inspections : List (Option CheckError)
  disablings : List (Option CheckError)

def Script.smooth : Script where
  commits := []
  topologyReads := []
  parameterReads := []
  replicaReads := []
  resolutions := []
  creations := []
  inspections := []
  disablings := []

structure Rehearsal where
  store : Store
  monitor : Monitor
  shards : ShardSlots
  cancelled : Bool
  resolved : KeyedMap Resolution
  script : Script
  deployed : List Location
  disabled : List Location
  creations : List Creation
  clock : Nat
  /-- What was reported, the last event first. -/
  reported : List Event

namespace Rehearsal

def start (store : Store) (monitor : Monitor) : Rehearsal where
  store := store
  monitor := monitor
  shards := .empty
  cancelled := false
  resolved := ∅
  script := .smooth
  deployed := []
  disabled := []
  creations := []
  clock := 0
  reported := []

/-- Everything that was reported, the first event first. -/
def events (rehearsal : Rehearsal) : List Event := rehearsal.reported.reverse

def log (rehearsal : Rehearsal) (event : Event) : Rehearsal :=
  { rehearsal with reported := event :: rehearsal.reported }

def logAll (rehearsal : Rehearsal) (events : List Event) : Rehearsal :=
  events.foldl log rehearsal

/-- Note whether a replica is deployed; the answer is whether that is news. -/
def setDeployed (rehearsal : Rehearsal) (location : Location) (present : Bool) :
    Bool × Rehearsal :=
  let before := rehearsal.deployed.contains location
  let others := rehearsal.deployed.filter fun other => other ≠ location
  (before != present,
   { rehearsal with deployed := if present then others ++ [location] else others })

/-- Hand over the creations that were asked for since the last time. -/
def takeCreations (rehearsal : Rehearsal) : List Creation × Rehearsal :=
  (rehearsal.creations, { rehearsal with creations := [] })

def setResolved (rehearsal : Rehearsal) (task : TaskKey) : Option ReplicaId → Rehearsal
  | some replica => { rehearsal with resolved := rehearsal.resolved.insert ⟨task, replica⟩ }
  | none => { rehearsal with resolved := rehearsal.resolved.erase task }

def resolved? (rehearsal : Rehearsal) (task : TaskKey) : Option ReplicaId :=
  (rehearsal.resolved.find? task).map Resolution.replica

end Rehearsal

end ShardControl

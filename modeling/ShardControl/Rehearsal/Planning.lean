import ShardControl.Deploy.Runner
import ShardControl.Rehearsal.Operations

/-!
# Rehearsals of plans

A plan in rehearsal keeps the tasks that were made for it under names of their
own.  A task that fails starts its cleanup job, which is run to its end before
anything else happens.
-/

namespace ShardControl

structure TaskReport where
  outcome : TaskOutcome
  /-- How the cleanup job ended that was started. -/
  cleanup : Option CleanupOutcome
  /-- The name of the task after its run. -/
  name : String

/-- The answer of a program that changes nothing. -/
def Rehearsal.look {α : Type} (rehearsal : Rehearsal) (program : Program Control α) : α :=
  (rehearsal.run program).1

/-- Run a task, and then the cleanup job that it started. -/
def Rehearsal.runTask (rehearsal : Rehearsal) (plan : Plan) (task : Task) :
    TaskReport × Rehearsal :=
  let (outcome, ran) := rehearsal.run (plan.run task)
  match outcome.cleanup with
  | none => (⟨outcome, none, ran.look task.name⟩, ran)
  | some job =>
      let (cleaned, after) := ran.run job.inPlan
      (⟨outcome, some cleaned, after.look task.name⟩, after)

/-- A task whose end is fixed beforehand. -/
structure ScriptedTask where
  name : String
  result : Except DeployError TaskState
  /-- Whether it cancels its plan while it is executed. -/
  cancels : Bool
  /-- The storage node to clean up, and the replica that the task resolved to. -/
  cleanup : Option (StorageNodeId × Option ReplicaId)

def ScriptedTask.toTask (task : ScriptedTask) (plan : Plan) (key : TaskKey) : Task where
  name := return task.name
  execute := do
    if task.cancels then plan.cancel
    return task.result
  cleanup := return task.cleanup.map fun place =>
    { task := task.name
      key := key
      storageNode := place.1
      retries := plan.settings.cleanupRetries }
  goesOnAfterError := false

structure NamedTask where
  name : String
  task : DeployTask

instance : Keyed NamedTask String := ⟨NamedTask.name⟩

structure PlanRehearsal where
  plan : Plan
  surroundings : Rehearsal
  tasks : KeyedMap NamedTask
  /-- The key of the task that is made next. -/
  nextKey : TaskKey

namespace PlanRehearsal

def start (plan : Plan) (surroundings : Rehearsal) : PlanRehearsal where
  plan := plan
  surroundings := surroundings
  tasks := ∅
  nextKey := 0

def task? (rehearsal : PlanRehearsal) (name : String) : Option DeployTask :=
  (rehearsal.tasks.find? name).map NamedTask.task

def run {α : Type} (rehearsal : PlanRehearsal) (program : Program Control α) :
    α × PlanRehearsal :=
  let (answer, after) := rehearsal.surroundings.run program
  (answer, { rehearsal with surroundings := after })

/-- Make a task on a storage node of the present topology, and keep it under a name. -/
def addTask (rehearsal : PlanRehearsal) (name : String) (node : StorageNodeId)
    (target : ShardTarget) (directory : Option StorageDirectory) :
    Except DeployError DeployTask × PlanRehearsal :=
  match DeployTask.make rehearsal.nextKey rehearsal.plan rehearsal.surroundings.store.topology
      node target directory with
  | .error reason => (.error reason, rehearsal)
  | .ok task =>
      (.ok task,
       { rehearsal with
         tasks := rehearsal.tasks.insert ⟨name, task⟩
         nextKey := rehearsal.nextKey + 1 })

def runTask (rehearsal : PlanRehearsal) (task : DeployTask) : TaskReport × PlanRehearsal :=
  let (report, after) := rehearsal.surroundings.runTask rehearsal.plan task.toTask
  (report, { rehearsal with surroundings := after })

/-- Run a scripted task, whose replica is resolved from the start. -/
def runScripted (rehearsal : PlanRehearsal) (task : ScriptedTask) : TaskReport × PlanRehearsal :=
  let key := rehearsal.nextKey
  let resolved := rehearsal.surroundings.setResolved key (task.cleanup.bind Prod.snd)
  let (report, after) := resolved.runTask rehearsal.plan (task.toTask rehearsal.plan key)
  (report, { rehearsal with surroundings := after, nextKey := key + 1 })

def cleanUp (rehearsal : PlanRehearsal) (task : DeployTask) : CleanupOutcome × PlanRehearsal :=
  rehearsal.run (task.cleanup >>= CleanupJob.inPlan)

end PlanRehearsal

end ShardControl

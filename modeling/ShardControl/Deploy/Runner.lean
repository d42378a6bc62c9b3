import ShardControl.Deploy.Task
import ShardControl.Repair.Cleanup

/-!
# Running tasks

The runner executes a task of a plan unless the plan is cancelled.  After a
failure it has a thread run the task's cleanup job or cancels the plan, as the
error says.
-/

namespace ShardControl

structure Task where
  name : Program Control String
  execute : Program Control (Except DeployError TaskState)
  /-- The job to start when the task fails. -/
  cleanup : Program Control (Option CleanupJob)
  goesOnAfterError : Bool

def DeployTask.cleanup (task : DeployTask) : Program Control CleanupJob := do
  return {
    task := ← task.name
    key := task.key
    storageNode := task.storageNode
    retries := task.plan.settings.cleanupRetries }

def DeployTask.toTask (task : DeployTask) : Task where
  name := task.name
  execute := task.execute
  cleanup := some <$> task.cleanup
  goesOnAfterError := false

structure TaskOutcome where
  state : TaskState
  error : Option DeployError
  /-- The cleanup job that was started. -/
  cleanup : Option CleanupJob

namespace TaskOutcome

def finished (state : TaskState) : TaskOutcome := ⟨state, none, none⟩

/-- Whether nothing more of the plan may be scheduled. -/
def isFatal (outcome : TaskOutcome) : Bool :=
  match outcome.error with
  | some reason => reason.policy.isFatal
  | none => false

end TaskOutcome

namespace Plan

def isCancelled : Program Control Bool := Control.ask .isCancelled

/-- Cancel the plan; its cleanup jobs stop at their next look. -/
def cancel (plan : Plan) : Program Control Unit := do
  Control.log (.planCancel plan.number)
  Control.ask .cancel

/-- Start a cleanup job that was offered; one that cannot be started is given up. -/
def startCleanup (plan : Plan) (name : String) :
    Option CleanupJob → Program Control (Option CleanupJob)
  | none => return none
  | some job => do
      let started : Except String Unit ← Control.ask (.spawn job.thread job)
      match started with
      | .ok () => return some job
      | .error reason =>
          Control.log (.cleanupSpawnFailed plan.number name reason)
          return none

def follow (plan : Plan) (task : Task) (name : String) (reason : DeployError) :
    Program Control TaskOutcome := do
  Control.log (.taskFailed plan.number (← task.name) task.goesOnAfterError reason)
  let state := if ← isCancelled then .interrupted else .error
  match reason.policy with
  | .planCancel =>
      plan.cancel
      return ⟨state, some reason, none⟩
  | .runCleanup | .noCleanupJobs =>
      return ⟨state, some reason, ← plan.startCleanup name (← task.cleanup)⟩

def run (plan : Plan) (task : Task) : Program Control TaskOutcome := do
  let name ← task.name
  if ← isCancelled then
    Control.log (.taskSkipped plan.number name)
    return .finished .interrupted
  else
    let started : Nat ← Control.ask (.clock .now)
    Control.log (.taskStart plan.number name)
    match ← task.execute with
    | .ok state =>
        let name ← task.name
        let ended : Nat ← Control.ask (.clock .now)
        Control.log (.taskEnd plan.number name state (ended - started))
        return .finished state
    | .error reason => plan.follow task name reason

end Plan

end ShardControl

import ShardControl.Repair.Check
import ShardControl.Retry.Loop

/-!
# Cleanup jobs

A cleanup job follows up a deployment that failed on its way.  It checks the
replica and applies the remedy again and again until one takes effect, an
error occurs, the time is over or the plan is cancelled.
-/

namespace ShardControl

inductive CleanupOutcome where
  | completed
  | timedOut (attempts : Nat)
  | interrupted
  | failed (reason : String)
  deriving DecidableEq

inductive CleanupCall where
  /-- The replica to clean up after, if the deployment came to one. -/
  | resolved
  | isCancelled
  | clock (call : ClockCall)
  | sleep (pause : Nat)
  | check (node : StorageNodeId) (replica : ReplicaId)
  | apply (remedy : Remedy)
  | log (event : Event)

def CleanupCall.Answer : CleanupCall → Type
  | resolved => Option ReplicaId
  | isCancelled => Bool
  | clock call => call.Answer
  | sleep _ => Bool
  | check .. => Except CheckError Remedy
  | apply _ => Except CheckError Bool
  | log _ => Unit

def Cleanup : Interface where
  Call := CleanupCall
  Answer := CleanupCall.Answer

namespace Cleanup

def ask (call : CleanupCall) : Program Cleanup call.Answer := Program.ask (I := Cleanup) call

instance : Clocked Cleanup where
  clock call := ask (.clock call)

def log (event : Event) : Program Cleanup Unit := ask (.log event)

end Cleanup

namespace CleanupJob

open Cleanup

def attempt (job : CleanupJob) (replica : ReplicaId) :
    Program Cleanup (Except CheckError Bool) := do
  let checked : Except CheckError Remedy ← ask (.check job.storageNode replica)
  match checked with
  | .error reason => return .error reason
  | .ok remedy =>
      log (.cleanupRemedy job.task { remedy with node := replica, storageNode := job.storageNode })
      ask (.apply remedy)

/-- End the job because the plan is cancelled. -/
def interrupt (job : CleanupJob) (replica : ReplicaId) : Program Cleanup CleanupOutcome := do
  log (.cleanupInterrupted job.task replica)
  return .interrupted

/-- Attempts to repair one replica, until one of them settles it. -/
def repair (job : CleanupJob) (replica : ReplicaId) : Repeated Cleanup Unit CleanupOutcome where
  pass := do
    let cancelled : Bool ← ask .isCancelled
    if cancelled then return .inr (← job.interrupt replica)
    else
      match ← job.attempt replica with
      | .ok true =>
          log (.cleanupDone job.task replica)
          return .inr .completed
      | .ok false => return .inl ()
      | .error reason =>
          log (.cleanupFailed job.task replica reason)
          return .inr (.failed reason.message)
  rest _ pause := do
    let cancelled : Bool ← ask (.sleep pause)
    if cancelled then return some (← job.interrupt replica) else return none
  giveUp _ attempts := do
    log (.cleanupTimeout job.task replica attempts)
    return .timedOut attempts

/-- Run the job; without a replica there is nothing to do. -/
def run (job : CleanupJob) : Program Cleanup CleanupOutcome := do
  let resolved : Option ReplicaId ← ask .resolved
  match resolved with
  | none =>
      log (.cleanupNoop job.task)
      return .completed
  | some replica => (job.repair replica).under job.retries

def meaning (job : CleanupJob) : (call : CleanupCall) → Program Control call.Answer
  | .resolved => Control.ask (.resolved job.key)
  | .isCancelled => Control.ask .isCancelled
  | .clock call => Control.ask (.clock call)
  | .sleep pause => Control.ask (.sleep pause)
  | .check node replica => (checkLocation node replica).run
  | .apply remedy => remedy.apply.run
  | .log event => Control.log event

/-- The job within a plan: its checks are made on the metadata store. -/
def inPlan (job : CleanupJob) : Program Control CleanupOutcome := job.run.interpret job.meaning

end CleanupJob

end ShardControl

import ShardControl.Parameters.Basic
import ShardControl.Retry.Policy

/-!
# Deployment plans

A plan has a number and settings that its tasks share.  It keeps slots for the
shards that it is going to create.
-/

namespace ShardControl

/-- How long and how often the tasks of a plan try; times are in milliseconds. -/
structure DeploySettings where
  newNodeRetryTime : UInt64
  cleanupRetryDelay : UInt64
  commitAttempts : Nat
  deriving DecidableEq

namespace DeploySettings

def standardCommitAttempts : Nat := 3

def standard : DeploySettings where
  newNodeRetryTime := Policies.standard.newNodeRetryTime
  cleanupRetryDelay := Policies.standard.cleanupRetryDelay
  commitAttempts := standardCommitAttempts

/-- The settings that policies imply; a commit is attempted at least once. -/
def ofPolicies (policies : Policies) (commitAttempts : Nat) : DeploySettings where
  newNodeRetryTime := policies.newNodeRetryTime
  cleanupRetryDelay := policies.cleanupRetryDelay
  commitAttempts := max commitAttempts 1

def conflictPause : Nat := ofMillis 50

/-- Cleanup jobs try until the time for a new node is over. -/
def cleanupRetries (settings : DeploySettings) : RetryPolicy :=
  .untilDeadline (ofMillis settings.cleanupRetryDelay.toNat)
    (ofMillis settings.newNodeRetryTime.toNat)

/-- Commits are tried a number of times, with pauses that keep planners apart. -/
def commitRetries (settings : DeploySettings) : RetryPolicy :=
  (RetryPolicy.fixed settings.commitAttempts conflictPause).withJitter (1 / 2)

end DeploySettings

/-- The shards that a plan has created or will create, by slot. -/
structure ShardSlots where
  slots : List (Option ShardId)
  deriving DecidableEq

namespace ShardSlots

def empty : ShardSlots := ⟨[]⟩

def reserve (shards : ShardSlots) : Nat × ShardSlots :=
  (shards.slots.length, ⟨shards.slots ++ [none]⟩)

/-- Note the shard of a slot; the slots before it are reserved as well. -/
def record (shards : ShardSlots) (slot : Nat) (shard : ShardId) : ShardSlots :=
  ⟨(shards.slots ++ List.replicate (slot + 1 - shards.slots.length) none).set slot (some shard)⟩

def shard? (shards : ShardSlots) (slot : Nat) : Option ShardId := shards.slots[slot]?.join

end ShardSlots

structure Plan where
  number : UInt64
  settings : DeploySettings
  deriving DecidableEq

inductive TaskState where
  | succeeded
  | error
  | interrupted
  deriving DecidableEq

namespace TaskState

def text : TaskState → String
  | succeeded => "SUCCEEDED"
  | error => "ERROR"
  | interrupted => "INTERRUPTED"

def ofText? (text : String) : Option TaskState :=
  [succeeded, error, interrupted].find? fun state => state.text = text

end TaskState

end ShardControl

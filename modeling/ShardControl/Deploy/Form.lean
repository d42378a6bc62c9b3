import ShardControl.Document.Form
import ShardControl.Deploy.Runner

/-!
# Written forms of plans

The settings of a plan are written with the retry policies that they imply,
and the end of a cleanup job with its cause.
-/

namespace ShardControl

open Json

instance : JsonOutput DeploySettings where
  toJson settings :=
    .record
      [("new_node_retry_time_ms", toJson settings.newNodeRetryTime),
       ("cleanup_retry_delay_ms", toJson settings.cleanupRetryDelay),
       ("commit_attempts", toJson settings.commitAttempts),
       ("cleanup_max_attempts", toJson settings.cleanupRetries.maxAttempts),
       ("cleanup_budget_ms", toJson (settings.cleanupRetries.budget.map toMillis)),
       ("commit_max_attempts", toJson settings.commitRetries.maxAttempts),
       ("commit_budget_ms", toJson (settings.commitRetries.budget.map toMillis))]

/-- Settings are read with the standard ones in the place of those that are missing. -/
instance : JsonInput DeploySettings where
  ofJson? value := return {
    newNodeRetryTime :=
      ← value.readOr "retry_time_ms" DeploySettings.standard.newNodeRetryTime
    cleanupRetryDelay :=
      ← value.readOr "retry_delay_ms" DeploySettings.standard.cleanupRetryDelay
    commitAttempts := ← value.readOr "commit_attempts" DeploySettings.standard.commitAttempts }

instance : JsonForm RemedyKind where
  toJson kind := .text kind.text
  ofJson? value := (choice? value).bind RemedyKind.ofText?

instance : JsonForm TaskState where
  toJson state := .text state.text
  ofJson? value := (choice? value).bind TaskState.ofText?

instance : JsonOutput CleanupOutcome where
  toJson
    | .completed => .record [("outcome", .text "completed")]
    | .timedOut attempts => .record [("outcome", .text "timed_out"), ("attempts", .nat attempts)]
    | .interrupted => .record [("outcome", .text "interrupted")]
    | .failed reason => .record [("outcome", .text "failed"), ("reason", .text reason)]

/-- A target is the slot of a plan, or else an existing shard. -/
instance : JsonInput ShardTarget where
  ofJson? value := do
    match ← (value.read? "slot" : Option (Option Nat)) with
    | some slot => return .slot slot
    | none => return .existing (← value.read? "shard")

/-- A number of attempts makes a fixed policy, a budget one with a deadline. -/
instance : JsonInput RetryPolicy where
  ofJson? value := do
    let delay := ofMillis (← value.read? "delay_ms")
    match ← (value.read? "budget_ms" : Option (Option Nat)) with
    | some budget => return .untilDeadline delay (ofMillis budget)
    | none => return .fixed (← value.read? "max_attempts") delay

end ShardControl

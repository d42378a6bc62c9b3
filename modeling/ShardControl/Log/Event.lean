import ShardControl.Deploy.Error
import ShardControl.Deploy.Plan
import ShardControl.Fault.Shutdown
import ShardControl.Log.Level
import ShardControl.Repair.Basic

/-!
# Log events

Everything that the control plane reports to its log, each event with its
level, the part of the program it comes from, and its text.
-/

namespace ShardControl

inductive Event where
  | metadataCommit (sequence : UInt64) (upserts removals : Nat)
  | metadataImport (sequence previous : UInt64)
  | metadataPersist (path : String)
  | metadataLoaded (path : String) (sequence : UInt64)
  | controlPlaneStart (config : String) (mode : ShutdownMode)
  | deployAdopt (plan : UInt64) (node : ReplicaId) (host : String)
  | deployCommitted (plan : UInt64) (node : ReplicaId) (host : String) (port : UInt16)
      (sequence : UInt64)
  | deployCreated (plan : UInt64) (node : ReplicaId) (host : String) (created : Bool)
  | commitConflict (plan : UInt64) (task : String) (pause : Nat) (reason : MetadataError)
  | cleanupNoop (task : String)
  | cleanupInterrupted (task : String) (node : ReplicaId)
  | cleanupDone (task : String) (node : ReplicaId)
  | cleanupRemedy (task : String) (remedy : Remedy)
  | cleanupFailed (task : String) (node : ReplicaId) (reason : CheckError)
  | cleanupTimeout (task : String) (node : ReplicaId) (attempts : Nat)
  | planCancel (plan : UInt64)
  | taskSkipped (plan : UInt64) (task : String)
  | taskStart (plan : UInt64) (task : String)
  | taskEnd (plan : UInt64) (task : String) (state : TaskState) (elapsed : Nat)
  | taskFailed (plan : UInt64) (task : String) (goesOn : Bool) (reason : DeployError)
  | cleanupSpawnFailed (plan : UInt64) (task error : String)
  | remedyApplied (remedy : Remedy) (sequence : Option UInt64)
  | remedyConflict (remedy : Remedy) (reason : MetadataError)
  | agentRegistered (resource : ResourceId) (host : String) (port : UInt16) (registered : Nat)
  | repositoryPruned (resource : Option ResourceId) (pruned statusChanges : Nat)
  | serviceStatus (resource : ResourceId) (source target : ServiceStatus)
  | operationFailed (operation : String) (fault : ServiceFault)
  | faultShutdown (operation : String) (policy : ExitPolicy) (fault : ServiceFault)
  | shutdownSpawnFailed (service error : String)

namespace Event

def level : Event → LogLevel
  | metadataPersist _ | repositoryPruned .. => .debug
  | commitConflict .. | cleanupTimeout .. | cleanupSpawnFailed .. | remedyConflict ..
  | operationFailed .. | shutdownSpawnFailed .. => .warn
  | cleanupFailed .. | taskFailed .. | faultShutdown .. => .error
  | _ => .info

def target : Event → String
  | metadataLoaded .. | controlPlaneStart .. => "kvplane::runtime"
  | metadataCommit .. | metadataImport .. | metadataPersist _ => "kvplane::control_plane::store"
  | deployAdopt .. | deployCommitted .. | deployCreated .. | commitConflict .. =>
      "kvplane::control_plane::deploy"
  | cleanupNoop _ | cleanupInterrupted .. | cleanupDone .. | cleanupRemedy .. | cleanupFailed ..
  | cleanupTimeout .. => "kvplane::control_plane::cleanup"
  | planCancel _ => "kvplane::control_plane::plan"
  | taskSkipped .. | taskStart .. | taskEnd .. | taskFailed .. | cleanupSpawnFailed .. =>
      "kvplane::control_plane::runner"
  | remedyApplied .. | remedyConflict .. => "kvplane::control_plane::topology_check"
  | agentRegistered .. => "kvplane::monitor::registry"
  | repositoryPruned .. => "kvplane::monitor::repository"
  | serviceStatus .. => "kvplane::monitor::service"
  | operationFailed .. | faultShutdown .. => "kvplane::fault::handler"
  | shutdownSpawnFailed .. => "kvplane::fault::shutdown"

def flag (value : Bool) : String := if value then "true" else "false"

def fields : Event → String × List (String × String)
  | metadataCommit sequence upserts removals =>
      ("metadata_commit",
       [("sequence", Word.text64 sequence), ("upserts", Decimal.text upserts),
        ("removals", Decimal.text removals)])
  | metadataImport sequence previous =>
      ("metadata_import",
       [("sequence", Word.text64 sequence), ("previous", Word.text64 previous)])
  | metadataPersist path => ("metadata_persist", [("path", path)])
  | metadataLoaded path sequence =>
      ("metadata_loaded", [("path", path), ("sequence", Word.text64 sequence)])
  | controlPlaneStart config mode =>
      ("control_plane_start", [("config", config), ("shutdown_mode", mode.label)])
  | deployAdopt plan node host =>
      ("deploy_node_adopt", [("plan", Word.text64 plan), ("node", node.text), ("sn", host)])
  | deployCommitted plan node host port sequence =>
      ("deploy_node_committed",
       [("plan", Word.text64 plan), ("node", node.text), ("sn", host),
        ("ha_port", Word.text16 port), ("sequence", Word.text64 sequence)])
  | deployCreated plan node host created =>
      ("deploy_node_created",
       [("plan", Word.text64 plan), ("node", node.text), ("sn", host), ("created", flag created)])
  | commitConflict plan task pause reason =>
      ("deploy_commit_conflict",
       [("plan", Word.text64 plan), ("task", task), ("retry_in_ms", Decimal.text (toMillis pause)),
        ("error", reason.message)])
  | cleanupNoop task => ("deploy_cleanup_noop", [("task", task)])
  | cleanupInterrupted task node =>
      ("deploy_cleanup_interrupted", [("task", task), ("node", node.text)])
  | cleanupDone task node => ("deploy_cleanup_done", [("task", task), ("node", node.text)])
  | cleanupRemedy task remedy =>
      ("deploy_cleanup_remedy",
       [("task", task), ("node", remedy.node.text), ("sn", remedy.storageNode.text),
        ("remedy", remedy.kind.text)])
  | cleanupFailed task node reason =>
      ("deploy_cleanup_failed",
       [("task", task), ("node", node.text), ("error", reason.message)])
  | cleanupTimeout task node attempts =>
      ("deploy_cleanup_timeout",
       [("task", task), ("node", node.text), ("attempts", Decimal.text attempts)])
  | planCancel plan => ("plan_cancel", [("plan", Word.text64 plan)])
  | taskSkipped plan task =>
      ("task_skipped", [("plan", Word.text64 plan), ("task", task), ("reason", "cancelled")])
  | taskStart plan task => ("task_start", [("plan", Word.text64 plan), ("task", task)])
  | taskEnd plan task state elapsed =>
      ("task_end",
       [("plan", Word.text64 plan), ("task", task), ("state", state.text),
        ("elapsed_ms", Decimal.text (toMillis elapsed))])
  | taskFailed plan task goesOn reason =>
      ("task_failed",
       [("plan", Word.text64 plan), ("task", task), ("policy", reason.policy.label),
        ("continue", flag goesOn), ("error", reason.message)])
  | cleanupSpawnFailed plan task error =>
      ("cleanup_spawn_failed", [("plan", Word.text64 plan), ("task", task), ("error", error)])
  | remedyApplied remedy sequence =>
      ("topology_remedy_applied",
       [("node", remedy.node.text), ("sn", remedy.storageNode.text),
        ("remedy", remedy.kind.text)] ++
        (sequence.map fun value => ("sequence", Word.text64 value)).toList)
  | remedyConflict remedy reason =>
      ("topology_remedy_conflict",
       [("node", remedy.node.text), ("sn", remedy.storageNode.text), ("remedy", remedy.kind.text),
        ("error", reason.message)])
  | agentRegistered resource host port registered =>
      ("monitor_register_agent",
       [("resource", resource.text), ("host", host), ("port", Word.text16 port),
        ("registered", Decimal.text registered)])
  | repositoryPruned resource pruned statusChanges =>
      ("monitor_repository_pruned",
       [("resource", (resource.map ResourceId.text).getD "detached"),
        ("pruned", Decimal.text pruned), ("status_changes", Decimal.text statusChanges)])
  | serviceStatus resource source target =>
      ("service_status",
       [("resource", resource.text), ("from", source.text), ("to", target.text)])
  | operationFailed operation fault =>
      ("service_operation_failed",
       [("operation", operation), ("kind", fault.kind), ("fault", fault.text)])
  | faultShutdown operation policy fault =>
      ("service_fault_shutdown",
       [("operation", operation), ("kind", fault.kind), ("policy", policy.label),
        ("fault", fault.text)])
  | shutdownSpawnFailed service error =>
      ("shutdown_thread_spawn_failed", [("service", service), ("error", error)])

/-- The text of an event: its name and its fields, set apart by spaces. -/
def text (event : Event) : String :=
  let (name, listed) := event.fields
  String.join (("event=" ++ name) :: listed.map fun field => " " ++ field.1 ++ "=" ++ field.2)

end Event

end ShardControl

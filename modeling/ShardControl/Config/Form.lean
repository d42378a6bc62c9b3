import ShardControl.Config.Basic
import ShardControl.Fault.Form

/-!
# Written forms of configurations

A configuration is written in its sections, with every default filled in.
-/

namespace ShardControl

instance : JsonOutput Config where
  toJson config :=
    .record
      [("monitor", .record [("repository_capacity", toJson config.repositoryCapacity)]),
       ("deploy", .record
         [("new_node_retry_time_ms", toJson config.newNodeRetryTime),
          ("cleanup_retry_delay_ms", toJson config.cleanupRetryDelay),
          ("commit_attempts", toJson config.commitAttempts)]),
       ("fault", .record
         [("default_exit_policy", toJson config.defaultExitPolicy),
          ("shutdown_mode", toJson config.shutdownMode)]),
       ("logging", .record [("filter", toJson config.logFilter)]),
       ("metadata", .record [("document_path", toJson config.documentPath)])]

end ShardControl

import ShardControl.Deploy.Plan
import ShardControl.Fault.Shutdown
import ShardControl.Telemetry.Repository

/-!
# Configuration

The settings of a control plane, each with a default, and which of them are
acceptable.
-/

namespace ShardControl

inductive ConfigError where
  | unreadable (path : String)
  | malformed
  | invalid (reason : String)
  deriving DecidableEq

def ConfigError.message : ConfigError → String
  | unreadable path => "failed to read config " ++ path
  | malformed => "failed to parse config"
  | invalid reason => "invalid config: " ++ reason

/-- The settings of a control plane; times are in milliseconds. -/
structure Config where
  repositoryCapacity : UInt64
  newNodeRetryTime : UInt64
  cleanupRetryDelay : UInt64
  commitAttempts : UInt64
  defaultExitPolicy : ExitPolicy
  shutdownMode : ShutdownMode
  logFilter : String
  documentPath : Option String
  deriving DecidableEq

namespace Config

def standardLogFilter : String := "info"

def standard : Config where
  repositoryCapacity := UInt64.ofNat Repository.defaultCapacity
  newNodeRetryTime := Policies.standard.newNodeRetryTime
  cleanupRetryDelay := Policies.standard.cleanupRetryDelay
  commitAttempts := UInt64.ofNat DeploySettings.standardCommitAttempts
  defaultExitPolicy := .restart
  shutdownMode := .process
  logFilter := standardLogFilter
  documentPath := none

instance : Inhabited Config := ⟨standard⟩

/-- Whether a configuration can be used: nothing can be kept or attempted zero times. -/
def validate (config : Config) : Except ConfigError Unit :=
  if config.repositoryCapacity = 0 then
    .error (.invalid "monitor.repository_capacity must be greater than zero")
  else if config.commitAttempts = 0 then
    .error (.invalid "deploy.commit_attempts must be greater than zero")
  else .ok ()

def policies (config : Config) : Policies :=
  { Policies.standard with
    newNodeRetryTime := config.newNodeRetryTime
    cleanupRetryDelay := config.cleanupRetryDelay }

def deploySettings (config : Config) : DeploySettings :=
  .ofPolicies config.policies config.commitAttempts.toNat

end Config

end ShardControl

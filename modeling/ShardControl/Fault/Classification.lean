import ShardControl.Fault.Basic
import ShardControl.Service.Status

/-!
# Classification of faults

Every fault has a surfaced form and an exit policy.  A fault raised while a
query runs is classified as its cause.
-/

namespace ShardControl

inductive ExitPolicy where
  | none
  | noRestart
  | restart
  deriving DecidableEq

namespace ExitPolicy

def exitCode : ExitPolicy → Option Nat
  | none => .none
  | noRestart => some 1
  | restart => some 200

def requiresShutdown : ExitPolicy → Bool
  | none => false
  | noRestart | restart => true

def exitStatus : ExitPolicy → Option ServiceStatus
  | none => .none
  | noRestart => some .errorNoRestart
  | restart => some .errorRestarting

/-- The policy in configurations. -/
def name : ExitPolicy → String
  | none => "none"
  | noRestart => "no_restart"
  | restart => "restart"

/-- The policy in log lines. -/
def label : ExitPolicy → String
  | none => "None"
  | noRestart => "NoRestart"
  | restart => "Restart"

def ofName? (name : String) : Option ExitPolicy :=
  [none, noRestart, restart].find? fun policy => policy.name = name

end ExitPolicy

def tableVersionMessage : String :=
  "Store is updating table schema information; operation should be retried"

namespace ServiceFault

def surface : ServiceFault → SurfacedFault
  | surfaced fault => fault
  | sessionAccess message => .sessionAccess message
  | security message => .wrappedClient (.security message)
  | metadataNotFound message => .wrappedClient (.metadataNotFound message)
  | clientAccess cause => cause
  | environmentRetry message => .unavailable message
  | queryRuntime cause => cause.surface
  | tableVersion _ => .fault tableVersionMessage true true
  | environmentFailure message corrupted =>
      .fault (environmentFailure message corrupted).text true false
  | internal message => .fault (internal message).text true false

/--
The exit policy of a fault.  A corrupted environment is never restarted, a
fault that only fails its operation keeps the process, and any other takes the
default.
-/
def exitPolicy (default : ExitPolicy) : ServiceFault → ExitPolicy
  | environmentFailure _ true => .noRestart
  | environmentFailure _ false => default
  | surfaced _ | sessionAccess _ | environmentRetry _ | tableVersion _ => .none
  | queryRuntime cause => cause.exitPolicy default
  | security _ | metadataNotFound _ | clientAccess _ | internal _ => default

end ServiceFault

structure FaultDecision where
  surfaced : SurfacedFault
  exitPolicy : ExitPolicy
  deriving DecidableEq

/-- Classify a fault, that of a query by its cause. -/
def ServiceFault.classify (default : ExitPolicy) : ServiceFault → FaultDecision
  | queryRuntime cause => cause.classify default
  | fault => ⟨fault.surface, fault.exitPolicy default⟩

end ShardControl

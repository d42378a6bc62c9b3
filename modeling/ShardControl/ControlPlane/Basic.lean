import ShardControl.Config.Load
import ShardControl.Fault.Handler
import ShardControl.Log.Filter
import ShardControl.Store.Persist
import ShardControl.Telemetry.Monitor

/-!
# Control plane

A control plane is opened on a configuration: its store starts from the
configured document if there is one, and everything it makes later, plans and
fault handlers, takes its settings from the configuration.
-/

namespace ShardControl

inductive PlaneError where
  | config (reason : ConfigError)
  | metadata (reason : MetadataError)
  | deploy (reason : DeployError)
  deriving DecidableEq

def PlaneError.message : PlaneError → String
  | config reason => reason.message
  | metadata reason => reason.message
  | deploy reason => reason.message

/-- Configuration, store and monitor, and how many plans were made. -/
structure ControlPlane where
  config : Config
  store : Store
  monitor : Monitor
  plans : Nat

namespace ControlPlane

def onStore (config : Config) (store : Store) : ControlPlane where
  config := config
  store := store
  monitor := .fresh config.repositoryCapacity.toNat
  plans := 0

/-- The store that a configuration starts with, and what is reported of it. -/
def openStore (config : Config) (tree : FileTree) : Except MetadataError (Store × List Event) :=
  let fresh := Store.start (.named "") (.ofPolicies config.policies)
  match config.documentPath with
  | none => .ok (fresh, [])
  | some path =>
      if tree.hasPath path then
        (Store.load tree path).map fun store => (store, [.metadataLoaded path store.sequence])
      else .ok (fresh, [])

def open? (config : Config) (tree : FileTree) : Except PlaneError (ControlPlane × List Event) :=
  match openStore config tree with
  | .error reason => .error (.metadata reason)
  | .ok (store, events) => .ok (onStore config store, events)

def newPlan (plane : ControlPlane) : Plan × ControlPlane :=
  (⟨UInt64.ofNat (plane.plans + 1), plane.config.deploySettings⟩,
   { plane with plans := plane.plans + 1 })

def faultHandler (plane : ControlPlane) : FaultHandler :=
  .fresh plane.config.defaultExitPolicy plane.config.shutdownMode

/-- What writing the store did: whether there was anything to write, the files, the events. -/
structure Persisted where
  result : Except PlaneError Bool
  tree : FileTree
  events : List Event

/-- Write the store to the configured document, if there is one. -/
def persist (plane : ControlPlane) (tree : FileTree) : Persisted :=
  match plane.config.documentPath with
  | none => ⟨.ok false, tree, []⟩
  | some path =>
      match plane.store.persist tree path with
      | (.error reason, changed) => ⟨.error (.metadata reason), changed, []⟩
      | (.ok (), changed) => ⟨.ok true, changed, [.metadataPersist path]⟩

/-- What the start of a process did, with what it wrote to the log and beside it. -/
structure Started where
  plane : Except PlaneError ControlPlane
  filter : LogFilter
  warnings : List String
  events : List Event

/-- The filter of a process: that of its surroundings, and then the configured one. -/
def logFilter (surrounding : Option String) (config : Config) : List String × LogFilter :=
  let (first, outer) := LogFilter.empty.add (surrounding.getD Config.standardLogFilter)
  let (second, inner) := outer.add config.logFilter
  (first ++ second, inner)

def start (tree : FileTree) (path : String) (surrounding : Option String) : Started :=
  match Config.load tree path with
  | .error reason => ⟨.error (.config reason), .empty, [], []⟩
  | .ok config =>
      let (warnings, filter) := logFilter surrounding config
      let begun : Event := .controlPlaneStart path config.shutdownMode
      match open? config tree with
      | .error reason => ⟨.error reason, filter, warnings, [begun]⟩
      | .ok (plane, events) => ⟨.ok plane, filter, warnings, begun :: events⟩

end ControlPlane

end ShardControl

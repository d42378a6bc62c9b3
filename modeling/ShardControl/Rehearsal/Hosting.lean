import ShardControl.ControlPlane.Basic
import ShardControl.Rehearsal.Planning
import ShardControl.Rehearsal.Shutdown
import ShardControl.Text.Plain

/-!
# Rehearsals of a control plane

A process that holds a control plane, its files, its plans and the services
that it hosts.  Everything that it puts out is kept in order.  Once a shutdown
has made the process exit, nothing more happens in it.
-/

namespace ShardControl

/-- What a process writes for an output, past its log filter; events are written plain. -/
def Output.written (filter : LogFilter) (time : String) : Output → String
  | .event found => if filter.passes found then Text.plain (found.line time ++ "\n") else ""
  | .line text => text ++ "\n"

def Output.lines (filter : LogFilter) (time : String) (outputs : List Output) : List String :=
  let all := String.join (outputs.map (written filter time))
  (Text.lines all.toList).map String.ofList

/-- A hosted service with its fault handler and the repository that it publishes to. -/
structure Supervised where
  hosted : HostedService
  handler : FaultHandler
  repository : RepositoryHandle

structure PlaneRehearsal where
  plane : ControlPlane
  surroundings : Rehearsal
  files : FileTree
  /-- The plans, and whether each is cancelled. -/
  plans : List (Plan × Bool)
  services : List Supervised
  outputs : List Output
  exitCode : Option Nat
  /-- The key of the task that is made next. -/
  nextKey : TaskKey

namespace PlaneRehearsal

def start (plane : ControlPlane) (files : FileTree) (events : List Event) : PlaneRehearsal where
  plane := plane
  surroundings := .start plane.store plane.monitor
  files := files
  plans := []
  services := []
  outputs := events.map .event
  exitCode := none
  nextKey := 0

/-- Put out what was reported since the last time. -/
def settle (rehearsal : PlaneRehearsal) : PlaneRehearsal :=
  let (events, after) := rehearsal.surroundings.takeEvents
  { rehearsal with surroundings := after, outputs := rehearsal.outputs ++ events.map .event }

def newPlan (rehearsal : PlaneRehearsal) : Plan × PlaneRehearsal :=
  let (plan, plane) := rehearsal.plane.newPlan
  (plan, { rehearsal with plane := plane, plans := rehearsal.plans ++ [(plan, false)] })

/-- Deploy a replica by a plan; there has to be such a plan. -/
def deploy (rehearsal : PlaneRehearsal) (index : Nat) (node : StorageNodeId)
    (target : ShardTarget) : Option (Except DeployError TaskReport × PlaneRehearsal) :=
  rehearsal.plans[index]?.map fun (plan, cancelled) =>
    let topology := rehearsal.surroundings.store.topology
    match DeployTask.make rehearsal.nextKey plan topology node target none with
    | .error reason => (.error reason, rehearsal)
    | .ok task =>
        let before := { rehearsal.surroundings with cancelled := cancelled }
        let (report, after) := before.runTask plan task.toTask
        (.ok report,
         { rehearsal with
           surroundings := after
           plans := rehearsal.plans.set index (plan, after.cancelled)
           nextKey := rehearsal.nextKey + 1 })

def persist (rehearsal : PlaneRehearsal) : Except PlaneError Bool × PlaneRehearsal :=
  let plane := { rehearsal.plane with store := rehearsal.surroundings.store }
  let written := plane.persist rehearsal.files
  (written.result,
   { rehearsal with
     files := written.tree
     surroundings := rehearsal.surroundings.logAll written.events })

/-- Register a resource and host a service for it. -/
def host (rehearsal : PlaneRehearsal) (address : String) (port : UInt16) (resource : ResourceId)
    (hook : Option StopHook) : Supervised × PlaneRehearsal :=
  let (handle, after) := rehearsal.surroundings.register address port resource
  let made : Supervised :=
    ⟨.start (.fresh resource) hook, rehearsal.plane.faultHandler, handle⟩
  (made, { rehearsal with surroundings := after, services := rehearsal.services ++ [made] })

/-- Put a service back, with everything that it published and put out. -/
def putService (rehearsal : PlaneRehearsal) (index : Nat) (supervised : Supervised) :
    PlaneRehearsal :=
  let (transitions, told) := supervised.hosted.takePublished
  let (outputs, quiet) := told.takeOutputs
  { rehearsal with
    services := rehearsal.services.set index { supervised with hosted := quiet }
    surroundings := rehearsal.surroundings.publish supervised.repository transitions 0
    outputs := rehearsal.outputs ++ outputs
    exitCode := rehearsal.exitCode.or quiet.exitCode }

def update (rehearsal : PlaneRehearsal) (index : Nat) (status : ServiceStatus) :
    Option (MonitoredService × PlaneRehearsal) :=
  rehearsal.services[index]?.map fun found =>
    let hosted := found.hosted.update status
    (hosted.service, rehearsal.putService index { found with hosted := hosted })

def handle (rehearsal : PlaneRehearsal) (index : Nat) (operation : String)
    (fault : ServiceFault) : Option (Handled HostedService × PlaneRehearsal) := do
  let found ← rehearsal.services[index]?
  let handled ← HostedService.stage.handleAndJoin found.hosted found.handler operation fault
  let reported :=
    { rehearsal with surroundings := rehearsal.surroundings.logAll handled.events }
  return (handled,
    reported.settle.putService index
      { found with hosted := handled.service, handler := handled.handler })

end PlaneRehearsal

end ShardControl

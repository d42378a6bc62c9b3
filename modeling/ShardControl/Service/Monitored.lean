import ShardControl.Telemetry.Repository

/-!
# Monitored services

A monitored service publishes every change of its status.  Setting the status
that it already has is no change.
-/

namespace ShardControl

structure Transition where
  resource : ResourceId
  source : ServiceStatus
  target : ServiceStatus
  deriving DecidableEq

def Transition.measurement (transition : Transition) (time : UInt64) : Measurement where
  resource := transition.resource
  time := time
  reading := .statusChange transition.target

structure MonitoredService where
  resource : ResourceId
  status : ServiceStatus
  deriving DecidableEq

/-- The components of a service, told whether the stop is forced, stop or fail. -/
abbrev StopHook := Bool → Except ServiceError Unit

structure Stop where
  result : Except ServiceError Unit
  service : MonitoredService
  transitions : List Transition
  /-- Whether the hook was run. -/
  hooked : Bool

namespace MonitoredService

def fresh (resource : ResourceId) : MonitoredService := ⟨resource, .starting⟩

def name (service : MonitoredService) : String := service.resource.text

def spelled (service : MonitoredService) : String :=
  "MonitoredService \x7b resource: " ++ service.resource.spelled ++ ", status: " ++
    service.status.name ++ " \x7d"

/-- Set the status, with the changes to publish. -/
def update (service : MonitoredService) (status : ServiceStatus) :
    MonitoredService × List Transition :=
  ({ service with status := status },
   if service.status = status then [] else [⟨service.resource, service.status, status⟩])

/--
Stop the service.  A forced stop ends it even if its components fail; a
service that has already ended is left alone.
-/
def stop (service : MonitoredService) (hook : Option StopHook) (force : Bool) : Stop :=
  if service.status.isTerminal then ⟨.ok (), service, [], false⟩
  else
    let stopping := service.update .stopping
    let result := match hook with
      | some run => run force
      | none => .ok ()
    match result, force with
    | .error _, false => ⟨result, stopping.1, stopping.2, hook.isSome⟩
    | _, _ =>
        let stopped := stopping.1.update .stopped
        ⟨result, stopped.1, stopping.2 ++ stopped.2, hook.isSome⟩

end MonitoredService

end ShardControl

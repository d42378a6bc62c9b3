import ShardControl.Fault.Handler
import ShardControl.Log.Report

/-!
# Rehearsals of shutdowns

Surroundings in which the shutdown of a service can be run.  One keeps a
record of everything it is asked and may be told to panic; the other is a
monitored service that publishes its status.
-/

namespace ShardControl

/-- A service with its surroundings, as a shutdown meets them. -/
structure Stage (σ : Type) where
  name : σ → String
  answer : (call : ShutdownCall) → σ → Except Panic call.Value × σ

structure ServiceScript where
  name : String
  stopError : Option String
  panicOnUpdate : Bool
  panicOnStop : Bool

/-- A scripted service, and everything that was asked of it and its surroundings. -/
structure RecordedService where
  script : ServiceScript
  status : ServiceStatus
  updates : List ServiceStatus
  stops : List Bool
  codes : List Nat
  lines : List String

namespace RecordedService

def start (script : ServiceScript) (status : ServiceStatus) : RecordedService where
  script := script
  status := status
  updates := []
  stops := []
  codes := []
  lines := []

def update (service : RecordedService) (status : ServiceStatus) :
    Except Panic Unit × RecordedService :=
  if service.script.panicOnUpdate then (.error ⟨⟩, service)
  else (.ok (), { service with status := status, updates := service.updates ++ [status] })

def stop (service : RecordedService) (force : Bool) :
    Except Panic (Except ServiceError Unit) × RecordedService :=
  let asked := { service with stops := service.stops ++ [force] }
  if service.script.panicOnStop then (.error ⟨⟩, asked)
  else
    match service.script.stopError with
    | some reason => (.ok (.error (.stopFailed service.script.name reason)), asked)
    | none => (.ok (.ok ()), { asked with status := .stopped })

def answer : (call : ShutdownCall) → RecordedService →
    Except Panic call.Value × RecordedService
  | .writeLine line, service => (.ok (), { service with lines := service.lines ++ [line] })
  | .update status, service => service.update status
  | .flush, service => (.ok (), service)
  | .stop force, service => service.stop force
  | .exit code, service => (.ok (), { service with codes := service.codes ++ [code] })

def stage : Stage RecordedService := ⟨fun service => service.script.name, answer⟩

end RecordedService

/-- Something that a process puts out: an event for its log, or a line beside it. -/
inductive Output where
  | event (event : Event)
  | line (text : String)

/-- A monitored service in a process, with what it published and put out. -/
structure HostedService where
  service : MonitoredService
  hook : Option StopHook
  /-- Changes of the status that no repository was told of yet. -/
  published : List Transition
  /-- How the hook was called. -/
  hookCalls : List Bool
  outputs : List Output
  exitCode : Option Nat

namespace HostedService

def start (service : MonitoredService) (hook : Option StopHook) : HostedService where
  service := service
  hook := hook
  published := []
  hookCalls := []
  outputs := []
  exitCode := none

def publish (hosted : HostedService) (service : MonitoredService)
    (transitions : List Transition) : HostedService :=
  { hosted with
    service := service
    published := hosted.published ++ transitions
    outputs := hosted.outputs ++ transitions.map fun transition => .event transition.report }

def update (hosted : HostedService) (status : ServiceStatus) : HostedService :=
  let (service, transitions) := hosted.service.update status
  hosted.publish service transitions

def stop (hosted : HostedService) (force : Bool) : Except ServiceError Unit × HostedService :=
  let stopped := hosted.service.stop hosted.hook force
  let calls := if stopped.hooked then hosted.hookCalls ++ [force] else hosted.hookCalls
  (stopped.result,
   { hosted.publish stopped.service stopped.transitions with hookCalls := calls })

/-- Hand over the changes that no repository was told of yet. -/
def takePublished (hosted : HostedService) : List Transition × HostedService :=
  (hosted.published, { hosted with published := [] })

def takeOutputs (hosted : HostedService) : List Output × HostedService :=
  (hosted.outputs, { hosted with outputs := [] })

def answer : (call : ShutdownCall) → HostedService → Except Panic call.Value × HostedService
  | .writeLine line, hosted => (.ok (), { hosted with outputs := hosted.outputs ++ [.line line] })
  | .update status, hosted => (.ok (), hosted.update status)
  | .flush, hosted => (.ok (), hosted)
  | .stop force, hosted =>
      let (result, after) := hosted.stop force
      (.ok result, after)
  | .exit code, hosted => (.ok (), { hosted with exitCode := some code })

def stage : Stage HostedService := ⟨fun hosted => hosted.service.name, answer⟩

end HostedService

/-- What the handling of a fault came to, with the service it belongs to. -/
structure Handled (σ : Type) where
  surfaced : SurfacedFault
  /-- Whether the shutdown that was queued came to its end. -/
  joined : Option Bool
  handler : FaultHandler
  service : σ
  events : List Event

namespace Stage

variable {σ : Type} (stage : Stage σ)

/-- Wait for a shutdown, if there is one; the answer is whether it came to its end. -/
def join (service : σ) : Option ShutdownJob → Option Bool × σ
  | none => (none, service)
  | some job =>
      let (result, after) := job.run.run.run stage.answer service
      (some (match result with
       | .ok () => true
       | .error _ => false), after)

/-- Answer a coordinator.  Every thread can be started; it runs when somebody waits for it. -/
def coordinate : (call : CoordinatorCall) → σ × List Event →
    Except Panic call.Value × σ × List Event
  | .serviceName, (service, events) => (.ok (stage.name service), service, events)
  | .spawn .., state => (.ok (.ok ()), state)
  | .log event, (service, events) => (.ok (), service, events ++ [event])
  | .inline call, (service, events) =>
      let (found, after) := stage.answer call service
      (found, after, events)

def queueAndJoin (service : σ) (mode : ShutdownMode) (fault : ServiceFault)
    (policy : ExitPolicy) : Option Bool × σ :=
  match (ShutdownJob.queue mode fault policy).run.run stage.coordinate (service, []) with
  | (.ok ticket, after, _) => stage.join after ticket
  | (.error _, after, _) => (none, after)

/-- Run a program of a handler, unless it panics. -/
def handling {α : Type} (service : σ) (program : Handling α) : Option (α × σ × List Event) :=
  let answer (call : HandlerCall) (state : σ × List Event) :=
    call.meaning.run.run stage.coordinate state
  match program.run.run answer (service, []) with
  | (.ok value, after) => some (value, after)
  | (.error _, _) => none

def handleAndJoin (service : σ) (handler : FaultHandler) (operation : String)
    (fault : ServiceFault) : Option (Handled σ) := do
  let ((surfaced, queued), after, events) ←
    stage.handling service (handler.handle operation fault)
  let (ticket, rest) := queued.takeTicket
  let (joined, left) := stage.join after ticket
  return ⟨surfaced, joined, rest, left, events⟩

end Stage

end ShardControl

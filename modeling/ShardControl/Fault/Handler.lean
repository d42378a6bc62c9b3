import ShardControl.Fault.Coordinator

/-!
# Fault handlers

The handler of a hosted service surfaces every fault that its operations
raise.  For the first fault whose policy ends the process it has its
coordinator queue a shutdown; later ones are surfaced and change nothing.
-/

namespace ShardControl

inductive HandlerCall where
  | log (event : Event)
  /-- Have the coordinator queue a shutdown. -/
  | queue (mode : ShutdownMode) (fault : ServiceFault) (policy : ExitPolicy)

namespace HandlerCall

def Value : HandlerCall → Type
  | log _ => Unit
  | queue .. => Option ShutdownJob

abbrev interface : Interface := Panic.interface Value

def meaning : (call : HandlerCall) → Coordination call.Value
  | log event => (CoordinatorCall.log event).perform
  | queue mode fault policy => ShutdownJob.queue mode fault policy

end HandlerCall

abbrev Handling (α : Type) : Type := ExceptT Panic (Program HandlerCall.interface) α

abbrev HandlerCall.perform (call : HandlerCall) : Handling call.Value :=
  Panic.ask Value call

structure FaultHandler where
  defaultPolicy : ExitPolicy
  mode : ShutdownMode
  /-- The fault that started the shutdown. -/
  shutdownFault : Option ServiceFault
  /-- The ticket of the shutdown, until it is taken. -/
  ticket : Option ShutdownJob
  deriving DecidableEq

namespace FaultHandler

def fresh (defaultPolicy : ExitPolicy) (mode : ShutdownMode) : FaultHandler where
  defaultPolicy := defaultPolicy
  mode := mode
  shutdownFault := none
  ticket := none

/--
Queue the shutdown of a fault unless an earlier fault has started one.  The
fault is noted when the coordinator has returned, so not if it panics.
-/
def begin (handler : FaultHandler) (fault : ServiceFault) (policy : ExitPolicy) :
    Handling FaultHandler :=
  match handler.shutdownFault with
  | some _ => return handler
  | none => do
      let ticket : Option ShutdownJob ← (HandlerCall.queue handler.mode fault policy).perform
      return { handler with shutdownFault := some fault, ticket := ticket }

def handle (handler : FaultHandler) (operation : String) (fault : ServiceFault) :
    Handling (SurfacedFault × FaultHandler) := do
  let decision := fault.classify handler.defaultPolicy
  if decision.exitPolicy.requiresShutdown then
    (HandlerCall.log (.faultShutdown operation decision.exitPolicy fault)).perform
    let after ← handler.begin fault decision.exitPolicy
    return (decision.surfaced, after)
  else
    (HandlerCall.log (.operationFailed operation fault)).perform
    return (decision.surfaced, handler)

def execute {α : Type} (handler : FaultHandler) (operation : String)
    (result : Except ServiceFault α) : Handling (Except SurfacedFault α × FaultHandler) :=
  match result with
  | .ok value => return (.ok value, handler)
  | .error fault => do
      let handled ← handler.handle operation fault
      return (.error handled.1, handled.2)

/-- Hand over the ticket of the shutdown; it is handed over once. -/
def takeTicket (handler : FaultHandler) : Option ShutdownJob × FaultHandler :=
  (handler.ticket, { handler with ticket := none })

end FaultHandler

end ShardControl

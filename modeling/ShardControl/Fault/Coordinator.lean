import ShardControl.Fault.Shutdown
import ShardControl.Log.Event

/-!
# Coordination of shutdowns

A coordinator starts a thread for the shutdown that a fault asks for, so that
the caller need not wait for it.  Where no thread can be started the shutdown
runs before the coordinator returns, and if it panics so does the coordinator.
-/

namespace ShardControl

inductive CoordinatorCall where
  | serviceName
  /-- Start a thread, under a name, that runs a shutdown; an error says why there is none. -/
  | spawn (thread : String) (job : ShutdownJob)
  | log (event : Event)
  /-- A question of a shutdown that runs on the thread of its caller. -/
  | inline (call : ShutdownCall)

namespace CoordinatorCall

def Value : CoordinatorCall → Type
  | serviceName => String
  | spawn .. => Except String Unit
  | log _ => Unit
  | inline call => call.Value

abbrev interface : Interface := Panic.interface Value

end CoordinatorCall

abbrev Coordination (α : Type) : Type := ExceptT Panic (Program CoordinatorCall.interface) α

abbrev CoordinatorCall.perform (call : CoordinatorCall) : Coordination call.Value :=
  Panic.ask Value call

namespace ShutdownJob

def runInline (job : ShutdownJob) : Coordination Unit :=
  ExceptT.mk (job.run.run.interpret fun call =>
    Program.ask (I := CoordinatorCall.interface) (.inline call))

/-- Start a thread for a shutdown.  The shutdown is the ticket of its thread. -/
def start (job : ShutdownJob) : Coordination (Option ShutdownJob) := do
  let service : String ← CoordinatorCall.serviceName.perform
  let started : Except String Unit ←
    (CoordinatorCall.spawn (service ++ "-fault-shutdown") job).perform
  match started with
  | .ok () => return some job
  | .error reason =>
      let service : String ← CoordinatorCall.serviceName.perform
      (CoordinatorCall.log (.shutdownSpawnFailed service reason)).perform
      job.runInline
      return none

/-- Queue the shutdown that a policy asks for; the answer is the ticket of its thread. -/
def queue (mode : ShutdownMode) (fault : ServiceFault) (policy : ExitPolicy) :
    Coordination (Option ShutdownJob) :=
  match queue? mode fault policy with
  | none => return none
  | some job => job.start

end ShutdownJob

end ShardControl

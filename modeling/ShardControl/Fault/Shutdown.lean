import ShardControl.Fault.Classification
import ShardControl.Program.Basic

/-!
# Shutdown after a fault

A shutdown either ends the process or, where the process has to survive, stops
the service.  Every part of the surroundings that it uses may panic; a panic
during the bookkeeping of an exit does not keep the process from exiting.
-/

namespace ShardControl

inductive ShutdownMode where
  | process
  | test
  deriving DecidableEq

namespace ShutdownMode

def name : ShutdownMode → String
  | process => "process"
  | test => "test"

def label : ShutdownMode → String
  | process => "Process"
  | test => "Test"

def ofName? (name : String) : Option ShutdownMode :=
  [process, test].find? fun mode => mode.name = name

end ShutdownMode

structure Panic where
  deriving DecidableEq

namespace Panic

/-- Questions any of which may meet a panic. -/
abbrev interface {Call : Type} (Value : Call → Type) : Interface where
  Call := Call
  Answer call := Except Panic (Value call)

/-- Ask one thing; a panic of the surroundings is a panic of the program. -/
def ask {Call : Type} (Value : Call → Type) (call : Call) :
    ExceptT Panic (Program (interface Value)) (Value call) :=
  ExceptT.mk (Program.ask (I := interface Value) call)

end Panic

inductive ShutdownCall where
  | writeLine (line : String)
  | update (status : ServiceStatus)
  | flush
  | stop (force : Bool)
  | exit (code : Nat)

namespace ShutdownCall

/-- Only the stop of a service can fail in an orderly way. -/
def Value : ShutdownCall → Type
  | stop _ => Except ServiceError Unit
  | _ => Unit

abbrev interface : Interface := Panic.interface Value

end ShutdownCall

abbrev ShutdownProgram (α : Type) : Type := ExceptT Panic (Program ShutdownCall.interface) α

abbrev ShutdownCall.perform (call : ShutdownCall) : ShutdownProgram call.Value :=
  Panic.ask Value call

structure ShutdownJob where
  mode : ShutdownMode
  fault : ServiceFault
  policy : ExitPolicy
  code : Nat
  deriving DecidableEq

namespace ShutdownJob

def queue? (mode : ShutdownMode) (fault : ServiceFault) (policy : ExitPolicy) :
    Option ShutdownJob :=
  policy.exitCode.map fun code => ⟨mode, fault, policy, code⟩

/-- Stop the service by force and leave the process running. -/
def stopService : ShutdownProgram Unit := do
  match ← (ShutdownCall.stop true).perform with
  | .ok () => return ()
  | .error reason => (ShutdownCall.writeLine ("Exception during exit: " ++ reason.message)).perform

/-- Report the fault, publish the status and flush the log. -/
def bookkeeping (job : ShutdownJob) : ShutdownProgram Unit := do
  (ShutdownCall.writeLine ("Process exiting due to fault: " ++ job.fault.text)).perform
  match job.policy.exitStatus with
  | some status => (ShutdownCall.update status).perform
  | none => pure ()
  ShutdownCall.flush.perform

/-- Exit the process, also after bookkeeping that panicked. -/
def exitProcess (job : ShutdownJob) : ShutdownProgram Unit := do
  match ← (ExceptT.lift job.bookkeeping.run : ShutdownProgram (Except Panic Unit)) with
  | .ok () => pure ()
  | .error _ =>
      (ShutdownCall.writeLine "Shutdown bookkeeping failed; exiting anyway").perform
  (ShutdownCall.exit job.code).perform

def run (job : ShutdownJob) : ShutdownProgram Unit :=
  match job.mode with
  | .test => stopService
  | .process => job.exitProcess

end ShutdownJob

end ShardControl

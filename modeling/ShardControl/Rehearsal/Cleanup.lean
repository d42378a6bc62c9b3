import ShardControl.Repair.Cleanup

/-!
# Rehearsals of cleanup jobs

Surroundings in which a cleanup job meets a scripted check at every attempt.
When the script has run out, its last cue is given again and again.
-/

namespace ShardControl

structure AttemptCue where
  check : Except CheckError RemedyKind
  apply : Except CheckError Bool
  /-- Whether the plan is cancelled while the remedy is applied. -/
  cancels : Bool

structure CleanupRehearsal where
  resolved : Option ReplicaId
  cancelled : Bool
  /-- The cue of the present attempt, and those after it. -/
  cue : AttemptCue
  script : List AttemptCue
  checks : Nat
  clock : Nat
  /-- What was reported, the last event first. -/
  reported : List Event

namespace CleanupRehearsal

/-- An attempt that finds nothing to do. -/
def idleCue : AttemptCue := ⟨.ok .noOp, .ok true, false⟩

def start (resolved : Option ReplicaId) (cancelled : Bool) (script : List AttemptCue) :
    CleanupRehearsal where
  resolved := resolved
  cancelled := cancelled
  cue := idleCue
  script := script
  checks := 0
  clock := 0
  reported := []

def events (rehearsal : CleanupRehearsal) : List Event := rehearsal.reported.reverse

def advance (rehearsal : CleanupRehearsal) : CleanupRehearsal :=
  match rehearsal.script with
  | [] => rehearsal
  | cue :: rest => { rehearsal with cue := cue, script := rest }

def check (rehearsal : CleanupRehearsal) (node : StorageNodeId) (replica : ReplicaId) :
    Except CheckError Remedy × CleanupRehearsal :=
  let next := rehearsal.advance
  (next.cue.check.map fun kind => ⟨node, replica, kind⟩, { next with checks := next.checks + 1 })

def apply (rehearsal : CleanupRehearsal) : Except CheckError Bool × CleanupRehearsal :=
  (rehearsal.cue.apply,
   { rehearsal with cancelled := rehearsal.cancelled || rehearsal.cue.cancels })

def answer : (call : CleanupCall) → CleanupRehearsal → call.Answer × CleanupRehearsal
  | .resolved, rehearsal => (rehearsal.resolved, rehearsal)
  | .isCancelled, rehearsal => (rehearsal.cancelled, rehearsal)
  | .clock .now, rehearsal => (rehearsal.clock, { rehearsal with clock := rehearsal.clock + 1 })
  | .clock (.spread delay _), rehearsal => (delay, rehearsal)
  | .sleep pause, rehearsal =>
      (rehearsal.cancelled,
       if rehearsal.cancelled then rehearsal
       else { rehearsal with clock := rehearsal.clock + pause })
  | .check node replica, rehearsal => rehearsal.check node replica
  | .apply _, rehearsal => rehearsal.apply
  | .log event, rehearsal => ((), { rehearsal with reported := event :: rehearsal.reported })

def run (rehearsal : CleanupRehearsal) (job : CleanupJob) : CleanupOutcome × CleanupRehearsal :=
  job.run.run answer rehearsal

end CleanupRehearsal

end ShardControl

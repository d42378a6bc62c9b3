import ShardControl.Rehearsal.Basic

/-!
# Answers of a rehearsal

How a rehearsal answers each question of a program.  The clock goes on with
every look at it, so no two readings are equal.
-/

namespace ShardControl

namespace Rehearsal

/-- The answer to a question that a script decides, if it is no refusal. -/
def takeCue {ε : Type} : List (Option ε) → Except ε Unit × List (Option ε)
  | [] => (.ok (), [])
  | none :: rest => (.ok (), rest)
  | some reason :: rest => (.error reason, rest)

def commit (rehearsal : Rehearsal) (update : Update) :
    Except MetadataError UInt64 × Rehearsal :=
  match rehearsal.store.commit update with
  | .error reason => (.error reason, rehearsal)
  | .ok store =>
      (.ok store.sequence, { rehearsal with store := store }.log (update.report store.sequence))

/-- Make edits in one commit, as another planner. -/
def edit (rehearsal : Rehearsal) (edits : List Edit) : Except MetadataError UInt64 × Rehearsal :=
  rehearsal.commit (Edit.toUpdate rehearsal.store edits)

def cuedCommit (rehearsal : Rehearsal) (update : Update) :
    Except MetadataError UInt64 × Rehearsal :=
  match rehearsal.script.commits with
  | [] => rehearsal.commit update
  | cue :: rest =>
      let cued := { rehearsal with script := { rehearsal.script with commits := rest } }
      match cue with
      | .pass => cued.commit update
      | .conflict => (.error (.conflict update.expected (update.expected + 1)), cued)
      | .fail reason => (.error reason, cued)
      | .intrude edits => (cued.edit edits).2.commit update

def askStore (rehearsal : Rehearsal) : (call : StoreCall) → call.Answer × Rehearsal
  | .topology =>
      let (cue, rest) := takeCue rehearsal.script.topologyReads
      (cue.map fun _ => rehearsal.store.topology,
       { rehearsal with script := { rehearsal.script with topologyReads := rest } })
  | .parameters =>
      let (cue, rest) := takeCue rehearsal.script.parameterReads
      (cue.map fun _ => rehearsal.store.parameters,
       { rehearsal with script := { rehearsal.script with parameterReads := rest } })
  | .replicaParams id =>
      let (cue, rest) := takeCue rehearsal.script.replicaReads
      (cue.map fun _ => rehearsal.store.parameters.replica? id,
       { rehearsal with script := { rehearsal.script with replicaReads := rest } })
  | .commit update => rehearsal.cuedCommit update

def findAgent (rehearsal : Rehearsal) : Except RemoteError Unit × Rehearsal :=
  let (cue, rest) := takeCue rehearsal.script.resolutions
  (cue, { rehearsal with script := { rehearsal.script with resolutions := rest } })

def create (rehearsal : Rehearsal) (creation : Creation) :
    Except RemoteError Bool × Rehearsal :=
  let noted := { rehearsal with creations := rehearsal.creations ++ [creation] }
  match rehearsal.script.creations with
  | [] => (.ok true, noted)
  | answer :: rest =>
      (answer, { noted with script := { rehearsal.script with creations := rest } })

def inspect (rehearsal : Rehearsal) (location : Location) : Except CheckError Bool × Rehearsal :=
  let (cue, rest) := takeCue rehearsal.script.inspections
  (cue.map fun _ => rehearsal.deployed.contains location,
   { rehearsal with script := { rehearsal.script with inspections := rest } })

def disable (rehearsal : Rehearsal) (location : Location) : Except CheckError Unit × Rehearsal :=
  let (cue, rest) := takeCue rehearsal.script.disablings
  let cued := { rehearsal with script := { rehearsal.script with disablings := rest } }
  match cue with
  | .error reason => (.error reason, cued)
  | .ok () => (.ok (), { cued with disabled := cued.disabled ++ [location] })

def register (rehearsal : Rehearsal) (host : String) (port : UInt16) (resource : ResourceId) :
    RepositoryHandle × Rehearsal :=
  let (handle, monitor) := rehearsal.monitor.register host port resource
  (handle,
   { rehearsal with monitor := monitor }.log (monitor.registrationReport host port resource))

/-- Read the clock, or choose the base of a pause as its length. -/
def askClock (rehearsal : Rehearsal) : (call : ClockCall) → call.Answer × Rehearsal
  | .now => (rehearsal.clock, { rehearsal with clock := rehearsal.clock + 1 })
  | .spread delay _ => (delay, rehearsal)

def pass (rehearsal : Rehearsal) (time : Nat) : Rehearsal :=
  { rehearsal with clock := rehearsal.clock + time }

def answer : (call : ControlCall) → Rehearsal → call.Answer × Rehearsal
  | .store call, rehearsal => rehearsal.askStore call
  | .shard slot, rehearsal => (rehearsal.shards.shard? slot, rehearsal)
  | .isCancelled, rehearsal => (rehearsal.cancelled, rehearsal)
  | .cancel, rehearsal => ((), { rehearsal with cancelled := true })
  | .resolved task, rehearsal => (rehearsal.resolved? task, rehearsal)
  | .resolve task replica, rehearsal => ((), rehearsal.setResolved task (some replica))
  | .findAgent _ _, rehearsal => rehearsal.findAgent
  | .createReplica node settings topology, rehearsal => rehearsal.create ⟨node, settings, topology⟩
  | .register host port resource, rehearsal => ((), (rehearsal.register host port resource).2)
  | .isDeployed node replica, rehearsal => rehearsal.inspect ⟨node, replica⟩
  | .disable node replica, rehearsal => rehearsal.disable ⟨node, replica⟩
  | .spawn .., rehearsal => (.ok (), rehearsal)
  | .clock call, rehearsal => rehearsal.askClock call
  | .rest pause, rehearsal => ((), rehearsal.pass pause)
  | .sleep pause, rehearsal =>
      (rehearsal.cancelled, if rehearsal.cancelled then rehearsal else rehearsal.pass pause)
  | .log event, rehearsal => ((), rehearsal.log event)

def run {α : Type} (rehearsal : Rehearsal) (program : Program Control α) : α × Rehearsal :=
  program.run answer rehearsal

end Rehearsal

end ShardControl

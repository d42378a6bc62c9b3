import ShardControl.Rehearsal.Answer
import ShardControl.Store.Persist

/-!
# Operations in a rehearsal

What others than the programs of a plan do to the store and the monitor, with
everything that they report.
-/

namespace ShardControl.Rehearsal

def adopt (rehearsal : Rehearsal) (document : Document) :
    Except MetadataError UInt64 × Rehearsal :=
  match rehearsal.store.adopt document with
  | .error reason => (.error reason, rehearsal)
  | .ok store =>
      (.ok store.sequence,
       { rehearsal with store := store }.log (rehearsal.store.adoptionReport store))

def persist (rehearsal : Rehearsal) (tree : FileTree) (path : String) :
    Except MetadataError Unit × FileTree × Rehearsal :=
  match rehearsal.store.persist tree path with
  | (.error reason, changed) => (.error reason, changed, rehearsal)
  | (.ok (), changed) => (.ok (), changed, rehearsal.log (.metadataPersist path))

def load (rehearsal : Rehearsal) (tree : FileTree) (path : String) :
    Except MetadataError Unit × Rehearsal :=
  match Store.load tree path with
  | .error reason => (.error reason, rehearsal)
  | .ok store => (.ok (), { rehearsal with store := store })

def measure (rehearsal : Rehearsal) (resource : ResourceId) (measurement : Measurement) :
    Option Nat × Rehearsal :=
  match rehearsal.monitor.registration? resource with
  | none => (none, rehearsal)
  | some found =>
      let monitor := rehearsal.monitor.add found.handle measurement
      (some (monitor.repository found.handle).size, { rehearsal with monitor := monitor })

def publish (rehearsal : Rehearsal) (handle : RepositoryHandle) (transitions : List Transition)
    (time : UInt64) : Rehearsal :=
  { rehearsal with
    monitor := transitions.foldl
      (fun monitor transition => monitor.add handle (transition.measurement time))
      rehearsal.monitor }

def collect (rehearsal : Rehearsal) (resource : ResourceId) : Option Snapshot × Rehearsal :=
  let (snapshot, monitor) := rehearsal.monitor.collect resource
  let events := (snapshot.map fun found => found.report (some resource)).getD []
  (snapshot, { rehearsal with monitor := monitor }.logAll events)

def collectAll (rehearsal : Rehearsal) : List (ResourceId × Snapshot) × Rehearsal :=
  let (snapshots, monitor) := rehearsal.monitor.collectAll
  let events := snapshots.flatMap fun taken => taken.2.report (some taken.1)
  (snapshots, { rehearsal with monitor := monitor }.logAll events)

def unregister (rehearsal : Rehearsal) (resource : ResourceId) :
    Option Registration × Rehearsal :=
  let (found, monitor) := rehearsal.monitor.unregister resource
  (found, { rehearsal with monitor := monitor })

def takeEvents (rehearsal : Rehearsal) : List Event × Rehearsal :=
  (rehearsal.events, { rehearsal with reported := [] })

end ShardControl.Rehearsal

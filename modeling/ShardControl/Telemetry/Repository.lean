import ShardControl.Telemetry.Measurement
import ShardControl.Telemetry.Ring

/-!
# Measurement repositories

A repository buffers the measurements of one resource up to a capacity.  When
it is full, the oldest measurement gives way to each new one and is folded
into an aggregate.  A drain takes everything at once.
-/

namespace ShardControl

structure Snapshot where
  statusChanges : Nat
  pruned : Option Pruned
  measurements : List Measurement
  deriving DecidableEq

inductive SnapshotEntry where
  | pruned (aggregate : Pruned)
  | measurement (measurement : Measurement)

namespace Snapshot

/-- The entries in the order of time, the aggregate first. -/
def entries (snapshot : Snapshot) : List SnapshotEntry :=
  (snapshot.pruned.map SnapshotEntry.pruned).toList ++
    snapshot.measurements.map SnapshotEntry.measurement

def size (snapshot : Snapshot) : Nat := snapshot.entries.length

def isEmpty (snapshot : Snapshot) : Bool := snapshot.size = 0

end Snapshot

/-- A bounded buffer; one that belongs to no registered resource is detached. -/
structure Repository where
  resource : Option ResourceId
  capacity : Nat
  live : Ring Measurement capacity
  statusChanges : Nat
  pruned : Pruned

namespace Repository

def defaultCapacity : Nat := 10000

/-- An empty repository; no capacity counts as a capacity of one. -/
def fresh (resource : Option ResourceId) (capacity : Nat) : Repository where
  resource := resource
  capacity := max capacity 1
  live := .empty (Nat.le_max_right capacity 1)
  statusChanges := 0
  pruned := .none

def size (repository : Repository) : Nat := repository.live.size

def isEmpty (repository : Repository) : Bool := repository.size = 0

/-- Add a measurement; one that gives way to it is folded into the aggregate. -/
def add (repository : Repository) (measurement : Measurement) : Repository :=
  let counted := repository.statusChanges + measurement.weight
  match repository.live.push measurement with
  | (none, live) => { repository with live := live, statusChanges := counted }
  | (some oldest, live) =>
      { repository with
        live := live
        statusChanges := counted - oldest.weight
        pruned := repository.pruned.record oldest }

def addAll (repository : Repository) (measurements : List Measurement) : Repository :=
  measurements.foldl add repository

def drain (repository : Repository) : Snapshot × Repository :=
  ({ statusChanges := repository.statusChanges
     pruned := if repository.pruned.exist then some repository.pruned else none
     measurements := repository.live.toList },
   { repository with
     live := .empty (Nat.zero_lt_of_lt repository.live.head_lt)
     statusChanges := 0
     pruned := .none })

end Repository

end ShardControl

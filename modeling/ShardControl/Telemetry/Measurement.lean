import ShardControl.Id
import ShardControl.Log.Level
import ShardControl.Service.Status

/-!
# Measurements

Telemetry records of monitored resources, and the aggregate that stands for
records which had to give way to newer ones.
-/

namespace ShardControl

inductive Reading where
  | statusChange (status : ServiceStatus)
  | performance (operations errors latency : UInt64)
  | log (level : LogLevel) (message : String)
  | planState (plan : UInt64) (state : String)
  deriving DecidableEq

inductive ReadingKind where
  | statusChange
  | performance
  | log
  | planState
  deriving DecidableEq

namespace ReadingKind

def label : ReadingKind → String
  | statusChange => "service_status_change"
  | performance => "performance"
  | log => "log"
  | planState => "plan_state_change"

def all : List ReadingKind := [statusChange, performance, log, planState]

end ReadingKind

def Reading.kind : Reading → ReadingKind
  | statusChange _ => .statusChange
  | performance .. => .performance
  | log .. => .log
  | planState .. => .planState

/-- One telemetry record, with the time in milliseconds. -/
structure Measurement where
  resource : ResourceId
  time : UInt64
  reading : Reading
  deriving DecidableEq

def Measurement.isStatusChange (measurement : Measurement) : Bool :=
  measurement.reading.kind = .statusChange

/-- The share of a measurement in a count of status changes. -/
def Measurement.weight (measurement : Measurement) : Nat :=
  if measurement.isStatusChange then 1 else 0

structure KindCounts where
  statusChange : Nat
  performance : Nat
  log : Nat
  planState : Nat
  deriving DecidableEq

namespace KindCounts

def zero : KindCounts := ⟨0, 0, 0, 0⟩

def get (counts : KindCounts) : ReadingKind → Nat
  | .statusChange => counts.statusChange
  | .performance => counts.performance
  | .log => counts.log
  | .planState => counts.planState

def bump (counts : KindCounts) : ReadingKind → KindCounts
  | .statusChange => { counts with statusChange := counts.statusChange + 1 }
  | .performance => { counts with performance := counts.performance + 1 }
  | .log => { counts with log := counts.log + 1 }
  | .planState => { counts with planState := counts.planState + 1 }

theorem get_bump (counts : KindCounts) (kind other : ReadingKind) :
    (counts.bump kind).get other = counts.get other + if kind = other then 1 else 0 := by
  cases kind <;> cases other <;> rfl

end KindCounts

/-- What is kept of measurements that gave way: counts, and the span of their times. -/
structure Pruned where
  count : Nat
  statusChanges : Nat
  kinds : KindCounts
  earliest : Option UInt64
  latest : Option UInt64
  deriving DecidableEq

namespace Pruned

def none : Pruned where
  count := 0
  statusChanges := 0
  kinds := .zero
  earliest := .none
  latest := .none

def record (pruned : Pruned) (measurement : Measurement) : Pruned where
  count := pruned.count + 1
  statusChanges := pruned.statusChanges + measurement.weight
  kinds := pruned.kinds.bump measurement.reading.kind
  earliest := some ((pruned.earliest.map (min measurement.time)).getD measurement.time)
  latest := some ((pruned.latest.map (max measurement.time)).getD measurement.time)

def exist (pruned : Pruned) : Bool := 0 < pruned.count

def ofList (measurements : List Measurement) : Pruned := measurements.foldl record none

end Pruned

end ShardControl

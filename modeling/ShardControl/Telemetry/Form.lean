import ShardControl.Document.Form
import ShardControl.Telemetry.Repository

/-!
# Written forms of measurements

Measurements are read with the kind of their reading named, and written with
its label.  Where the times of measurements do not matter, measurements and
aggregates are written without them.
-/

namespace ShardControl

open Json

instance : JsonForm LogLevel where
  toJson level := .text level.text
  ofJson? value := (choice? value).bind fun name =>
    LogLevel.all.find? fun level => level.text = name

instance : JsonInput Reading where
  ofJson? value := do
    match ← (value.read? "kind" : Option String) with
    | "status" => return .statusChange (← value.read? "status")
    | "performance" =>
        return .performance (← value.read? "operations") (← value.read? "errors")
          (← value.read? "latency")
    | "log" => return .log (← value.read? "level") (← value.read? "message")
    | "plan" => return .planState (← value.read? "plan_id") (← value.read? "state")
    | _ => none

instance : JsonInput Measurement where
  ofJson? value := return {
    resource := ← value.read? "resource"
    time := ← value.read? "at"
    reading := ← ofJson? value }

def Reading.members : Reading → List (String × Json)
  | .statusChange status => [("status", toJson status)]
  | .performance operations errors latency =>
      [("operations", toJson operations), ("errors", toJson errors), ("latency", toJson latency)]
  | .log level message => [("level", toJson level), ("message", toJson message)]
  | .planState plan state => [("plan_id", toJson plan), ("state", toJson state)]

def Measurement.toJson (timed : Bool) (measurement : Measurement) : Json :=
  .record <|
    [("label", .text measurement.reading.kind.label),
     ("resource", .text measurement.resource.text),
     ("is_status_change", .bool measurement.isStatusChange)] ++
      (if timed then [("at", JsonOutput.toJson measurement.time)] else []) ++
      measurement.reading.members

/-- The count of readings of each kind; there are no others. -/
instance : JsonOutput KindCounts where
  toJson counts :=
    .record <|
      (ReadingKind.all.map fun kind => (kind.label, toJson (counts.get kind))) ++
        [("other", .nat 0)]

def Pruned.toJson (timed : Bool) (pruned : Pruned) : Json :=
  .record <|
    [("exists", .bool pruned.exist), ("count", .nat pruned.count),
     ("status_changes", .nat pruned.statusChanges), ("by_kind", JsonOutput.toJson pruned.kinds)] ++
      if timed then
        [("earliest", JsonOutput.toJson pruned.earliest),
         ("latest", JsonOutput.toJson pruned.latest)]
      else []

def SnapshotEntry.toJson (timed : Bool) : SnapshotEntry → Json
  | .pruned aggregate => .record [("pruned", aggregate.toJson timed)]
  | .measurement found => found.toJson timed

def Snapshot.toJson (timed : Bool) (snapshot : Snapshot) : Json :=
  .record
    [("status_changes", .nat snapshot.statusChanges), ("len", .nat snapshot.size),
     ("empty", .bool snapshot.isEmpty),
     ("entries", .arr (snapshot.entries.map (SnapshotEntry.toJson timed)))]

end ShardControl

import ShardControl.Json.Form

/-!
# Service status

The states that a hosted service goes through, and the status report of a
replicated service.  A report claims authority only for a master.
-/

namespace ShardControl

inductive ServiceStatus where
  | starting
  | waitingForDeploy
  | running
  | stopping
  | stopped
  | errorRestarting
  | errorNoRestart
  | unreachable
  deriving DecidableEq

namespace ServiceStatus

def isTerminal : ServiceStatus → Bool
  | stopped | errorRestarting | errorNoRestart => true
  | _ => false

def isAlive : ServiceStatus → Bool
  | starting | waitingForDeploy | running => true
  | _ => false

/-- The status in reports and log lines. -/
def text : ServiceStatus → String
  | starting => "STARTING"
  | waitingForDeploy => "WAITING_FOR_DEPLOY"
  | running => "RUNNING"
  | stopping => "STOPPING"
  | stopped => "STOPPED"
  | errorRestarting => "ERROR_RESTARTING"
  | errorNoRestart => "ERROR_NO_RESTART"
  | unreachable => "UNREACHABLE"

/-- The status in structured text. -/
def name : ServiceStatus → String
  | starting => "Starting"
  | waitingForDeploy => "WaitingForDeploy"
  | running => "Running"
  | stopping => "Stopping"
  | stopped => "Stopped"
  | errorRestarting => "ErrorRestarting"
  | errorNoRestart => "ErrorNoRestart"
  | unreachable => "Unreachable"

def all : List ServiceStatus :=
  [starting, waitingForDeploy, running, stopping, stopped, errorRestarting, errorNoRestart,
   unreachable]

def ofName? (name : String) : Option ServiceStatus := all.find? fun status => status.name = name

instance : JsonForm ServiceStatus where
  toJson status := .text status.name
  ofJson? value := (Json.choice? value).bind ofName?

end ServiceStatus

/-- The part that a replicated service plays in its group. -/
inductive ReplicationState where
  | master
  | replica
  | unknown
  | detached
  deriving DecidableEq

namespace ReplicationState

def text : ReplicationState → String
  | master => "MASTER"
  | replica => "REPLICA"
  | unknown => "UNKNOWN"
  | detached => "DETACHED"

def name : ReplicationState → String
  | master => "Master"
  | replica => "Replica"
  | unknown => "Unknown"
  | detached => "Detached"

def all : List ReplicationState := [master, replica, unknown, detached]

def ofName? (name : String) : Option ReplicationState := all.find? fun state => state.name = name

instance : JsonForm ReplicationState where
  toJson state := .text state.name
  ofJson? value := (Json.choice? value).bind ofName?

end ReplicationState

structure StatusReport where
  status : ServiceStatus
  replication : Option ReplicationState
  authoritative : Bool
  deriving DecidableEq

namespace StatusReport

/-- A report that drops the claim of authority unless the service is the master. -/
def of (status : ServiceStatus) (replication : Option ReplicationState) (authoritative : Bool) :
    StatusReport where
  status := status
  replication := replication
  authoritative := authoritative && replication == some .master

def isUnconfirmedMaster (report : StatusReport) : Bool :=
  report.replication == some .master && !report.authoritative

def text (report : StatusReport) : String :=
  report.status.text ++ "," ++ (report.replication.map ReplicationState.text).getD "null" ++
    if report.isUnconfirmedMaster then " (non-authoritative)" else ""

open Json

instance : JsonForm StatusReport where
  toJson report :=
    .record
      [("status", toJson report.status), ("replication_state", toJson report.replication),
       ("authoritative_master", toJson report.authoritative)]
  ofJson? value :=
    match members? [member "status", nullable "replication_state", member "authoritative_master"]
        value with
    | some [status, replication, authoritative] =>
        return {
          status := ← required status
          replication := ← required replication
          authoritative := ← required authoritative }
    | _ => none

end StatusReport

inductive ServiceError where
  | stopFailed (service reason : String)
  deriving DecidableEq

def ServiceError.message : ServiceError → String
  | stopFailed service reason => "service " ++ service ++ " failed to stop: " ++ reason

end ShardControl

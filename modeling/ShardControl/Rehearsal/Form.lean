import ShardControl.Deploy.Form
import ShardControl.Rehearsal.Basic
import ShardControl.Rehearsal.Cleanup

/-!
# Written forms of scripts

A script names the errors that calls are to fail with, and the edits that
another planner is to make.  An edit is an object that says what it does.
-/

namespace ShardControl

open Json

/-! ## Errors -/

instance : JsonInput TopologyError where
  ofJson? value := do
    match ← (value.read? "kind" : Option String) with
    | "unknown_shard" => return .unknownShard (← value.read? "shard")
    | "unknown_storage_node" => return .unknownStorageNode (← value.read? "sn")
    | "unknown_datacenter" => return .unknownDatacenter (← value.read? "datacenter")
    | "unknown_replica" => return .unknownReplica (← value.read? "node")
    | _ => none

instance : JsonInput MetadataError where
  ofJson? value := do
    match ← (value.read? "kind" : Option String) with
    | "conflict" => return .conflict (← value.read? "expected") (← value.read? "actual")
    | "unavailable" => return .unavailable (← value.read? "reason")
    | "topology" => return .topology (← value.read? "cause")
    | _ => none

instance : JsonInput RemoteError where
  ofJson? value := do
    let node ← value.read? "sn"
    let reason ← value.read? "reason"
    match ← (value.read? "kind" : Option String) with
    | "invalid_state" => return .invalidState node reason
    | "unreachable" => return .unreachable node reason
    | "rejected" => return .rejected node reason
    | _ => none

instance : JsonInput PortError where
  ofJson? value := do
    match ← (value.read? "kind" : Option String) with
    | "exhausted" =>
        return .exhausted (← value.read? "sn") ⟨← value.read? "start", ← value.read? "end"⟩
    | "unknown_storage_node" => return .unknownStorageNode (← value.read? "sn")
    | _ => none

instance : JsonInput CheckError where
  ofJson? value := do
    match ← (value.read? "kind" : Option String) with
    | "inspect" => return .inspect (← value.read? "sn") (← value.read? "reason")
    | "metadata" => return .metadata (← value.read? "cause")
    | _ => none

instance : JsonInput DeployError where
  ofJson? value := do
    match ← (value.read? "kind" : Option String) with
    | "unknown_storage_node" => return .unknownStorageNode (← value.read? "sn")
    | "missing_storage_node_params" => return .missingStorageNodeParams (← value.read? "sn")
    | "shard_not_found" => return .shardNotFound (← value.read? "shard")
    | "unresolved_shard" => return .unresolvedShard (← value.read? "index")
    | "not_electable" => return .notElectable (← value.read? "shard") (← value.read? "sn")
    | "missing_node_params" => return .missingReplicaParams (← value.read? "node")
    | "commit_conflict" => return .commitConflict (← value.read? "attempts")
    | "remote" => return .ofRemote (← value.read? "cause")
    | "metadata" => return .metadata (← value.read? "cause")
    | "topology" => return .topology (← value.read? "cause")
    | "port" => return .port (← value.read? "cause")
    | _ => none

/-! ## Edits -/

instance : JsonInput Change where
  ofJson? value := do
    match ← (value.read? "do" : Option String) with
    | "add_datacenter" => return .addDatacenter (← value.read? "datacenter")
    | "add_storage_node" => return .addStorageNode (← value.read? "node")
    | "add_shard" => return .addShard (← value.read? "shard")
    | "add_replica" => return .addReplica (← value.read? "shard") (← value.read? "sn")
    | "add_arbiter" => return .addArbiter (← value.read? "shard") (← value.read? "sn")
    | "remove_replica" => return .removeReplica (← value.read? "node")
    | _ => none

instance : JsonInput Edit where
  ofJson? value := do
    match ← (value.read? "do" : Option String) with
    | "upsert_params" => return .upsert (← value.read? "params")
    | "remove_params" => return .remove (← value.read? "node")
    | "add_storage_node_params" => return .configure (← value.read? "params")
    | _ => return .change (← ofJson? value)

/-! ## Cues -/

/-- A reply is a flag or an error. -/
def reply? {ε : Type} [JsonInput ε] : Json → Option (Except ε Bool)
  | .bool answer => some (.ok answer)
  | value => (ofJson? value).map .error

instance : JsonInput (Except RemoteError Bool) := ⟨reply?⟩

instance : JsonInput CommitCue where
  ofJson? value := do
    match value, ← (value.read? "intrude" : Option (Option (List Edit))) with
    | .null, _ => return .pass
    | .str (some "conflict"), _ => return .conflict
    | _, some edits => return .intrude edits
    | _, none => return .fail (← ofJson? value)

/-- A check names a remedy or fails; where nothing is said of it, the remedy takes effect. -/
instance : JsonInput AttemptCue where
  ofJson? value := return {
    check := ← match value.field "check" with
      | .str name => (name.bind RemedyKind.ofText?).map .ok
      | reason => (ofJson? reason).map .error
    apply := ← match value.field "apply" with
      | .null => some (.ok true)
      | answer => reply? answer
    cancels := ← value.readOr "cancel" false }

end ShardControl

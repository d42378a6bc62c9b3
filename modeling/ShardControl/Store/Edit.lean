import ShardControl.Store.Basic
import ShardControl.Topology.Change

/-!
# Edits

An edit is one wish of a planner: a change of the topology, parameters of a
replica to store or to remove, or parameters of a storage node.  Edits that
belong together are committed as one update, which has no place for parameters
of storage nodes: those stay with the planner.
-/

namespace ShardControl

inductive Edit where
  | change (wish : Change)
  | upsert (params : ReplicaParams)
  | remove (id : ReplicaId)
  | configure (params : StorageNodeParams)

namespace Edit

inductive Answer where
  | changed (answer : Except TopologyError Change.Answer)
  | noted
  | removed (params : Option ReplicaParams)

/-- A topology and parameters as a planner holds them. -/
abbrev Draft := Topology × Parameters

def perform (draft : Draft) : Edit → Answer × Draft
  | change wish =>
      let performed := wish.perform draft.1
      (.changed performed.1, performed.2, draft.2)
  | upsert params => (.noted, draft.1, draft.2.putReplica params)
  | remove id => (.removed (draft.2.replica? id), draft.1, draft.2.removeReplica id)
  | configure params => (.noted, draft.1, draft.2.addStorageNode params)

def performAll (draft : Draft) : List Edit → List Answer × Draft
  | [] => ([], draft)
  | edit :: rest =>
      let performed := edit.perform draft
      let others := performAll performed.2 rest
      (performed.1 :: others.1, others.2)

def upserts (edits : List Edit) : List ReplicaParams :=
  edits.filterMap fun
    | .upsert params => some params
    | _ => none

def removals (edits : List Edit) : List ReplicaId :=
  edits.filterMap fun
    | .remove id => some id
    | _ => none

def answers (store : Store) (edits : List Edit) : List Answer :=
  (performAll (store.topology, store.parameters) edits).1

/-- The update that makes edits in one step, on the present state of a store. -/
def toUpdate (store : Store) (edits : List Edit) : Update where
  expected := store.sequence
  topology := some (performAll (store.topology, store.parameters) edits).2.1
  upserts := upserts edits
  removals := removals edits

end Edit

end ShardControl

import ShardControl.Program.Basic
import ShardControl.Store.Basic

/-!
# The store as seen by planners

Planners read the topology, the parameters or those of one replica, and
commit updates.  Each question is answered in one step, and the steps of
several planners may follow each other in any order.
-/

namespace ShardControl

inductive StoreCall where
  | topology
  | parameters
  | replicaParams (id : ReplicaId)
  | commit (update : Update)

namespace StoreCall

/-- Reads answer with what is stored, a commit with the new sequence. -/
def Value : StoreCall → Type
  | topology => Topology
  | parameters => Parameters
  | replicaParams _ => Option ReplicaParams
  | commit _ => UInt64

/-- The store may fail to answer. -/
abbrev Answer (call : StoreCall) : Type := Except MetadataError call.Value

end StoreCall

namespace Store

/-- Answer a question. Only a commit that succeeds changes the store. -/
def respond : (call : StoreCall) → Store → call.Answer × Store
  | .topology, store => (.ok store.topology, store)
  | .parameters, store => (.ok store.parameters, store)
  | .replicaParams id, store => (.ok (store.parameters.replica? id), store)
  | .commit update, store =>
      match store.commit update with
      | .ok changed => (.ok changed.sequence, changed)
      | .error reason => (.error reason, store)

end Store

end ShardControl

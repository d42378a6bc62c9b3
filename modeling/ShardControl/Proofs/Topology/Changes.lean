import ShardControl.Proofs.Topology.Members
import ShardControl.Topology.Change

/-!
# What changes come to

A change made in place either succeeds, with the one effect that it has on the
topology, or fails and leaves the topology as it was, whatever its steps have
written before.
-/

namespace ShardControl

variable {topology : Topology}

/-! ## Steps -/

namespace InPlace

variable {α β : Type}

@[simp] theorem on_pure (answer : α) (topology : Topology) :
    (pure answer : InPlace α).on topology = (.ok answer, topology) := rfl

@[simp] theorem on_throw (reason : TopologyError) (topology : Topology) :
    (throw reason : InPlace α).on topology = (.error reason, topology) := rfl

@[simp] theorem on_get (topology : Topology) :
    (get : InPlace Topology).on topology = (.ok topology, topology) := rfl

@[simp] theorem on_modify (change : Topology → Topology) (topology : Topology) :
    (modify change : InPlace Unit).on topology = (.ok (), change topology) := rfl

@[simp] theorem on_writeShard (shard : Shard) (topology : Topology) :
    (writeShard shard).on topology = (.ok (), topology.putShard shard) := rfl

/-- A step after one that fails is not made, but what was written stays. -/
@[simp] theorem on_bind (work : InPlace α) (next : α → InPlace β) (topology : Topology) :
    (work >>= next).on topology =
      match work.on topology with
      | (.ok answer, changed) => (next answer).on changed
      | (.error reason, changed) => (.error reason, changed) := by
  rw [on, ExceptT.run_bind, StateT.run_bind]
  generalize answered : work.on topology = done
  rw [show (ExceptT.run work).run topology = done from answered]
  obtain ⟨answer | reason, changed⟩ := done <;> rfl

@[simp] theorem on_map (answer : α → β) (work : InPlace α) (topology : Topology) :
    (answer <$> work).on topology = ((work.on topology).1.map answer, (work.on topology).2) := by
  rw [map_eq_pure_bind, on_bind]
  obtain ⟨_ | _, _⟩ := work.on topology <;> rfl

@[simp] theorem on_requireDatacenter (id : DatacenterId) (topology : Topology) :
    (requireDatacenter id).on topology =
      (if topology.datacenters.contains id then .ok () else .error (.unknownDatacenter id),
        topology) := by
  rw [requireDatacenter, on_bind, on_get]
  dsimp only
  split <;> rfl

@[simp] theorem on_requireStorageNode (id : StorageNodeId) (topology : Topology) :
    (requireStorageNode id).on topology =
      (if topology.storageNodes.contains id then .ok () else .error (.unknownStorageNode id),
        topology) := by
  rw [requireStorageNode, on_bind, on_get]
  dsimp only
  split <;> rfl

@[simp] theorem on_requireShard (id : ShardId) (topology : Topology) :
    (requireShard id).on topology =
      (match topology.shard? id with
        | some shard => .ok shard
        | none => .error (.unknownShard id),
        topology) := by
  rw [requireShard, on_bind, on_get]
  dsimp only
  cases topology.shard? id <;> rfl

theorem on_changeShard {id : ShardId} {shard : Shard} (present : topology.shard? id = some shard)
    (change : Shard → Shard) :
    (changeShard id change).on topology = (.ok (), topology.putShard (change shard)) := by
  rw [changeShard, on_modify, present]

theorem on_takeNumber {shard : Shard} (present : topology.shard? shard.id = some shard) :
    (takeNumber shard).on topology = (.ok shard.nextNum, topology.putShard shard.advance) := by
  rw [takeNumber, on_bind, on_changeShard present]
  rfl

/-- A shard that has given out a number is changed as if both were one step. -/
theorem on_changeShard_advance (topology : Topology) {shard : Shard} {change : Shard → Shard}
    (same : shard.id = (change shard.advance).id) :
    (changeShard shard.id change).on (topology.putShard shard.advance) =
      (.ok (), topology.putShard (change shard.advance)) := by
  have counted : (topology.putShard shard.advance).shard? shard.id = some shard.advance :=
    topology.shard?_putShard_self shard.advance
  have same : shard.advance.id = (change shard.advance).id := same
  rw [on_changeShard counted, topology.putShard_putShard same]

end InPlace

/-! ## Changes -/

/-- The answer to what is tried on a topology, and the topology after it; a failure changes
nothing. -/
def Topology.settle {α : Type} (topology : Topology) :
    Except TopologyError (α × Topology) → Except TopologyError α × Topology
  | .ok (answer, changed) => (.ok answer, changed)
  | .error reason => (.error reason, topology)

namespace InPlace

theorem on_addStorageNode (node : StorageNode) (topology : Topology) :
    (addStorageNode node).on topology =
      topology.settle ((topology.addStorageNode node).map fun changed => ((), changed)) := by
  rw [addStorageNode, Topology.addStorageNode]
  by_cases housed : topology.datacenters.contains node.datacenter = true
  · simp [housed, Topology.settle, Except.map]
  · simp [housed, Topology.settle, Except.map]

theorem on_addShard (id : ShardId) (topology : Topology) :
    (addShard id).on topology = topology.settle (.ok (topology.addShard id)) := by
  rw [addShard, Topology.addShard]
  cases found : topology.shard? id with
  | none => simp [found, Topology.settle, Except.map]
  | some shard => simp [found, Topology.settle]

theorem on_addReplica (id : ShardId) (node : StorageNodeId) (topology : Topology) :
    (addReplica id node).on topology = topology.settle (topology.addReplica id node) := by
  rw [addReplica, Topology.addReplica]
  by_cases listed : topology.storageNodes.contains node = true
  · cases found : topology.shard? id with
    | none => simp [listed, found, Topology.settle]
    | some shard =>
        have present : topology.shard? shard.id = some shard := by
          rw [(Topology.shard?_eq_some_iff.mp found).2, found]
        have added :
            (changeShard shard.id fun counted =>
              { counted with
                replicas := counted.replicas.insert ⟨⟨shard.id, shard.nextNum⟩, node⟩ }).on
              (topology.putShard shard.advance) =
            (.ok (), topology.putShard (shard.addReplica node).2) :=
          on_changeShard_advance topology rfl
        simp [listed, found, on_takeNumber present, added, Topology.settle, Except.map,
          Shard.addReplica]
  · simp [listed, Topology.settle]

theorem on_addArbiter (id : ShardId) (node : StorageNodeId) (topology : Topology) :
    (addArbiter id node).on topology = topology.settle (topology.addArbiter id node) := by
  rw [addArbiter, Topology.addArbiter]
  by_cases listed : topology.storageNodes.contains node = true
  · cases found : topology.shard? id with
    | none => simp [listed, found, Topology.settle]
    | some shard =>
        have present : topology.shard? shard.id = some shard := by
          rw [(Topology.shard?_eq_some_iff.mp found).2, found]
        have added :
            (changeShard shard.id fun counted =>
              { counted with
                arbiters := counted.arbiters.insert ⟨⟨shard.id, shard.nextNum⟩, node⟩ }).on
              (topology.putShard shard.advance) =
            (.ok (), topology.putShard (shard.addArbiter node).2) :=
          on_changeShard_advance topology rfl
        simp [listed, found, on_takeNumber present, added, Topology.settle, Except.map,
          Shard.addArbiter]
  · simp [listed, Topology.settle]

/-- A removal that finds no replica has written its shard as it was. -/
theorem on_removeReplica (id : ReplicaId) (topology : Topology) :
    (removeReplica id).on topology = topology.settle (topology.removeReplica id) := by
  rw [removeReplica, Topology.removeReplica]
  cases found : topology.shard? id.shard with
  | none => simp [found, Topology.settle]
  | some shard =>
      cases member : shard.replicas.find? id with
      | none =>
          have same := Shard.without_of_absent (KeyedMap.find?_eq_none_iff.mp member)
          have present : topology.shard? shard.id = some shard := by
            rw [(Topology.shard?_eq_some_iff.mp found).2, found]
          have written := Topology.putShard_of_present present
          rw [Shard.without] at same
          simp [found, member, Topology.settle, same, written]
      | some replica => simp [found, member, Topology.settle, Except.map]

end InPlace

namespace Change

/-- Made in place, a change has the effect of the attempt to make it, or none. -/
theorem perform_eq_settle (topology : Topology) (change : Change) :
    change.perform topology = topology.settle (change.attempt topology) := by
  cases change with
  | addDatacenter datacenter => rfl
  | addStorageNode node =>
      rw [perform, steps, InPlace.on_bind, InPlace.on_addStorageNode, attempt]
      cases topology.addStorageNode node <;> rfl
  | addShard id =>
      rw [perform, steps, InPlace.on_bind, InPlace.on_addShard, attempt]
      rfl
  | addReplica id node =>
      rw [perform, steps, InPlace.on_bind, InPlace.on_addReplica, attempt]
      cases topology.addReplica id node <;> rfl
  | addArbiter id node =>
      rw [perform, steps, InPlace.on_bind, InPlace.on_addArbiter, attempt]
      cases topology.addArbiter id node <;> rfl
  | removeReplica id =>
      rw [perform, steps, InPlace.on_bind, InPlace.on_removeReplica, attempt]
      cases topology.removeReplica id <;> rfl

theorem perform_of_error {change : Change} {reason : TopologyError}
    (refused : (change.perform topology).1 = .error reason) :
    (change.perform topology).2 = topology := by
  rw [perform_eq_settle] at refused ⊢
  cases attempted : change.attempt topology with
  | error => rfl
  | ok done =>
      rw [attempted] at refused
      cases refused

/-- What a change can come to: the answer, and the topology that it leaves. -/
inductive Effect (topology : Topology) :
    Change → Except TopologyError Answer → Topology → Prop where
  | refused {change : Change} (reason : TopologyError) :
      Effect topology change (.error reason) topology
  | datacenter (datacenter : Datacenter) :
      Effect topology (.addDatacenter datacenter) (.ok .done) (topology.addDatacenter datacenter)
  | storageNode {node : StorageNode}
      (housed : topology.datacenters.contains node.datacenter = true) :
      Effect topology (.addStorageNode node) (.ok .done)
        { topology with storageNodes := topology.storageNodes.insert node }
  | present {shard : Shard} (present : topology.shard? shard.id = some shard) :
      Effect topology (.addShard shard.id) (.ok (.shard shard)) topology
  | shard {id : ShardId} (absent : topology.shard? id = none) :
      Effect topology (.addShard id) (.ok (.shard (Shard.fresh id)))
        (topology.putShard (Shard.fresh id))
  | replica {shard : Shard} {node : StorageNodeId}
      (listed : topology.storageNodes.contains node = true)
      (present : topology.shard? shard.id = some shard) :
      Effect topology (.addReplica shard.id node) (.ok (.replica ⟨shard.id, shard.nextNum⟩))
        (topology.putShard (shard.addReplica node).2)
  | arbiter {shard : Shard} {node : StorageNodeId}
      (listed : topology.storageNodes.contains node = true)
      (present : topology.shard? shard.id = some shard) :
      Effect topology (.addArbiter shard.id node) (.ok (.arbiter ⟨shard.id, shard.nextNum⟩))
        (topology.putShard (shard.addArbiter node).2)
  | removal {shard : Shard} {id : ReplicaId} {replica : Replica} (named : shard.id = id.shard)
      (present : topology.shard? shard.id = some shard)
      (member : shard.replicas.find? id = some replica) :
      Effect topology (.removeReplica id) (.ok (.removed replica))
        (topology.putShard (shard.without id))

theorem effect_perform (topology : Topology) (change : Change) :
    Effect topology change (change.perform topology).1 (change.perform topology).2 := by
  rw [perform_eq_settle]
  cases change with
  | addDatacenter datacenter => exact .datacenter datacenter
  | addStorageNode node =>
      rw [attempt, Topology.addStorageNode]
      split
      · rename_i housed
        exact .storageNode housed
      · exact .refused _
  | addShard id =>
      rw [attempt, Topology.addShard]
      split
      · rename_i shard found
        obtain rfl := (Topology.shard?_eq_some_iff.mp found).2
        exact .present found
      · rename_i absent
        exact .shard absent
  | addReplica id node =>
      rw [attempt, Topology.addReplica]
      split
      · rename_i listed
        cases found : topology.shard? id with
        | none => exact .refused _
        | some shard =>
            obtain rfl := (Topology.shard?_eq_some_iff.mp found).2
            exact .replica listed found
      · exact .refused _
  | addArbiter id node =>
      rw [attempt, Topology.addArbiter]
      split
      · rename_i listed
        cases found : topology.shard? id with
        | none => exact .refused _
        | some shard =>
            obtain rfl := (Topology.shard?_eq_some_iff.mp found).2
            exact .arbiter listed found
      · exact .refused _
  | removeReplica id =>
      rw [attempt, Topology.removeReplica]
      cases found : topology.shard? id.shard with
      | none => exact .refused _
      | some shard =>
          have named := (Topology.shard?_eq_some_iff.mp found).2
          have present : topology.shard? shard.id = some shard := by rw [named, found]
          dsimp only
          cases member : shard.replicas.find? id with
          | none => exact .refused _
          | some replica => exact .removal named present member

/-! ## Runs -/

theorem performAll_append_singleton (topology : Topology) (changes : List Change)
    (change : Change) :
    performAll topology (changes ++ [change]) =
      (change.perform (performAll topology changes)).2 :=
  List.foldl_concat ..

end Change

end ShardControl

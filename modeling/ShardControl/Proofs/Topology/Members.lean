import ShardControl.Proofs.KeyedMap.Equality
import ShardControl.Topology.Basic

/-!
# Members of a topology

Who is a member after a change: a new replica comes in under the next number
of its shard, a removed one goes, and the members of other shards stay.
-/

namespace ShardControl

namespace Shard

def nextReplica (shard : Shard) : ReplicaId := ⟨shard.id, shard.nextNum⟩

@[simp] theorem id_addReplica (shard : Shard) (node : StorageNodeId) :
    (shard.addReplica node).2.id = shard.id := rfl

@[simp] theorem nextNum_addReplica (shard : Shard) (node : StorageNodeId) :
    (shard.addReplica node).2.nextNum = Word.succSat shard.nextNum := rfl

def without (shard : Shard) (id : ReplicaId) : Shard :=
  { shard with replicas := shard.replicas.erase id }

@[simp] theorem id_without (shard : Shard) (id : ReplicaId) : (shard.without id).id = shard.id :=
  rfl

theorem mem_without_iff {shard : Shard} {id : ReplicaId} {replica : Replica} :
    replica ∈ (shard.without id).replicas.toList ↔
      replica ∈ shard.replicas.toList ∧ replica.id ≠ id :=
  KeyedMap.mem_erase_iff

theorem mem_addReplica_iff {shard : Shard} {node : StorageNodeId} {replica : Replica} :
    replica ∈ (shard.addReplica node).2.replicas.toList ↔
      replica = ⟨shard.nextReplica, node⟩ ∨
        replica ∈ shard.replicas.toList ∧ replica.id ≠ shard.nextReplica :=
  KeyedMap.mem_insert_iff

theorem mem_addArbiter_iff {shard : Shard} {node : StorageNodeId} {arbiter : Arbiter} :
    arbiter ∈ (shard.addArbiter node).2.arbiters.toList ↔
      arbiter = ⟨⟨shard.id, shard.nextNum⟩, node⟩ ∨
        arbiter ∈ shard.arbiters.toList ∧ arbiter.id ≠ ⟨shard.id, shard.nextNum⟩ :=
  KeyedMap.mem_insert_iff

theorem without_of_absent {shard : Shard} {id : ReplicaId}
    (absent : ∀ replica ∈ shard.replicas.toList, replica.id ≠ id) : shard.without id = shard := by
  have kept : shard.replicas.erase id = shard.replicas := by
    refine KeyedMap.ext_mem fun replica => ?_
    rw [KeyedMap.mem_erase_iff]
    exact ⟨fun member => member.1, fun member => ⟨member, absent replica member⟩⟩
  rw [without, kept]

theorem replicaOn_eq_some {shard : Shard} {node : StorageNodeId} {replica : Replica}
    (found : shard.replicaOn node = some replica) :
    replica ∈ shard.replicas.toList ∧ replica.storageNode = node := by
  have searched :
      shard.replicas.toList.find? (fun replica => replica.storageNode = node) = some replica :=
    found
  exact ⟨List.mem_of_find?_eq_some searched, by simpa using List.find?_some searched⟩

theorem replicaOn_eq_none_iff {shard : Shard} {node : StorageNodeId} :
    shard.replicaOn node = none ↔
      ∀ replica ∈ shard.replicas.toList, replica.storageNode ≠ node := by
  rw [replicaOn, List.find?_eq_none]
  simp only [decide_eq_true_eq, ne_eq]

/-- A replica that comes to a storage node without one is the one that is found there. -/
theorem replicaOn_addReplica {shard : Shard} {node : StorageNodeId}
    (absent : shard.replicaOn node = none) :
    (shard.addReplica node).2.replicaOn node = some ⟨shard.nextReplica, node⟩ := by
  cases found : (shard.addReplica node).2.replicaOn node with
  | none =>
      have none := replicaOn_eq_none_iff.mp found ⟨shard.nextReplica, node⟩
        (mem_addReplica_iff.mpr (.inl rfl))
      exact absurd rfl none
  | some replica =>
      obtain ⟨member, here⟩ := replicaOn_eq_some found
      rcases mem_addReplica_iff.mp member with rfl | ⟨old, _⟩
      · rfl
      · exact absurd here (replicaOn_eq_none_iff.mp absent replica old)

end Shard

namespace Topology

@[simp] theorem replicas_withSequence (topology : Topology) (sequence : UInt64) :
    (topology.withSequence sequence).replicas = topology.replicas := rfl

theorem shard?_eq_some_iff {topology : Topology} {id : ShardId} {shard : Shard} :
    topology.shard? id = some shard ↔ shard ∈ topology.shards.toList ∧ shard.id = id :=
  KeyedMap.find?_eq_some_iff

theorem shard?_putShard (topology : Topology) (shard : Shard) (id : ShardId) :
    (topology.putShard shard).shard? id =
      if shard.id = id then some shard else topology.shard? id :=
  KeyedMap.find?_insert topology.shards shard id

theorem shard?_putShard_self (topology : Topology) (shard : Shard) :
    (topology.putShard shard).shard? shard.id = some shard :=
  (shard?_putShard topology shard shard.id).trans (if_pos rfl)

theorem mem_putShard_iff {topology : Topology} {shard other : Shard} :
    other ∈ (topology.putShard shard).shards.toList ↔
      other = shard ∨ other ∈ topology.shards.toList ∧ other.id ≠ shard.id :=
  KeyedMap.mem_insert_iff

theorem putShard_putShard (topology : Topology) {first second : Shard}
    (same : first.id = second.id) :
    (topology.putShard first).putShard second = topology.putShard second :=
  congrArg (fun shards => { topology with shards := shards })
    (KeyedMap.insert_insert topology.shards same)

/-- Writing a shard that is there changes nothing. -/
theorem putShard_of_present {topology : Topology} {shard : Shard}
    (present : topology.shard? shard.id = some shard) : topology.putShard shard = topology := by
  have member := (shard?_eq_some_iff.mp present).1
  rw [putShard, KeyedMap.insert_of_mem member]

theorem mem_replicas_iff {topology : Topology} {replica : Replica} :
    replica ∈ topology.replicas ↔
      ∃ shard ∈ topology.shards.toList, replica ∈ shard.replicas.toList :=
  List.mem_flatMap

theorem replica?_eq_some {topology : Topology} {id : ReplicaId} {replica : Replica}
    (found : topology.replica? id = some replica) :
    ∃ shard ∈ topology.shards.toList, replica ∈ shard.replicas.toList ∧
      shard.id = id.shard ∧ replica.id = id := by
  rw [replica?] at found
  obtain ⟨shard, shardFound, replicaFound⟩ := Option.bind_eq_some_iff.mp found
  obtain ⟨inTopology, sameShard⟩ := shard?_eq_some_iff.mp shardFound
  obtain ⟨inShard, sameId⟩ := KeyedMap.find?_eq_some_iff.mp replicaFound
  exact ⟨shard, inTopology, inShard, sameShard, sameId⟩

/-- A member of the shard that its id names is found by its id. -/
theorem replica?_of_mem {topology : Topology} {shard : Shard} {replica : Replica}
    (inTopology : shard ∈ topology.shards.toList) (inShard : replica ∈ shard.replicas.toList)
    (own : replica.id.shard = shard.id) : topology.replica? replica.id = some replica := by
  have shardFound : topology.shard? replica.id.shard = some shard :=
    shard?_eq_some_iff.mpr ⟨inTopology, own.symm⟩
  rw [replica?, shardFound]
  exact KeyedMap.find?_eq_some_iff.mpr ⟨inShard, rfl⟩

/-- Where members carry numbers that their shards have given out, later numbers are not in use. -/
theorem id_ne_of_issued {topology : Topology} {shard : Shard} {num : UInt32} {replica : Replica}
    (issued : ∀ other ∈ topology.shards.toList, ∀ replica ∈ other.replicas.toList,
      replica.id.shard = other.id ∧ replica.id.num < other.nextNum)
    (found : topology.shard? shard.id = some shard) (later : shard.nextNum ≤ num)
    (member : replica ∈ topology.replicas) : replica.id ≠ ⟨shard.id, num⟩ := by
  intro same
  obtain ⟨other, inTopology, inOther⟩ := mem_replicas_iff.mp member
  obtain ⟨own, below⟩ := issued other inTopology replica inOther
  rw [same] at own below
  have inShard := (shard?_eq_some_iff.mp found).1
  obtain rfl : shard = other := KeyedMap.eq_of_key_eq inShard inTopology own
  exact UInt32.not_lt.mpr later below

theorem datacenterOf_eq_ok_iff {topology : Topology} {node : StorageNodeId}
    {datacenter : Datacenter} :
    topology.datacenterOf node = .ok datacenter ↔
      ∃ found, topology.storageNode? node = some found ∧
        topology.datacenter? found.datacenter = some datacenter := by
  rw [datacenterOf]
  cases topology.storageNode? node with
  | none => simp
  | some found =>
      simp only [Option.some.injEq, exists_eq_left']
      cases topology.datacenter? found.datacenter <;> simp

theorem addReplica_of_listed {topology : Topology} {shard : Shard} {node : StorageNodeId}
    (listed : topology.storageNodes.contains node = true)
    (present : topology.shard? shard.id = some shard) :
    topology.addReplica shard.id node =
      .ok (shard.nextReplica, topology.putShard (shard.addReplica node).2) := by
  rw [addReplica, if_pos listed, present]
  rfl

theorem addReplica_eq_ok {topology grown : Topology} {id : ShardId} {node : StorageNodeId}
    {replica : ReplicaId} (added : topology.addReplica id node = .ok (replica, grown)) :
    topology.storageNodes.contains node = true ∧
      ∃ shard, topology.shard? id = some shard ∧ replica = shard.nextReplica ∧
        grown = topology.putShard (shard.addReplica node).2 := by
  rw [addReplica] at added
  split at added
  · rename_i present
    split at added
    · cases added
    · rename_i shard found
      cases added
      exact ⟨present, shard, found, rfl, rfl⟩
  · cases added

theorem removeReplica_eq_ok {topology left : Topology} {id : ReplicaId} {replica : Replica}
    (removed : topology.removeReplica id = .ok (replica, left)) :
    ∃ shard, topology.shard? id.shard = some shard ∧
      left = topology.putShard (shard.without id) := by
  rw [removeReplica] at removed
  split at removed
  · cases removed
  · rename_i shard found
    split at removed
    · cases removed
    · cases removed
      exact ⟨shard, found, rfl⟩

end Topology

end ShardControl

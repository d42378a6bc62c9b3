import ShardControl.Proofs.Deploy.Draft
import ShardControl.Proofs.KeyedMap.Equality
import ShardControl.Proofs.Topology.Orderly

/-!
# Drafts under other numbers

The number that a shard gives out next decides on the id of a new replica, and
on nothing else: as long as no member and no parameters carry either number,
the drafts for two numbers agree in port, helpers and size.
-/

namespace ShardControl

def Shard.numbered (shard : Shard) (num : UInt32) : Shard := { shard with nextNum := num }

/-- The members of the shard carry its id and numbers below. -/
def Shard.Below (shard : Shard) (num : UInt32) : Prop :=
  ∀ replica ∈ shard.replicas.toList, replica.id.shard = shard.id ∧ replica.id.num < num

instance (shard : Shard) (num : UInt32) : Decidable (shard.Below num) :=
  inferInstanceAs (Decidable (∀ replica ∈ shard.replicas.toList, _))

theorem ReplicaId.lt_of_num_lt {first second : ReplicaId} (shards : first.shard = second.shard)
    (below : first.num < second.num) : first < second := by
  change first.rank < second.rank
  rw [rank, rank, shards]
  exact Nat.add_lt_add_left (UInt32.lt_iff_toNat_lt.mp below) _

theorem Shard.replicas_addReplica {shard : Shard} {num : UInt32} (below : shard.Below num)
    (node : StorageNodeId) : ((shard.numbered num).addReplica node).2.replicas.toList =
      shard.replicas.toList ++ [⟨⟨shard.id, num⟩, node⟩] := by
  refine KeyedMap.toList_insert_of_above fun replica member => ?_
  obtain ⟨own, less⟩ := below replica member
  exact ReplicaId.lt_of_num_lt own less

namespace Topology

variable {topology : Topology} {shard : Shard} {node : StorageNodeId}

def grown (topology : Topology) (shard : Shard) (node : StorageNodeId) (num : UInt32) : Topology :=
  topology.putShard ((shard.numbered num).addReplica node).2

theorem addReplica_numbered (shard : Shard)
    (listed : topology.storageNodes.contains node = true) (num : UInt32) (sequence : UInt64) :
    ((topology.putShard (shard.numbered num)).withSequence sequence).addReplica shard.id node =
      .ok (⟨shard.id, num⟩, (topology.grown shard node num).withSequence sequence) := by
  let renumbered := (topology.putShard (shard.numbered num)).withSequence sequence
  have same : (shard.numbered num).id = ((shard.numbered num).addReplica node).2.id := rfl
  have stillListed : renumbered.storageNodes.contains node = true := listed
  have found : renumbered.shard? shard.id = some (shard.numbered num) :=
    shard?_putShard_self topology (shard.numbered num)
  have regrown : renumbered.putShard ((shard.numbered num).addReplica node).2 =
      (topology.grown shard node num).withSequence sequence :=
    congrArg (withSequence · sequence) (putShard_putShard topology same)
  change renumbered.addReplica shard.id node = _
  rw [addReplica, if_pos stillListed, found]
  exact congrArg (fun grown => Except.ok (ReplicaId.mk shard.id num, grown)) regrown

/-- The shards around the grown one are the same, whatever the number. -/
theorem exists_shards_grown (topology : Topology) (shard : Shard) (node : StorageNodeId) :
    ∃ before after, ∀ num, (topology.grown shard node num).shards.toList =
      before ++ ((shard.numbered num).addReplica node).2 :: after := by
  obtain ⟨before, after, placed⟩ := KeyedMap.exists_toList_insert topology.shards shard.id
  exact ⟨before, after, fun num => placed ((shard.numbered num).addReplica node).2 rfl⟩

theorem exists_replicas_grown (topology : Topology) (shard : Shard) (node : StorageNodeId) :
    ∃ before after, ∀ num, shard.Below num →
      (topology.grown shard node num).replicas = before ++ ⟨⟨shard.id, num⟩, node⟩ :: after := by
  obtain ⟨before, after, placed⟩ := exists_shards_grown topology shard node
  refine ⟨before.flatMap (fun shard => shard.replicas.toList) ++ shard.replicas.toList,
    after.flatMap (fun shard => shard.replicas.toList), fun num below => ?_⟩
  rw [replicas, placed, List.flatMap_append, List.flatMap_cons, Shard.replicas_addReplica below]
  simp only [List.append_assoc, List.cons_append, List.nil_append]

theorem exists_arbiters_grown (topology : Topology) (shard : Shard) (node : StorageNodeId) :
    ∃ members, ∀ num, (topology.grown shard node num).arbiters = members := by
  obtain ⟨before, after, placed⟩ := exists_shards_grown topology shard node
  refine ⟨(before ++ shard :: after).flatMap fun shard => shard.arbiters.toList, fun num => ?_⟩
  rw [arbiters, placed, List.flatMap_append, List.flatMap_append]
  rfl

theorem exists_hostedReplicas_grown (topology : Topology) (shard : Shard)
    (node place : StorageNodeId) :
    ∃ before after, ∀ num, shard.Below num →
      (topology.grown shard node num).hostedReplicas place =
        before ++ (if node = place then [⟨shard.id, num⟩] else []) ++ after := by
  obtain ⟨before, after, members⟩ := exists_replicas_grown topology shard node
  let hosted (replicas : List Replica) : List ReplicaId :=
    (replicas.filter fun replica => replica.storageNode = place).map Replica.id
  refine ⟨hosted before, hosted after, fun num below => ?_⟩
  rw [hostedReplicas, members num below]
  by_cases here : node = place <;> simp [hosted, here]

variable {first second : UInt32}

theorem length_hostedReplicas_grown (firstBelow : shard.Below first)
    (secondBelow : shard.Below second) (place : StorageNodeId) :
    ((topology.grown shard node first).hostedReplicas place).length =
      ((topology.grown shard node second).hostedReplicas place).length := by
  obtain ⟨before, after, hosted⟩ := exists_hostedReplicas_grown topology shard node place
  rw [hosted first firstBelow, hosted second secondBelow]
  split <;> simp

end Topology

/-- The ports of a storage node are the same under both numbers. -/
theorem PortUse.ofStorageNode_grown {topology : Topology} {shard : Shard} {node : StorageNodeId}
    {first second : UInt32} {parameters : Parameters} (firstBelow : shard.Below first)
    (secondBelow : shard.Below second)
    (firstFree : parameters.replica? ⟨shard.id, first⟩ = none)
    (secondFree : parameters.replica? ⟨shard.id, second⟩ = none) (place : StorageNodeId) :
    ofStorageNode (topology.grown shard node first) parameters place =
      ofStorageNode (topology.grown shard node second) parameters place := by
  obtain ⟨before, after, hosted⟩ :=
    Topology.exists_hostedReplicas_grown topology shard node place
  -- The new replica has no parameters, so it holds no port under either number.
  have held {num : UInt32} (below : shard.Below num)
      (free : parameters.replica? ⟨shard.id, num⟩ = none) :
      ((topology.grown shard node num).hostedReplicas place).filterMap parameters.replica? =
        before.filterMap parameters.replica? ++ after.filterMap parameters.replica? := by
    rw [hosted num below]
    split <;> simp [free]
  rw [ofStorageNode, held firstBelow firstFree, ofStorageNode, held secondBelow secondFree]

theorem PortLedger.ofTopology_grown {topology : Topology} {shard : Shard} {node : StorageNodeId}
    {first second : UInt32} {parameters : Parameters} (firstBelow : shard.Below first)
    (secondBelow : shard.Below second)
    (firstFree : parameters.replica? ⟨shard.id, first⟩ = none)
    (secondFree : parameters.replica? ⟨shard.id, second⟩ = none) :
    ofTopology (topology.grown shard node first) parameters =
      ofTopology (topology.grown shard node second) parameters :=
  congrArg KeyedMap.ofList <| List.map_congr_left fun place _ =>
    PortUse.ofStorageNode_grown firstBelow secondBelow firstFree secondFree place.id

namespace Draft

variable {topology : Topology} {parameters : Parameters} {shard : Shard} {node : StorageNodeId}
  {directory : Option StorageDirectory} {draft : Draft} {first second : UInt32}

theorem size_grown (firstBelow : shard.Below first) (secondBelow : shard.Below second)
    (parameters : Parameters) (host : StorageNodeParams) :
    size (topology.grown shard node first) parameters host =
      size (topology.grown shard node second) parameters host := by
  obtain ⟨members, arbiters⟩ := Topology.exists_arbiters_grown topology shard node
  rw [size, size, Topology.length_hostedReplicas_grown firstBelow secondBelow,
    Topology.hostedArbiters, Topology.hostedArbiters, arbiters, arbiters]

/-- A draft for a later number of the shard is the same but for the number. -/
theorem ofNewReplica_numbered (present : topology.shard? shard.id = some shard)
    (made : ofNewReplica topology parameters shard node directory = .ok draft)
    (below : shard.Below shard.nextNum) (later : shard.Below second)
    (free : parameters.replica? ⟨shard.id, shard.nextNum⟩ = none)
    (laterFree : parameters.replica? ⟨shard.id, second⟩ = none) (sequence : UInt64)
    (other : Option StorageDirectory) :
    ofNewReplica ((topology.putShard (shard.numbered second)).withSequence sequence) parameters
        (shard.numbered second) node other =
      .ok ⟨(topology.grown shard node second).withSequence sequence,
        { draft.params with id := ⟨shard.id, second⟩, directory := other }⟩ := by
  obtain ⟨host, datacenter, peers, ⟨id, grown⟩, given, hostFound, hosted, helped, electable, grew,
    gave, rfl⟩ := ofNewReplica_eq_ok_iff.mp made
  obtain ⟨listed, _, found, rfl, rfl⟩ := Topology.addReplica_eq_ok grew
  cases present.symm.trans found
  have numbered := Topology.addReplica_numbered shard listed second sequence
  have ports : PortLedger.ofTopology ((topology.grown shard node second).withSequence sequence)
      parameters = PortLedger.ofTopology (topology.grown shard node shard.nextNum) parameters :=
    PortLedger.ofTopology_grown later below laterFree free
  have sizes : size ((topology.grown shard node second).withSequence sequence) parameters host =
      size (topology.grown shard node shard.nextNum) parameters host :=
    size_grown later below parameters host
  refine ofNewReplica_eq_ok_iff.mpr ⟨host, datacenter, peers, _, given, hostFound, hosted, helped,
    electable, numbered, ports ▸ gave, ?_⟩
  rw [newParams, newParams, sizes]
  rfl

end Draft

end ShardControl

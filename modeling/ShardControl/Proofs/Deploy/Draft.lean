import ShardControl.Deploy.Draft
import ShardControl.Proofs.Port.Ledger
import ShardControl.Proofs.Topology.Members

/-!
# What a draft adds

A draft grows the topology by one replica, under the next number of its shard,
and puts it on a port of its storage node that no replica there holds.
-/

namespace ShardControl

namespace Draft

/-- The draft adds one replica of a shard on a storage node, and nothing else. -/
structure Grows (draft : Draft) (topology : Topology) (parameters : Parameters) (shard : Shard)
    (node : StorageNodeId) : Prop where
  listed : topology.storageNodes.contains node = true
  topology_eq : draft.topology = topology.putShard (shard.addReplica node).2
  id_eq : draft.params.id = shard.nextReplica
  storageNode_eq : draft.params.storageNode = node
  inRange : ∃ host, parameters.storageNode? node = some host ∧
    host.haPorts.contains draft.params.haPort = true
  free : ∀ id ∈ draft.topology.hostedReplicas node, ∀ params,
    parameters.replica? id = some params → params.haPort ≠ draft.params.haPort

/-- Where the error is only renamed, the value stays. -/
theorem mapError_eq_ok_iff {ε δ α : Type} {rename : ε → δ} {answer : Except ε α} {value : α} :
    answer.mapError rename = .ok value ↔ answer = .ok value := by
  cases answer with
  | error reason =>
      constructor
      · intro impossible
        cases impossible
      · intro impossible
        cases impossible
  | ok other =>
      exact ⟨fun same => congrArg _ (Except.ok.inj same),
        fun same => congrArg _ (Except.ok.inj same)⟩

/-- All that goes into a draft, step by step. -/
theorem ofNewReplica_eq_ok_iff {topology : Topology} {parameters : Parameters} {shard : Shard}
    {node : StorageNodeId} {directory : Option StorageDirectory} {draft : Draft} :
    ofNewReplica topology parameters shard node directory = .ok draft ↔
    ∃ host datacenter peers added given, parameters.storageNode? node = some host ∧
      topology.datacenterOf node = .ok datacenter ∧
      helpers parameters shard.replicas.toList = .ok peers ∧
      (peers.isEmpty && !datacenter.replicaType.isElectable) = false ∧
      topology.addReplica shard.id node = .ok added ∧
      (PortLedger.ofTopology added.2 parameters).next node = .ok given ∧
      draft = ⟨added.2, newParams added.2 parameters host added.1 node given.1
        datacenter.replicaType peers directory⟩ := by
  constructor
  · intro made
    simp only [ofNewReplica, bind, Except.bind, pure, Except.pure] at made
    split at made
    · rename_i host hostFound
      split at made
      · cases made
      · rename_i datacenter hosted
        split at made
        · cases made
        · rename_i peers helped
          split at made
          · cases made
          · rename_i electable
            split at made
            · cases made
            · rename_i added grew
              split at made
              · cases made
              · rename_i given gave
                exact ⟨host, datacenter, peers, added, given, hostFound,
                  mapError_eq_ok_iff.mp hosted, helped, Bool.eq_false_iff.mpr electable,
                  mapError_eq_ok_iff.mp grew, mapError_eq_ok_iff.mp gave,
                  (Except.ok.inj made).symm⟩
    · cases made
  · rintro ⟨host, datacenter, peers, added, given, hostFound, hosted, helped, electable, grew, gave,
      rfl⟩
    simp only [ofNewReplica, hostFound, mapError_eq_ok_iff.mpr hosted, helped, electable,
      mapError_eq_ok_iff.mpr grew, mapError_eq_ok_iff.mpr gave, bind, Except.bind]
    rfl

theorem grows_of_ofNewReplica {topology : Topology} {parameters : Parameters} {shard : Shard}
    {node : StorageNodeId} {directory : Option StorageDirectory} {draft : Draft}
    (found : topology.shard? shard.id = some shard)
    (made : ofNewReplica topology parameters shard node directory = .ok draft) :
    draft.Grows topology parameters shard node := by
  obtain ⟨host, _, peers, ⟨id, grown⟩, ⟨port, ledger⟩, _, _, _, _, added, given, rfl⟩ :=
    ofNewReplica_eq_ok_iff.mp made
  obtain ⟨listed, other, otherFound, rfl, rfl⟩ := Topology.addReplica_eq_ok added
  rw [found] at otherFound
  cases otherFound
  obtain ⟨ranged, rangedFound, inRange, free⟩ := PortLedger.next_eq_ok given
  exact {
    listed := listed
    topology_eq := rfl
    id_eq := rfl
    storageNode_eq := rfl
    inRange := ⟨ranged, rangedFound, inRange⟩
    free := free }

/-! ## The replica of a draft -/

theorem helpers_congr {parameters other : Parameters} {replicas : List Replica}
    (same : ∀ replica ∈ replicas, parameters.replica? replica.id = other.replica? replica.id) :
    helpers parameters replicas = helpers other replicas := by
  induction replicas with
  | nil => rfl
  | cons replica rest ih =>
      obtain ⟨first, later⟩ := List.forall_mem_cons.mp same
      rw [helpers, helpers, first, ih later]

/-- The replica that is drafted, step by step. -/
theorem map_params_ofNewReplica (topology : Topology) (parameters : Parameters)
    (shard : Shard) (node : StorageNodeId) (directory : Option StorageDirectory) :
    (ofNewReplica topology parameters shard node directory).map params =
      match parameters.storageNode? node with
      | none => .error (.missingStorageNodeParams node)
      | some host =>
          ((topology.datacenterOf node).mapError .topology).bind fun datacenter =>
          (helpers parameters shard.replicas.toList).bind fun peers =>
          if peers.isEmpty && !datacenter.replicaType.isElectable then
            .error (.notElectable shard.id node)
          else
            ((topology.addReplica shard.id node).mapError .topology).bind fun added =>
            ((((PortLedger.ofTopology added.2 parameters).next node).map Prod.fst).mapError
              .port).map fun port =>
                newParams added.2 parameters host added.1 node port datacenter.replicaType peers
                  directory := by
  simp only [ofNewReplica, bind, Except.bind, pure, Except.pure]
  cases parameters.storageNode? node with
  | none => rfl
  | some host =>
      cases topology.datacenterOf node with
      | error reason => rfl
      | ok datacenter =>
          cases helpers parameters shard.replicas.toList with
          | error reason => rfl
          | ok peers =>
              dsimp only [Except.mapError]
              split
              · rfl
              · cases topology.addReplica shard.id node with
                | error reason => rfl
                | ok added =>
                    dsimp only
                    cases (PortLedger.ofTopology added.2 parameters).next node with
                    | error reason => rfl
                    | ok given => rfl

end Draft

end ShardControl

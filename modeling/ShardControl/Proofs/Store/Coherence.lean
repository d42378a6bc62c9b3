import ShardControl.Proofs.Deploy.Draft
import ShardControl.Proofs.Store.Commit
import ShardControl.Proofs.Topology.Orderly
import ShardControl.Repair.Check

/-!
# Coherent stores

In a coherent store topology and parameters name the same replicas on the same
storage nodes, and no two replicas share a port.  Every update that a planner
works out from the very store that it commits to keeps a store coherent.
-/

namespace ShardControl

namespace Store

/-- The topology has the replica, and the parameters describe it. -/
def Lists (store : Store) (replica : Replica) (params : ReplicaParams) : Prop :=
  replica ∈ store.topology.replicas ∧ store.parameters.replica? replica.id = some params

structure Coherent (store : Store) : Prop where
  /-- A shard has one replica on a storage node at most, and members know their shard. -/
  orderly : store.topology.Orderly
  /-- The replicas of the topology are those that have parameters. -/
  stored : ∀ id, (∃ params, store.parameters.replica? id = some params) ↔
    ∃ replica ∈ store.topology.replicas, replica.id = id
  /-- Parameters name the storage node that the topology places the replica on. -/
  placed : ∀ replica params, store.Lists replica params →
    params.storageNode = replica.storageNode
  /-- The replicas of one storage node have different ports. -/
  apart : ∀ first firstParams second secondParams,
    store.Lists first firstParams → store.Lists second secondParams →
      first.storageNode = second.storageNode → firstParams.haPort = secondParams.haPort →
        first = second
  /-- Each port is in the range of its storage node. -/
  inRange : ∀ replica params, store.Lists replica params →
    ∃ host, store.parameters.storageNode? replica.storageNode = some host ∧
      host.haPorts.contains params.haPort = true

/-! ## A new replica -/

section Founding

variable {store : Store} {shard : Shard} {node : StorageNodeId} {draft : Draft} {expected : UInt64}

def found (store : Store) (expected : UInt64) (draft : Draft) : Store :=
  store.apply ⟨expected, some draft.topology, [draft.params], []⟩

@[simp] theorem parameters_found :
    (store.found expected draft).parameters = store.parameters.putReplica draft.params := rfl

theorem topology_found (grows : draft.Grows store.topology store.parameters shard node) :
    (store.found expected draft).topology =
      (store.topology.putShard (shard.addReplica node).2).withSequence (store.sequence + 1) :=
  congrArg (Topology.withSequence · (store.sequence + 1)) grows.topology_eq

theorem mem_replicas_found (coherent : store.Coherent)
    (present : store.topology.shard? shard.id = some shard)
    (grows : draft.Grows store.topology store.parameters shard node) {replica : Replica} :
    replica ∈ (store.found expected draft).topology.replicas ↔
      replica = ⟨shard.nextReplica, node⟩ ∨ replica ∈ store.topology.replicas := by
  rw [topology_found grows, Topology.replicas_withSequence]
  exact coherent.orderly.mem_grown_iff present

theorem replica?_found (grows : draft.Grows store.topology store.parameters shard node)
    (id : ReplicaId) :
    (store.found expected draft).parameters.replica? id =
      if shard.nextReplica = id then some draft.params else store.parameters.replica? id := by
  rw [parameters_found, Parameters.replica?_putReplica, grows.id_eq]

/-- The new replica comes to those that were listed. -/
theorem lists_found_iff (coherent : store.Coherent)
    (present : store.topology.shard? shard.id = some shard)
    (grows : draft.Grows store.topology store.parameters shard node) {replica : Replica}
    {params : ReplicaParams} :
    (store.found expected draft).Lists replica params ↔
      replica = ⟨shard.nextReplica, node⟩ ∧ params = draft.params ∨
        store.Lists replica params := by
  have unused := coherent.orderly.nextReplica_absent present
  rw [Lists, Lists, mem_replicas_found coherent present grows, replica?_found grows]
  constructor
  · rintro ⟨rfl | old, stored⟩
    · rw [if_pos rfl] at stored
      exact .inl ⟨rfl, (Option.some.inj stored).symm⟩
    · rw [if_neg (unused replica old).symm] at stored
      exact .inr ⟨old, stored⟩
  · rintro (⟨rfl, rfl⟩ | ⟨old, stored⟩)
    · exact ⟨.inl rfl, if_pos rfl⟩
    · rw [if_neg (unused replica old).symm]
      exact ⟨.inr old, stored⟩

/-- No replica on the storage node of a draft holds the port of the draft. -/
theorem Lists.haPort_ne (coherent : store.Coherent)
    (present : store.topology.shard? shard.id = some shard)
    (grows : draft.Grows store.topology store.parameters shard node) {replica : Replica}
    {params : ReplicaParams} (listed : store.Lists replica params)
    (here : replica.storageNode = node) : params.haPort ≠ draft.params.haPort := by
  refine grows.free replica.id ?_ params listed.2
  refine List.mem_map.mpr ⟨replica, List.mem_filter.mpr ⟨?_, decide_eq_true here⟩, rfl⟩
  rw [grows.topology_eq]
  exact (coherent.orderly.mem_grown_iff present).mpr (.inr listed.1)

theorem Coherent.found (coherent : store.Coherent)
    (present : store.topology.shard? shard.id = some shard)
    (room : shard.nextNum.toNat < UInt32.size - 1) (absent : shard.replicaOn node = none)
    (grows : draft.Grows store.topology store.parameters shard node) (expected : UInt64) :
    (store.found expected draft).Coherent := by
  refine ⟨?_, ?_, ?_, ?_, ?_⟩
  · rw [topology_found grows]
    exact (coherent.orderly.grown present room absent).withSequence _
  · intro id
    rw [replica?_found grows]
    by_cases same : shard.nextReplica = id
    · rw [if_pos same]
      refine ⟨fun _ => ⟨⟨shard.nextReplica, node⟩, ?_, same⟩, fun _ => ⟨_, rfl⟩⟩
      exact (mem_replicas_found coherent present grows).mpr (.inl rfl)
    · rw [if_neg same, coherent.stored id]
      constructor
      · rintro ⟨replica, old, named⟩
        exact ⟨replica, (mem_replicas_found coherent present grows).mpr (.inr old), named⟩
      · rintro ⟨replica, member, named⟩
        rcases (mem_replicas_found coherent present grows).mp member with rfl | old
        · exact absurd named same
        · exact ⟨replica, old, named⟩
  · intro replica params listed
    rcases (lists_found_iff coherent present grows).mp listed with ⟨rfl, rfl⟩ | old
    · exact grows.storageNode_eq
    · exact coherent.placed replica params old
  · intro first firstParams second secondParams firstListed secondListed same port
    rcases (lists_found_iff coherent present grows).mp firstListed with ⟨rfl, rfl⟩ | oldFirst
    · rcases (lists_found_iff coherent present grows).mp secondListed with ⟨rfl, rfl⟩ | oldSecond
      · rfl
      · exact absurd port.symm (oldSecond.haPort_ne coherent present grows same.symm)
    · rcases (lists_found_iff coherent present grows).mp secondListed with ⟨rfl, rfl⟩ | oldSecond
      · exact absurd port (oldFirst.haPort_ne coherent present grows same)
      · exact coherent.apart first firstParams second secondParams oldFirst oldSecond same port
  · intro replica params listed
    rcases (lists_found_iff coherent present grows).mp listed with ⟨rfl, rfl⟩ | old
    · exact grows.inRange
    · exact coherent.inRange replica params old

end Founding

/-! ## A replica taken out -/

section Removal

variable {store : Store} {shard : Shard} {id : ReplicaId} {cleared : Topology} {expected : UInt64}

def remove (store : Store) (expected : UInt64) (cleared : Topology) (id : ReplicaId) : Store :=
  store.apply ⟨expected, some cleared, [], [id]⟩

theorem lists_remove_iff (coherent : store.Coherent)
    (present : store.topology.shard? id.shard = some shard) {replica : Replica}
    {params : ReplicaParams} :
    (store.remove expected (store.topology.putShard (shard.without id)) id).Lists replica params ↔
      store.Lists replica params ∧ replica.id ≠ id := by
  change replica ∈ (store.topology.putShard (shard.without id)).replicas ∧
    (store.parameters.removeReplica id).replica? replica.id = some params ↔ _
  rw [coherent.orderly.mem_left_iff present, Parameters.replica?_removeReplica]
  constructor
  · rintro ⟨⟨old, kept⟩, stored⟩
    rw [if_neg kept] at stored
    exact ⟨⟨old, stored⟩, kept⟩
  · rintro ⟨⟨old, stored⟩, kept⟩
    rw [if_neg kept]
    exact ⟨⟨old, kept⟩, stored⟩

theorem Coherent.remove (coherent : store.Coherent)
    (present : store.topology.shard? id.shard = some shard) (expected : UInt64) :
    (store.remove expected (store.topology.putShard (shard.without id)) id).Coherent := by
  refine ⟨?_, ?_, ?_, ?_, ?_⟩
  · exact (coherent.orderly.left present).withSequence _
  · intro other
    change (∃ params, (store.parameters.removeReplica id).replica? other = some params) ↔
      ∃ replica ∈ (store.topology.putShard (shard.without id)).replicas, replica.id = other
    rw [Parameters.replica?_removeReplica]
    constructor
    · rintro ⟨params, stored⟩
      split at stored
      · cases stored
      · rename_i kept
        obtain ⟨replica, old, rfl⟩ := (coherent.stored other).mp ⟨params, stored⟩
        exact ⟨replica, (coherent.orderly.mem_left_iff present).mpr ⟨old, kept⟩, rfl⟩
    · rintro ⟨replica, member, rfl⟩
      obtain ⟨old, kept⟩ := (coherent.orderly.mem_left_iff present).mp member
      rw [if_neg kept]
      exact (coherent.stored replica.id).mpr ⟨replica, old, rfl⟩
  · intro replica params listed
    exact coherent.placed replica params ((lists_remove_iff coherent present).mp listed).1
  · intro first firstParams second secondParams firstListed secondListed
    exact coherent.apart first firstParams second secondParams
      ((lists_remove_iff coherent present).mp firstListed).1
      ((lists_remove_iff coherent present).mp secondListed).1
  · intro replica params listed
    exact coherent.inRange replica params ((lists_remove_iff coherent present).mp listed).1

end Removal

/-! ## Parameters brought in line -/

section Mending

variable {store : Store} {id : ReplicaId} {placed : Replica} {current : ReplicaParams}
  {expected : UInt64}

def mend (store : Store) (expected : UInt64) (params : ReplicaParams) : Store :=
  store.apply ⟨expected, none, [params], []⟩

/-- What is listed then was listed before, under the same port. -/
theorem lists_of_lists_mend (coherent : store.Coherent)
    (inTopology : store.topology.replica? id = some placed)
    (inParameters : store.parameters.replica? id = some current) {replica : Replica}
    {params : ReplicaParams}
    (listed : (store.mend expected
      (Remedy.repaired store.parameters current placed.storageNode)).Lists replica params) :
    params.storageNode = replica.storageNode ∧
      ∃ before, store.Lists replica before ∧ before.haPort = params.haPort := by
  obtain ⟨member, stored⟩ := listed
  change replica ∈ store.topology.replicas at member
  change (store.parameters.putReplica (Remedy.repaired store.parameters current
    placed.storageNode)).replica? replica.id = some params at stored
  have named : current.id = id := KeyedMap.key_of_find? inParameters
  rw [Parameters.replica?_putReplica] at stored
  change (if current.id = replica.id then _ else _) = _ at stored
  split at stored
  · rename_i same
    obtain rfl : id = replica.id := named.symm.trans same
    have found := coherent.orderly.replica?_eq_some member
    rw [inTopology] at found
    cases found
    cases stored
    exact ⟨rfl, current, ⟨member, inParameters⟩, rfl⟩
  · exact ⟨coherent.placed replica params ⟨member, stored⟩, params, ⟨member, stored⟩, rfl⟩

theorem Coherent.mend (coherent : store.Coherent)
    (inTopology : store.topology.replica? id = some placed)
    (inParameters : store.parameters.replica? id = some current) (expected : UInt64) :
    (store.mend expected
      (Remedy.repaired store.parameters current placed.storageNode)).Coherent := by
  have named : current.id = id := KeyedMap.key_of_find? inParameters
  refine ⟨?_, ?_, ?_, ?_, ?_⟩
  · exact coherent.orderly.withSequence _
  · intro other
    refine Iff.trans ?_ (coherent.stored other)
    change (∃ params, (store.parameters.putReplica (Remedy.repaired store.parameters current
      placed.storageNode)).replica? other = some params) ↔ _
    rw [Parameters.replica?_putReplica]
    split
    · rename_i same
      change current.id = other at same
      rw [← same, named]
      exact ⟨fun _ => ⟨current, inParameters⟩, fun _ => ⟨_, rfl⟩⟩
    · exact Iff.rfl
  · intro replica params listed
    exact (lists_of_lists_mend coherent inTopology inParameters listed).1
  · intro first firstParams second secondParams firstListed secondListed same port
    obtain ⟨_, firstBefore, firstOld, firstPort⟩ :=
      lists_of_lists_mend coherent inTopology inParameters firstListed
    obtain ⟨_, secondBefore, secondOld, secondPort⟩ :=
      lists_of_lists_mend coherent inTopology inParameters secondListed
    have samePort : firstBefore.haPort = secondBefore.haPort := by
      rw [firstPort, secondPort, port]
    exact coherent.apart first firstBefore second secondBefore firstOld secondOld same samePort
  · intro replica params listed
    obtain ⟨_, before, old, port⟩ := lists_of_lists_mend coherent inTopology inParameters listed
    rw [← port]
    exact coherent.inRange replica before old

end Mending

/-! ## Any justified update -/

/-- An update that a planner works out from the very store that it commits to. -/
inductive Justifies (store : Store) : Update → Prop where
  | found {shard : Shard} {node : StorageNodeId} {draft : Draft}
      (present : store.topology.shard? shard.id = some shard)
      (absent : shard.replicaOn node = none)
      (grows : draft.Grows store.topology store.parameters shard node) :
      Justifies store ⟨store.sequence, some draft.topology, [draft.params], []⟩
  | remove {id : ReplicaId} {shard : Shard}
      (present : store.topology.shard? id.shard = some shard) :
      Justifies store ⟨store.sequence, some (store.topology.putShard (shard.without id)), [], [id]⟩
  | mend {id : ReplicaId} {placed : Replica} {current : ReplicaParams}
      (inTopology : store.topology.replica? id = some placed)
      (inParameters : store.parameters.replica? id = some current) :
      Justifies store ⟨store.sequence, none,
        [Remedy.repaired store.parameters current placed.storageNode], []⟩

theorem Coherent.apply {store : Store} {update : Update} (coherent : store.Coherent)
    (room : store.topology.HasRoom) (justified : store.Justifies update) :
    (store.apply update).Coherent := by
  cases justified with
  | found present absent grows =>
      have member := (Topology.shard?_eq_some_iff.mp present).1
      exact coherent.found present (room _ member) absent grows _
  | remove present => exact coherent.remove present _
  | mend inTopology inParameters => exact coherent.mend inTopology inParameters _

/-- Whatever is committed, a replica stays bound to its storage node. -/
theorem binds_apply {store : Store} {update : Update} (coherent : store.Coherent)
    (room : store.topology.HasRoom) (justified : store.Justifies update) {id : ReplicaId}
    {node : StorageNodeId} (binds : store.topology.Binds id node) :
    (store.apply update).topology.Binds id node := by
  cases justified with
  | @found shard place draft present absent grows =>
      have member := (Topology.shard?_eq_some_iff.mp present).1
      have grown := binds.grown coherent.orderly present (room shard member) place
      rw [← grows.topology_eq] at grown
      exact grown.withSequence _
  | remove present => exact (binds.left coherent.orderly present).withSequence _
  | mend _ _ => exact binds.withSequence _

/-- The replica of a draft is bound to the storage node of the draft. -/
theorem binds_found {store : Store} {shard : Shard} {node : StorageNodeId} {draft : Draft}
    {expected : UInt64} (coherent : store.Coherent) (room : store.topology.HasRoom)
    (present : store.topology.shard? shard.id = some shard) (absent : shard.replicaOn node = none)
    (grows : draft.Grows store.topology store.parameters shard node) :
    (store.found expected draft).topology.Binds draft.params.id node := by
  have member := (Topology.shard?_eq_some_iff.mp present).1
  have orderly := (coherent.found present (room _ member) absent grows expected).orderly
  have added : ⟨shard.nextReplica, node⟩ ∈ (store.found expected draft).topology.replicas :=
    (mem_replicas_found coherent present grows).mpr (.inl rfl)
  rw [grows.id_eq]
  exact Topology.Binds.of_mem orderly added

end Store

end ShardControl

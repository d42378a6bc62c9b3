import Mathlib.Data.List.Nodup
import Mathlib.Data.List.Perm.Basic
import ShardControl.Proofs.Topology.Changes

/-!
# Integrity of topologies

Whatever changes are made to a new topology, nothing in it refers to something
that is not there: storage nodes stand in datacenters that exist, members sit
on storage nodes that exist and carry the id of their shard.  So the lists of
what the storage nodes host share the members out among them.
-/

namespace ShardControl

theorem ReplicaId.lt_of_shard_lt {first second : ReplicaId} (below : first.shard < second.shard) :
    first < second := by
  have shards : first.shard.rank < second.shard.rank := below
  have num := first.num.toNat_lt
  change first.rank < second.rank
  simp only [rank, UInt32.size]
  omega

theorem ArbiterId.lt_of_shard_lt {first second : ArbiterId} (below : first.shard < second.shard) :
    first < second := by
  have shards : first.shard.rank < second.shard.rank := below
  have num := first.num.toNat_lt
  change first.rank < second.rank
  simp only [rank, UInt32.size]
  omega

variable {ν κ : Type} [Keyed ν κ] [KeyOrder κ]

namespace Topology

def arbiter? (topology : Topology) (id : ArbiterId) : Option Arbiter :=
  (topology.shard? id.shard).bind fun shard => shard.arbiters.find? id

/-- The storage nodes share members out: each one stands once, in the list of the storage node on
which it is found. -/
structure SharesOut (topology : Topology) (members : List ν) (find? : κ → Option ν)
    (seat : ν → StorageNodeId) (hosted : StorageNodeId → List κ) : Prop where
  increasing : ∀ node, (hosted node).Pairwise (· < ·)
  mem_hosted_iff : ∀ node id, id ∈ hosted node ↔
    ∃ member, find? id = some member ∧ seat member = node
  perm : (topology.storageNodes.toList.flatMap fun node => hosted node.id).Perm (members.map key)
  nodup : (members.map key).Nodup

end Topology

/-! ## Kinds of members -/

/-- A kind of members: what a shard lists of it, the shard that an id names, and the storage node
that a member sits on. -/
structure MemberKind (ν : Type) {κ : Type} [Keyed ν κ] [KeyOrder κ] where
  listed : Shard → KeyedMap ν
  home : κ → ShardId
  seat : ν → StorageNodeId
  /-- Ids are ordered by shard first. -/
  lt_of_home_lt : ∀ {first second : κ}, home first < home second → first < second

namespace MemberKind

def replica : MemberKind Replica where
  listed := Shard.replicas
  home := ReplicaId.shard
  seat := Replica.storageNode
  lt_of_home_lt := ReplicaId.lt_of_shard_lt

def arbiter : MemberKind Arbiter where
  listed := Shard.arbiters
  home := ArbiterId.shard
  seat := Arbiter.storageNode
  lt_of_home_lt := ArbiterId.lt_of_shard_lt

section

variable (kind : MemberKind ν) (topology : Topology)

def members : List ν := topology.shards.toList.flatMap fun shard => (kind.listed shard).toList

def hosted (node : StorageNodeId) : List κ :=
  ((kind.members topology).filter fun member => kind.seat member = node).map key

/-- A member is looked up in the shard that its id names. -/
def find? [DecidableEq κ] (id : κ) : Option ν :=
  (topology.shard? (kind.home id)).bind fun shard => (kind.listed shard).find? id

/-- The members of a shard carry its id and sit on storage nodes that exist. -/
def SeatsIn (shard : Shard) : Prop :=
  ∀ member ∈ (kind.listed shard).toList,
    kind.home (key member) = shard.id ∧ topology.storageNodes.contains (kind.seat member) = true

def Seats : Prop := ∀ shard ∈ topology.shards.toList, kind.SeatsIn topology shard

end

variable {kind : MemberKind ν} {topology : Topology}

theorem mem_members_iff {member : ν} : member ∈ kind.members topology ↔
    ∃ shard ∈ topology.shards.toList, member ∈ (kind.listed shard).toList :=
  List.mem_flatMap

theorem mem_hosted_iff {node : StorageNodeId} {id : κ} : id ∈ kind.hosted topology node ↔
    ∃ member ∈ kind.members topology, kind.seat member = node ∧ key member = id := by
  simp only [hosted, List.mem_map, List.mem_filter, decide_eq_true_eq, and_assoc]

/-! ## Seats -/

/-- In a changed shard everyone was seated before or is seated now. -/
theorem SeatsIn.changed {shard changed : Shard} (seats : kind.SeatsIn topology shard)
    (same : changed.id = shard.id)
    (listed : ∀ member ∈ (kind.listed changed).toList, member ∈ (kind.listed shard).toList ∨
      kind.home (key member) = shard.id ∧
        topology.storageNodes.contains (kind.seat member) = true) :
    kind.SeatsIn topology changed := by
  intro member inChanged
  rw [same]
  rcases listed member inChanged with old | new
  · exact seats member old
  · exact new

namespace Seats

theorem of_present (seats : kind.Seats topology) {shard : Shard}
    (present : topology.shard? shard.id = some shard) : kind.SeatsIn topology shard :=
  seats shard (Topology.shard?_eq_some_iff.mp present).1

theorem putShard (seats : kind.Seats topology) {shard : Shard}
    (seated : kind.SeatsIn topology shard) : kind.Seats (topology.putShard shard) := by
  intro other member
  rcases Topology.mem_putShard_iff.mp member with rfl | ⟨old, _⟩
  · exact seated
  · exact seats other old

/-- One more storage node takes nobody's seat away. -/
theorem addStorageNode (seats : kind.Seats topology) (node : StorageNode) :
    kind.Seats { topology with storageNodes := topology.storageNodes.insert node } := by
  intro shard inTopology member inShard
  obtain ⟨own, seated⟩ := seats shard inTopology member inShard
  refine ⟨own, ?_⟩
  dsimp only
  rw [KeyedMap.contains, KeyedMap.find?_insert]
  split
  · rfl
  · exact seated

/-- The members stand in increasing order. -/
theorem pairwise_members (seats : kind.Seats topology) :
    (kind.members topology).Pairwise fun first second => key first < key second := by
  refine List.pairwise_flatMap.mpr ⟨fun shard _ => (kind.listed shard).ordered, ?_⟩
  refine topology.shards.ordered.imp_of_mem fun {first second} inFirst inSecond below => ?_
  intro member listed other alsoListed
  apply kind.lt_of_home_lt
  rw [(seats first inFirst member listed).1, (seats second inSecond other alsoListed).1]
  exact below

theorem find?_eq_some_iff [DecidableEq κ] (seats : kind.Seats topology) {id : κ} {member : ν} :
    kind.find? topology id = some member ↔ member ∈ kind.members topology ∧ key member = id := by
  rw [MemberKind.find?, Option.bind_eq_some_iff, mem_members_iff]
  constructor
  · rintro ⟨shard, shardFound, found⟩
    obtain ⟨inShard, same⟩ := KeyedMap.find?_eq_some_iff.mp found
    exact ⟨⟨shard, (Topology.shard?_eq_some_iff.mp shardFound).1, inShard⟩, same⟩
  · rintro ⟨⟨shard, inTopology, inShard⟩, rfl⟩
    have own := (seats shard inTopology member inShard).1
    exact ⟨shard, Topology.shard?_eq_some_iff.mpr ⟨inTopology, own.symm⟩,
      KeyedMap.find?_eq_some_iff.mpr ⟨inShard, rfl⟩⟩

/-- An id has one member. -/
theorem eq_of_key_eq (seats : kind.Seats topology) {first second : ν}
    (inFirst : first ∈ kind.members topology) (inSecond : second ∈ kind.members topology)
    (same : key first = key second) : first = second := by
  classical
  have found := seats.find?_eq_some_iff.mpr ⟨inFirst, rfl⟩
  rw [same, seats.find?_eq_some_iff.mpr ⟨inSecond, rfl⟩] at found
  exact (Option.some.inj found).symm

theorem sharesOut [DecidableEq κ] (seats : kind.Seats topology) :
    topology.SharesOut (kind.members topology) (kind.find? topology) kind.seat
      (kind.hosted topology) := by
  have increasing (node : StorageNodeId) : (kind.hosted topology node).Pairwise (· < ·) :=
    List.pairwise_map.mpr (seats.pairwise_members.filter _)
  have nodup : ((kind.members topology).map key).Nodup :=
    List.pairwise_map.mpr (seats.pairwise_members.imp KeyOrder.ne_of_lt)
  refine ⟨increasing, ?_, ?_, nodup⟩
  · intro node id
    simp only [mem_hosted_iff, seats.find?_eq_some_iff]
    constructor
    · rintro ⟨member, listed, here, same⟩
      exact ⟨member, ⟨listed, same⟩, here⟩
    · rintro ⟨member, ⟨listed, same⟩, here⟩
      exact ⟨member, listed, here, same⟩
  · have apart : (topology.storageNodes.toList.flatMap fun node =>
        kind.hosted topology node.id).Nodup := by
      refine List.nodup_flatMap.mpr ⟨fun node _ => (increasing node.id).imp KeyOrder.ne_of_lt, ?_⟩
      refine topology.storageNodes.ordered.imp fun {first second} below id onFirst onSecond => ?_
      obtain ⟨member, listed, here, same⟩ := mem_hosted_iff.mp onFirst
      obtain ⟨other, alsoListed, there, alsoSame⟩ := mem_hosted_iff.mp onSecond
      obtain rfl := seats.eq_of_key_eq listed alsoListed (same.trans alsoSame.symm)
      exact KeyOrder.ne_of_lt below (here.symm.trans there)
    refine (List.perm_ext_iff_of_nodup apart nodup).mpr fun id => ?_
    rw [List.mem_flatMap, List.mem_map]
    constructor
    · rintro ⟨node, _, onNode⟩
      obtain ⟨member, listed, _, same⟩ := mem_hosted_iff.mp onNode
      exact ⟨member, listed, same⟩
    · rintro ⟨member, listed, same⟩
      obtain ⟨shard, inTopology, inShard⟩ := mem_members_iff.mp listed
      have seated := (seats shard inTopology member inShard).2
      obtain ⟨node, found⟩ := Option.isSome_iff_exists.mp seated
      obtain ⟨present, named⟩ := KeyedMap.find?_eq_some_iff.mp found
      exact ⟨node, present, mem_hosted_iff.mpr ⟨member, listed, named.symm, same⟩⟩

end Seats

end MemberKind

namespace Topology

open Change

variable {topology changed : Topology} {change : Change}

/-- Nothing in the topology refers to something that is not there. -/
structure Integral (topology : Topology) : Prop where
  housed : ∀ node ∈ topology.storageNodes.toList,
    topology.datacenters.contains node.datacenter = true
  replicas : MemberKind.replica.Seats topology
  arbiters : MemberKind.arbiter.Seats topology

theorem integral_named (name : String) : (named name).Integral where
  housed _ member := nomatch member
  replicas _ member := nomatch member
  arbiters _ member := nomatch member

namespace Integral

theorem putShard (integral : topology.Integral) {shard : Shard}
    (replicas : MemberKind.replica.SeatsIn topology shard)
    (arbiters : MemberKind.arbiter.SeatsIn topology shard) :
    (topology.putShard shard).Integral where
  housed := integral.housed
  replicas := integral.replicas.putShard replicas
  arbiters := integral.arbiters.putShard arbiters

theorem addDatacenter (integral : topology.Integral) (datacenter : Datacenter) :
    (topology.addDatacenter datacenter).Integral where
  housed node member := by
    rw [Topology.addDatacenter, KeyedMap.contains, KeyedMap.find?_insert]
    split
    · rfl
    · exact integral.housed node member
  replicas := integral.replicas
  arbiters := integral.arbiters

theorem addStorageNode (integral : topology.Integral) {node : StorageNode}
    (housed : topology.datacenters.contains node.datacenter = true) :
    Integral { topology with storageNodes := topology.storageNodes.insert node } where
  housed other member := by
    rcases KeyedMap.mem_insert_iff.mp member with rfl | ⟨old, _⟩
    · exact housed
    · exact integral.housed other old
  replicas := integral.replicas.addStorageNode node
  arbiters := integral.arbiters.addStorageNode node

/-- Every change keeps the integrity of a topology. -/
theorem effect {answer : Except TopologyError Answer} (integral : topology.Integral)
    (made : Effect topology change answer changed) : changed.Integral := by
  cases made with
  | refused => exact integral
  | datacenter datacenter => exact integral.addDatacenter datacenter
  | storageNode housed => exact integral.addStorageNode housed
  | present => exact integral
  | shard =>
      refine integral.putShard ?_ ?_
      · intro member inFresh
        cases inFresh
      · intro member inFresh
        cases inFresh
  | replica listed present =>
      have kept := (integral.arbiters.of_present present).changed rfl fun _ old => .inl old
      refine integral.putShard ?_ kept
      refine (integral.replicas.of_present present).changed rfl fun member inShard => ?_
      rcases Shard.mem_addReplica_iff.mp inShard with rfl | ⟨old, _⟩
      · exact .inr ⟨rfl, listed⟩
      · exact .inl old
  | arbiter listed present =>
      have kept := (integral.replicas.of_present present).changed rfl fun _ old => .inl old
      refine integral.putShard kept ?_
      refine (integral.arbiters.of_present present).changed rfl fun member inShard => ?_
      rcases Shard.mem_addArbiter_iff.mp inShard with rfl | ⟨old, _⟩
      · exact .inr ⟨rfl, listed⟩
      · exact .inl old
  | removal _ present _ =>
      have kept := (integral.arbiters.of_present present).changed rfl fun _ old => .inl old
      refine integral.putShard ?_ kept
      refine (integral.replicas.of_present present).changed rfl fun member inShard => ?_
      exact .inl (Shard.mem_without_iff.mp inShard).1

theorem performAll (integral : topology.Integral) (changes : List Change) :
    (Change.performAll topology changes).Integral := by
  induction changes generalizing topology with
  | nil => exact integral
  | cons change rest ih => exact ih (integral.effect (effect_perform topology change))

/-- The datacenter of a storage node is there. -/
theorem exists_datacenterOf (integral : topology.Integral) {id : StorageNodeId} {node : StorageNode}
    (found : topology.storageNode? id = some node) :
    ∃ datacenter, topology.datacenterOf id = .ok datacenter := by
  have housed := integral.housed node (KeyedMap.find?_eq_some_iff.mp found).1
  obtain ⟨datacenter, present⟩ := Option.isSome_iff_exists.mp housed
  exact ⟨datacenter, datacenterOf_eq_ok_iff.mpr ⟨node, found, present⟩⟩

/-- Only a storage node that does not exist has no datacenter. -/
theorem datacenterOf_eq_error_iff (integral : topology.Integral) {id : StorageNodeId}
    {reason : TopologyError} : topology.datacenterOf id = .error reason ↔
      topology.storageNode? id = none ∧ reason = .unknownStorageNode id := by
  cases found : topology.storageNode? id with
  | none =>
      rw [datacenterOf, found, Except.error.injEq]
      exact ⟨fun same => ⟨rfl, same.symm⟩, fun same => same.2.symm⟩
  | some node =>
      obtain ⟨datacenter, present⟩ := integral.exists_datacenterOf found
      rw [present]
      constructor
      · intro same
        cases same
      · rintro ⟨absent, _⟩
        cases absent

end Integral

/-- How the parts of a topology fit together, and what is left of a change that fails. -/
structure Sound (topology : Topology) : Prop where
  housed : ∀ node ∈ topology.storageNodes.toList,
    ∃ datacenter, topology.datacenterOf node.id = .ok datacenter ∧ datacenter.id = node.datacenter
  unhoused : ∀ id reason, topology.datacenterOf id = .error reason ↔
    topology.storageNode? id = none ∧ reason = .unknownStorageNode id
  replicas : ∀ shard ∈ topology.shards.toList, ∀ replica ∈ shard.replicas.toList,
    replica.id.shard = shard.id ∧ topology.storageNodes.contains replica.storageNode = true
  arbiters : ∀ shard ∈ topology.shards.toList, ∀ arbiter ∈ shard.arbiters.toList,
    arbiter.id.shard = shard.id ∧ topology.storageNodes.contains arbiter.storageNode = true
  hostedReplicas : topology.SharesOut topology.replicas topology.replica? Replica.storageNode
    topology.hostedReplicas
  hostedArbiters : topology.SharesOut topology.arbiters topology.arbiter? Arbiter.storageNode
    topology.hostedArbiters
  refused : ∀ change reason, (perform topology change).1 = .error reason →
    (perform topology change).2 = topology

theorem sound_of_changes (name : String) (changes : List Change) :
    (Change.performAll (named name) changes).Sound := by
  have integral := (integral_named name).performAll changes
  generalize Change.performAll (named name) changes = topology at integral
  refine ⟨?_, fun _ _ => integral.datacenterOf_eq_error_iff, integral.replicas, integral.arbiters,
    integral.replicas.sharesOut, integral.arbiters.sharesOut, fun _ _ => perform_of_error⟩
  intro node member
  have found : topology.storageNode? node.id = some node :=
    KeyedMap.find?_eq_some_iff.mpr ⟨member, rfl⟩
  obtain ⟨datacenter, hosts⟩ := integral.exists_datacenterOf found
  obtain ⟨other, alsoFound, present⟩ := datacenterOf_eq_ok_iff.mp hosts
  obtain rfl : node = other := Option.some.inj (found.symm.trans alsoFound)
  exact ⟨datacenter, hosts, KeyedMap.key_of_find? present⟩

end Topology

end ShardControl

import ShardControl.Proofs.Topology.Members

/-!
# Orderly topologies

In an orderly topology a shard has at most one replica on a storage node, and
its members carry numbers that it has given out.  Adding a replica where there
is none and removing one keep a topology orderly, and a number that was given
out stays with its storage node.
-/

namespace ShardControl

namespace Topology

structure Orderly (topology : Topology) : Prop where
  /-- A shard has at most one replica on a storage node. -/
  single : ∀ shard ∈ topology.shards.toList, ∀ first ∈ shard.replicas.toList,
    ∀ second ∈ shard.replicas.toList, first.storageNode = second.storageNode → first = second
  /-- Replicas carry the id of their shard and a number that it has given out. -/
  replicas : ∀ shard ∈ topology.shards.toList, ∀ replica ∈ shard.replicas.toList,
    replica.id.shard = shard.id ∧ replica.id.num < shard.nextNum
  /-- So do arbiters. -/
  arbiters : ∀ shard ∈ topology.shards.toList, ∀ arbiter ∈ shard.arbiters.toList,
    arbiter.id.shard = shard.id ∧ arbiter.id.num < shard.nextNum

/-- No shard comes to the last number. -/
def HasRoom (topology : Topology) : Prop :=
  ∀ shard ∈ topology.shards.toList, shard.nextNum.toNat < UInt32.size - 1

instance (topology : Topology) : Decidable topology.HasRoom :=
  inferInstanceAs (Decidable (∀ shard ∈ topology.shards.toList, _))

/-- The number of a replica is given out, and the replica is on no other storage node. -/
structure Binds (topology : Topology) (id : ReplicaId) (node : StorageNodeId) : Prop where
  issued : ∃ shard, topology.shard? id.shard = some shard ∧ id.num < shard.nextNum
  placed : ∀ replica ∈ topology.replicas, replica.id = id → replica.storageNode = node

theorem mem_replicas_putShard_iff {topology : Topology} {shard : Shard} {replica : Replica} :
    replica ∈ (topology.putShard shard).replicas ↔
      replica ∈ shard.replicas.toList ∨
        ∃ other ∈ topology.shards.toList, other.id ≠ shard.id ∧
          replica ∈ other.replicas.toList := by
  rw [mem_replicas_iff]
  constructor
  · rintro ⟨other, member, inOther⟩
    rcases mem_putShard_iff.mp member with rfl | ⟨old, differ⟩
    · exact .inl inOther
    · exact .inr ⟨other, old, differ, inOther⟩
  · rintro (inShard | ⟨other, old, differ, inOther⟩)
    · exact ⟨shard, mem_putShard_iff.mpr (.inl rfl), inShard⟩
    · exact ⟨other, mem_putShard_iff.mpr (.inr ⟨old, differ⟩), inOther⟩

theorem succ_nextNum {shard : Shard} (room : shard.nextNum.toNat < UInt32.size - 1) :
    (Word.succSat shard.nextNum).toNat = shard.nextNum.toNat + 1 := by
  rw [Word.toNat_succSat]
  exact Nat.min_eq_left room

namespace Orderly

variable {topology : Topology} {shard : Shard} {node : StorageNodeId}

theorem withSequence (orderly : topology.Orderly) (sequence : UInt64) :
    (topology.withSequence sequence).Orderly :=
  ⟨orderly.single, orderly.replicas, orderly.arbiters⟩

/-- Every replica is found by its id. -/
theorem replica?_eq_some (orderly : topology.Orderly) {replica : Replica}
    (member : replica ∈ topology.replicas) : topology.replica? replica.id = some replica := by
  obtain ⟨shard, inTopology, inShard⟩ := mem_replicas_iff.mp member
  exact replica?_of_mem inTopology inShard (orderly.replicas shard inTopology replica inShard).1

/-- An id has one replica. -/
theorem eq_of_id_eq (orderly : topology.Orderly) {first second : Replica}
    (inFirst : first ∈ topology.replicas) (inSecond : second ∈ topology.replicas)
    (same : first.id = second.id) : first = second := by
  have firstFound := orderly.replica?_eq_some inFirst
  have secondFound := orderly.replica?_eq_some inSecond
  rw [same, secondFound] at firstFound
  exact (Option.some.inj firstFound).symm

/-- The shard of a replica is the one that its id names. -/
theorem mem_shard_iff (orderly : topology.Orderly)
    (found : topology.shard? shard.id = some shard) {replica : Replica} :
    replica ∈ shard.replicas.toList ↔
      replica ∈ topology.replicas ∧ replica.id.shard = shard.id := by
  have inTopology := (shard?_eq_some_iff.mp found).1
  constructor
  · intro inShard
    exact ⟨mem_replicas_iff.mpr ⟨shard, inTopology, inShard⟩,
      (orderly.replicas shard inTopology replica inShard).1⟩
  · rintro ⟨member, same⟩
    obtain ⟨other, otherIn, inOther⟩ := mem_replicas_iff.mp member
    have sameShard : other.id = shard.id :=
      (orderly.replicas other otherIn replica inOther).1.symm.trans same
    rwa [KeyedMap.eq_of_key_eq otherIn inTopology sameShard] at inOther

/-- The next number of a shard is not in use. -/
theorem nextReplica_absent (orderly : topology.Orderly)
    (found : topology.shard? shard.id = some shard) :
    ∀ replica ∈ topology.replicas, replica.id ≠ shard.nextReplica :=
  fun _ => id_ne_of_issued orderly.replicas found (UInt32.le_refl _)

/-! ## One more replica -/

theorem mem_grown_iff (orderly : topology.Orderly)
    (found : topology.shard? shard.id = some shard) {replica : Replica} :
    replica ∈ (topology.putShard (shard.addReplica node).2).replicas ↔
      replica = ⟨shard.nextReplica, node⟩ ∨ replica ∈ topology.replicas := by
  have inTopology := (shard?_eq_some_iff.mp found).1
  rw [mem_replicas_putShard_iff]
  constructor
  · rintro (inGrown | ⟨other, otherIn, _, inOther⟩)
    · rcases Shard.mem_addReplica_iff.mp inGrown with rfl | ⟨old, _⟩
      · exact .inl rfl
      · exact .inr (mem_replicas_iff.mpr ⟨shard, inTopology, old⟩)
    · exact .inr (mem_replicas_iff.mpr ⟨other, otherIn, inOther⟩)
  · rintro (rfl | member)
    · exact .inl (Shard.mem_addReplica_iff.mpr (.inl rfl))
    · by_cases own : replica.id.shard = shard.id
      · have inShard := (orderly.mem_shard_iff found).mpr ⟨member, own⟩
        exact .inl (Shard.mem_addReplica_iff.mpr
          (.inr ⟨inShard, orderly.nextReplica_absent found replica member⟩))
      · obtain ⟨other, otherIn, inOther⟩ := mem_replicas_iff.mp member
        have otherShard := (orderly.replicas other otherIn replica inOther).1
        exact .inr ⟨other, otherIn, fun same => own (otherShard.trans same), inOther⟩

theorem grown (orderly : topology.Orderly) (found : topology.shard? shard.id = some shard)
    (room : shard.nextNum.toNat < UInt32.size - 1) (absent : shard.replicaOn node = none) :
    (topology.putShard (shard.addReplica node).2).Orderly := by
  have inTopology := (shard?_eq_some_iff.mp found).1
  have more := succ_nextNum room
  have alone := Shard.replicaOn_eq_none_iff.mp absent
  refine ⟨?_, ?_, ?_⟩
  · intro other member first inFirst second inSecond same
    rcases mem_putShard_iff.mp member with rfl | ⟨old, _⟩
    · rcases Shard.mem_addReplica_iff.mp inFirst with rfl | ⟨oldFirst, _⟩
      · rcases Shard.mem_addReplica_iff.mp inSecond with rfl | ⟨oldSecond, _⟩
        · rfl
        · exact absurd same.symm (alone second oldSecond)
      · rcases Shard.mem_addReplica_iff.mp inSecond with rfl | ⟨oldSecond, _⟩
        · exact absurd same (alone first oldFirst)
        · exact orderly.single shard inTopology first oldFirst second oldSecond same
    · exact orderly.single other old first inFirst second inSecond same
  · intro other member replica inOther
    rcases mem_putShard_iff.mp member with rfl | ⟨old, _⟩
    · rw [Shard.id_addReplica, Shard.nextNum_addReplica, UInt32.lt_iff_toNat_lt, more]
      rcases Shard.mem_addReplica_iff.mp inOther with rfl | ⟨oldReplica, _⟩
      · exact ⟨rfl, Nat.lt_succ_self _⟩
      · obtain ⟨own, below⟩ := orderly.replicas shard inTopology replica oldReplica
        exact ⟨own, Nat.lt_succ_of_lt (UInt32.lt_iff_toNat_lt.mp below)⟩
    · exact orderly.replicas other old replica inOther
  · intro other member arbiter inOther
    rcases mem_putShard_iff.mp member with rfl | ⟨old, _⟩
    · rw [Shard.id_addReplica, Shard.nextNum_addReplica, UInt32.lt_iff_toNat_lt, more]
      obtain ⟨own, below⟩ := orderly.arbiters shard inTopology arbiter inOther
      exact ⟨own, Nat.lt_succ_of_lt (UInt32.lt_iff_toNat_lt.mp below)⟩
    · exact orderly.arbiters other old arbiter inOther

/-! ## One replica less -/

theorem mem_left_iff (orderly : topology.Orderly) {id : ReplicaId}
    (found : topology.shard? id.shard = some shard) {replica : Replica} :
    replica ∈ (topology.putShard (shard.without id)).replicas ↔
      replica ∈ topology.replicas ∧ replica.id ≠ id := by
  obtain ⟨inTopology, named⟩ := shard?_eq_some_iff.mp found
  rw [mem_replicas_putShard_iff]
  constructor
  · rintro (inLeft | ⟨other, otherIn, differ, inOther⟩)
    · obtain ⟨old, kept⟩ := Shard.mem_without_iff.mp inLeft
      exact ⟨mem_replicas_iff.mpr ⟨shard, inTopology, old⟩, kept⟩
    · refine ⟨mem_replicas_iff.mpr ⟨other, otherIn, inOther⟩, ?_⟩
      rintro rfl
      have own := (orderly.replicas other otherIn replica inOther).1
      exact differ (own.symm.trans named.symm)
  · rintro ⟨member, kept⟩
    obtain ⟨other, otherIn, inOther⟩ := mem_replicas_iff.mp member
    by_cases same : other.id = shard.id
    · rw [KeyedMap.eq_of_key_eq otherIn inTopology same] at inOther
      exact .inl (Shard.mem_without_iff.mpr ⟨inOther, kept⟩)
    · exact .inr ⟨other, otherIn, same, inOther⟩

theorem left (orderly : topology.Orderly) {id : ReplicaId}
    (found : topology.shard? id.shard = some shard) :
    (topology.putShard (shard.without id)).Orderly := by
  have inTopology := (shard?_eq_some_iff.mp found).1
  have old {replica : Replica} (member : replica ∈ (shard.without id).replicas.toList) :
      replica ∈ shard.replicas.toList := (Shard.mem_without_iff.mp member).1
  refine ⟨?_, ?_, ?_⟩
  · intro other member first inFirst second inSecond same
    rcases mem_putShard_iff.mp member with rfl | ⟨before, _⟩
    · exact orderly.single shard inTopology first (old inFirst) second (old inSecond) same
    · exact orderly.single other before first inFirst second inSecond same
  · intro other member replica inOther
    rcases mem_putShard_iff.mp member with rfl | ⟨before, _⟩
    · exact orderly.replicas shard inTopology replica (old inOther)
    · exact orderly.replicas other before replica inOther
  · intro other member arbiter inOther
    rcases mem_putShard_iff.mp member with rfl | ⟨before, _⟩
    · exact orderly.arbiters shard inTopology arbiter inOther
    · exact orderly.arbiters other before arbiter inOther

end Orderly

/-! ## Bound replicas -/

namespace Binds

variable {topology : Topology} {shard : Shard} {id : ReplicaId} {node : StorageNodeId}

theorem withSequence (binds : topology.Binds id node) (sequence : UInt64) :
    (topology.withSequence sequence).Binds id node :=
  ⟨binds.issued, binds.placed⟩

/-- A member of the topology is bound to the storage node that it is on. -/
theorem of_mem (orderly : topology.Orderly) {replica : Replica}
    (member : replica ∈ topology.replicas) : topology.Binds replica.id replica.storageNode := by
  obtain ⟨shard, inTopology, inShard⟩ := mem_replicas_iff.mp member
  obtain ⟨own, below⟩ := orderly.replicas shard inTopology replica inShard
  refine ⟨⟨shard, shard?_eq_some_iff.mpr ⟨inTopology, own.symm⟩, below⟩, ?_⟩
  intro other otherMember same
  rw [orderly.eq_of_id_eq otherMember member same]

/-- A changed shard that gives out no number again keeps what was given out. -/
theorem issued_putShard (binds : topology.Binds id node) {changed : Shard}
    (found : topology.shard? changed.id = some shard) (more : shard.nextNum ≤ changed.nextNum) :
    ∃ shard, (topology.putShard changed).shard? id.shard = some shard ∧
      id.num < shard.nextNum := by
  obtain ⟨other, otherFound, below⟩ := binds.issued
  rw [shard?_putShard]
  split
  · rename_i same
    rw [← same, found] at otherFound
    cases otherFound
    refine ⟨changed, rfl, ?_⟩
    rw [UInt32.lt_iff_toNat_lt] at below ⊢
    exact Nat.lt_of_lt_of_le below (UInt32.le_iff_toNat_le.mp more)
  · exact ⟨other, otherFound, below⟩

theorem grown (binds : topology.Binds id node) (orderly : topology.Orderly)
    (found : topology.shard? shard.id = some shard)
    (room : shard.nextNum.toNat < UInt32.size - 1) (place : StorageNodeId) :
    (topology.putShard (shard.addReplica place).2).Binds id node := by
  have more := succ_nextNum room
  refine ⟨binds.issued_putShard found ?_, ?_⟩
  · rw [Shard.nextNum_addReplica, UInt32.le_iff_toNat_le, more]
    exact Nat.le_succ _
  · intro replica member same
    rcases (orderly.mem_grown_iff found).mp member with rfl | old
    · -- A number that was given out before is not the next one.
      obtain ⟨other, otherFound, below⟩ := binds.issued
      rw [← same] at otherFound below
      change topology.shard? shard.id = some other at otherFound
      rw [found] at otherFound
      cases otherFound
      exact absurd below (UInt32.lt_irrefl _)
    · exact binds.placed replica old same

theorem left (binds : topology.Binds id node) (orderly : topology.Orderly) {removed : ReplicaId}
    (found : topology.shard? removed.shard = some shard) :
    (topology.putShard (shard.without removed)).Binds id node := by
  have named := (shard?_eq_some_iff.mp found).2
  have foundAgain : topology.shard? (shard.without removed).id = some shard := by
    rw [Shard.id_without, named]
    exact found
  refine ⟨binds.issued_putShard foundAgain (UInt32.le_refl _), ?_⟩
  · intro replica member same
    exact binds.placed replica ((orderly.mem_left_iff found).mp member).1 same

end Binds

end Topology

end ShardControl

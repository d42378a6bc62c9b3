import ShardControl.KeyedMap.Basic
import ShardControl.Word

/-!
# Identifiers

Datacenters, storage nodes and shards are numbered.  Replicas and arbiters are
numbered within their shard, both by one counter.  Resources are ordered by
kind first: storage nodes, replicas, arbiters, admins.
-/

namespace ShardControl

@[ext]
structure DatacenterId where
  num : UInt32
  deriving DecidableEq

@[ext]
structure StorageNodeId where
  num : UInt32
  deriving DecidableEq

@[ext]
structure ShardId where
  num : UInt32
  deriving DecidableEq

@[ext]
structure ReplicaId where
  shard : ShardId
  num : UInt32
  deriving DecidableEq

@[ext]
structure ArbiterId where
  shard : ShardId
  num : UInt32
  deriving DecidableEq

/-- Anything that can be monitored. -/
inductive ResourceId where
  | storageNode (id : StorageNodeId)
  | replica (id : ReplicaId)
  | arbiter (id : ArbiterId)
  | admin (num : UInt32)
  deriving DecidableEq

/-! ## Written forms -/

def DatacenterId.text (id : DatacenterId) : String := "zn" ++ Word.text32 id.num

def StorageNodeId.text (id : StorageNodeId) : String := "sn" ++ Word.text32 id.num

def ShardId.text (id : ShardId) : String := "rg" ++ Word.text32 id.num

def ReplicaId.text (id : ReplicaId) : String := id.shard.text ++ "-rn" ++ Word.text32 id.num

def ArbiterId.text (id : ArbiterId) : String := id.shard.text ++ "-an" ++ Word.text32 id.num

def ResourceId.text : ResourceId → String
  | .storageNode id => id.text
  | .replica id => id.text
  | .arbiter id => id.text
  | .admin num => "admin" ++ Word.text32 num

/-! ## Spelled-out forms -/

def StorageNodeId.spelled (id : StorageNodeId) : String :=
  "StorageNodeId(" ++ Word.text32 id.num ++ ")"

def ShardId.spelled (id : ShardId) : String := "ShardId(" ++ Word.text32 id.num ++ ")"

def ResourceId.spelled : ResourceId → String
  | .storageNode id => "StorageNode(" ++ id.spelled ++ ")"
  | .replica id =>
      "ReplicaNode(ReplicaNodeId \x7b shard: " ++ id.shard.spelled ++ ", node_num: " ++
        Word.text32 id.num ++ " \x7d)"
  | .arbiter id =>
      "ArbiterNode(ArbiterNodeId \x7b shard: " ++ id.shard.spelled ++ ", node_num: " ++
        Word.text32 id.num ++ " \x7d)"
  | .admin num => "Admin(" ++ Word.text32 num ++ ")"

/-! ## Order -/

namespace DatacenterId

def rank (id : DatacenterId) : Nat := id.num.toNat

theorem rank_injective {a b : DatacenterId} (same : a.rank = b.rank) : a = b :=
  DatacenterId.ext (UInt32.toNat_inj.mp same)

instance : KeyOrder DatacenterId := KeyOrder.ofRank rank rank_injective

end DatacenterId

namespace StorageNodeId

def rank (id : StorageNodeId) : Nat := id.num.toNat

theorem rank_injective {a b : StorageNodeId} (same : a.rank = b.rank) : a = b :=
  StorageNodeId.ext (UInt32.toNat_inj.mp same)

instance : KeyOrder StorageNodeId := KeyOrder.ofRank rank rank_injective

end StorageNodeId

namespace ShardId

def rank (id : ShardId) : Nat := id.num.toNat

theorem rank_injective {a b : ShardId} (same : a.rank = b.rank) : a = b :=
  ShardId.ext (UInt32.toNat_inj.mp same)

instance : KeyOrder ShardId := KeyOrder.ofRank rank rank_injective

end ShardId

namespace ReplicaId

/-- Replicas are ordered by shard, then by number. -/
def rank (id : ReplicaId) : Nat := id.shard.rank * UInt32.size + id.num.toNat

theorem rank_injective {a b : ReplicaId} (same : a.rank = b.rank) : a = b := by
  obtain ⟨shards, nums⟩ := Word.pair_inj same
  exact ReplicaId.ext (ShardId.ext shards) nums

instance : KeyOrder ReplicaId := KeyOrder.ofRank rank rank_injective

end ReplicaId

namespace ArbiterId

def rank (id : ArbiterId) : Nat := id.shard.rank * UInt32.size + id.num.toNat

theorem rank_injective {a b : ArbiterId} (same : a.rank = b.rank) : a = b := by
  obtain ⟨shards, nums⟩ := Word.pair_inj same
  exact ArbiterId.ext (ShardId.ext shards) nums

instance : KeyOrder ArbiterId := KeyOrder.ofRank rank rank_injective

end ArbiterId

namespace ResourceId

/-- Resources are ordered by kind, then within their kind. -/
def rank : ResourceId → Nat
  | .storageNode id => id.rank
  | .replica id => UInt64.size + id.rank
  | .arbiter id => 2 * UInt64.size + id.rank
  | .admin num => 3 * UInt64.size + num.toNat

theorem storageNode_rank_lt (id : StorageNodeId) : id.rank < UInt64.size :=
  Nat.lt_of_lt_of_le id.num.toNat_lt (by decide)

theorem replica_rank_lt (id : ReplicaId) : id.rank < UInt64.size :=
  Word.pair_lt id.shard.num id.num

theorem arbiter_rank_lt (id : ArbiterId) : id.rank < UInt64.size :=
  Word.pair_lt id.shard.num id.num

theorem rank_injective {a b : ResourceId} (same : a.rank = b.rank) : a = b := by
  cases a with
  | storageNode first =>
      have firstSmall := storageNode_rank_lt first
      cases b with
      | storageNode second => exact congrArg _ (StorageNodeId.rank_injective same)
      | replica second => simp only [rank] at same; omega
      | arbiter second => simp only [rank] at same; omega
      | admin second => simp only [rank] at same; omega
  | replica first =>
      have firstSmall := replica_rank_lt first
      cases b with
      | storageNode second =>
          have secondSmall := storageNode_rank_lt second
          simp only [rank] at same
          omega
      | replica second =>
          exact congrArg _ (ReplicaId.rank_injective (by simp only [rank] at same; omega))
      | arbiter second => simp only [rank] at same; omega
      | admin second => simp only [rank] at same; omega
  | arbiter first =>
      have firstSmall := arbiter_rank_lt first
      cases b with
      | storageNode second =>
          have secondSmall := storageNode_rank_lt second
          simp only [rank] at same
          omega
      | replica second =>
          have secondSmall := replica_rank_lt second
          simp only [rank] at same
          omega
      | arbiter second =>
          exact congrArg _ (ArbiterId.rank_injective (by simp only [rank] at same; omega))
      | admin second => simp only [rank] at same; omega
  | admin first =>
      cases b with
      | storageNode second =>
          have secondSmall := storageNode_rank_lt second
          simp only [rank] at same
          omega
      | replica second =>
          have secondSmall := replica_rank_lt second
          simp only [rank] at same
          omega
      | arbiter second =>
          have secondSmall := arbiter_rank_lt second
          simp only [rank] at same
          omega
      | admin second =>
          exact congrArg _ (UInt32.toNat_inj.mp (by simp only [rank] at same; omega))

instance : KeyOrder ResourceId := KeyOrder.ofRank rank rank_injective

instance : Keyed ResourceId ResourceId := ⟨fun id => id⟩

def sorted (ids : List ResourceId) : List ResourceId := (KeyedMap.ofList ids).toList

end ResourceId

end ShardControl

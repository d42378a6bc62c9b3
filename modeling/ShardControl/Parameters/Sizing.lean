import ShardControl.Parameters.Basic

/-!
# Sizing

The memory of a storage node is shared by the replicas it hosts, after a fixed
part for every arbiter.  A replica's cache is a part of its heap.
-/

namespace ShardControl

structure HeapAndCache where
  heapMb : UInt64
  cacheBytes : UInt64
  cachePercent : UInt32
  deriving DecidableEq

namespace HeapAndCache

def unspecified : HeapAndCache := ⟨0, 0, 0⟩

def isSpecified (size : HeapAndCache) : Bool := size.heapMb ≠ 0

end HeapAndCache

namespace StorageNodeParams

/-- The memory in megabytes that the policies leave to heaps. -/
def usableMb (params : StorageNodeParams) (policies : Policies) : UInt64 :=
  Word.mulSat params.memoryMb policies.replicaHeapPercent.toUInt64 / 100

/--
The heap and cache of each replica on the storage node.  The counts include
the replica that is being sized.
-/
def heapAndCache (params : StorageNodeParams) (policies : Policies) (replicas : UInt64)
    (cachePercent : UInt32) (arbiters : UInt64) : HeapAndCache :=
  if params.memoryMb = 0 ∨ replicas = 0 then .unspecified
  else
    let arbiterShare := Word.mulSat policies.arbiterHeapMb arbiters
    let perReplica := Word.subSat (params.usableMb policies) arbiterShare / replicas
    let heapMb := min perReplica policies.maxHeapMb
    if heapMb = 0 then .unspecified
    else
      let percent := min cachePercent 100
      { heapMb := heapMb
        cacheBytes := Word.mulSat heapMb (1024 * 1024) / 100 * percent.toUInt64
        cachePercent := percent }

/--
The garbage-collector threads of each hosted node: one for each of the first
eight processors and five for every eight beyond them.  The product is a word
and keeps only what fits.
-/
def gcThreads (params : StorageNodeParams) : UInt32 :=
  if params.numCpus ≤ 8 then params.numCpus else 8 + (params.numCpus - 8) * 5 / 8

end StorageNodeParams

def ReplicaParams.withSize (params : ReplicaParams) (size : HeapAndCache) : ReplicaParams :=
  { params with
    heapMb := size.heapMb
    cacheBytes := size.cacheBytes
    cachePercent := size.cachePercent }

end ShardControl

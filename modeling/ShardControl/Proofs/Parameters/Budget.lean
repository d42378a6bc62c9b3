import Mathlib.Order.MinMax
import ShardControl.Proofs.Parameters.Sharing

/-!
# The budget of a storage node

The replicas and arbiters of a storage node, all sized alike, stay within the
part of its memory that the policies leave to heaps.  Products that stop at the
largest word only make the heaps smaller, so this is so for all words.  More
memory never makes a heap smaller, and more hosted nodes never make it larger.
-/

namespace ShardControl

/-! ## Checked words -/

namespace Word

def div? (a b : UInt64) : Option UInt64 := if b = 0 then none else some (a / b)

def mul? (a b : UInt64) : Option UInt64 := ofNat64? (a.toNat * b.toNat)

theorem div?_of_ne {a b : UInt64} (nonzero : b ≠ 0) : div? a b = some (a / b) :=
  if_neg nonzero

theorem toNat_mul_of_lt {a b : UInt64} (small : a.toNat * b.toNat < UInt64.size) :
    (a * b).toNat = a.toNat * b.toNat := by
  rw [UInt64.toNat_mul]
  exact Nat.mod_eq_of_lt small

theorem mul?_of_lt {a b : UInt64} (small : a.toNat * b.toNat < UInt64.size) :
    mul? a b = some (a * b) := by
  rw [mul?, ← toNat_mul_of_lt small, ofNat64?_toNat]

def mul32? (a b : UInt32) : Option UInt32 := ofNat32? (a.toNat * b.toNat)

theorem mul32?_eq (a b : UInt32) :
    mul32? a b = if a.toNat * b.toNat < UInt32.size then some (a * b) else none := by
  rw [mul32?, ofNat32?]
  refine if_congr Iff.rfl (congrArg some ?_) rfl
  rw [← UInt32.toNat_inj, UInt32.toNat_mul, UInt32.toNat_ofNat']

/-- A percentage of a word, taken of its hundredth, is at most the word. -/
theorem hundredth_mul_le (a : UInt64) {percent : Nat} (le : percent ≤ 100) :
    (a / 100).toNat * percent ≤ a.toNat :=
  calc (a / 100).toNat * percent
      = a.toNat / 100 * percent := by rw [UInt64.toNat_div]; rfl
    _ ≤ a.toNat / 100 * 100 := Nat.mul_le_mul_left _ le
    _ ≤ a.toNat := Nat.div_mul_le_self a.toNat 100

end Word

theorem cappedPercent_le (percent : UInt32) : (min percent 100).toUInt64.toNat ≤ 100 := by
  have le : min percent 100 ≤ 100 := Std.min_le_right
  rw [UInt32.toNat_toUInt64]
  exact UInt32.le_iff_toNat_le.mp le

/-! ## Sizes -/

namespace HeapAndCache

def ofHeap (heapMb : UInt64) (cachePercent : UInt32) : HeapAndCache :=
  if heapMb = 0 then .unspecified
  else
    { heapMb := heapMb
      cacheBytes := Word.mulSat heapMb (1024 * 1024) / 100 * (min cachePercent 100).toUInt64
      cachePercent := min cachePercent 100 }

/-- The same, worked out with operations that fail. -/
def ofHeap? (heapMb : UInt64) (cachePercent : UInt32) : Option HeapAndCache :=
  if heapMb = 0 then some .unspecified
  else do
    let hundredth ← Word.div? (Word.mulSat heapMb (1024 * 1024)) 100
    let cacheBytes ← Word.mul? hundredth (min cachePercent 100).toUInt64
    return { heapMb := heapMb, cacheBytes := cacheBytes, cachePercent := min cachePercent 100 }

theorem hundredth_mul_lt (a : UInt64) (percent : UInt32) :
    (a / 100).toNat * (min percent 100).toUInt64.toNat < UInt64.size :=
  Nat.lt_of_le_of_lt (Word.hundredth_mul_le a (cappedPercent_le percent)) a.toNat_lt

theorem ofHeap?_eq (heapMb : UInt64) (cachePercent : UInt32) :
    ofHeap? heapMb cachePercent = some (ofHeap heapMb cachePercent) := by
  rw [ofHeap?, ofHeap]
  split
  · rfl
  · rw [Word.div?_of_ne (by decide), Option.bind_eq_bind, Option.bind_some,
      Word.mul?_of_lt (hundredth_mul_lt _ _)]
    rfl

theorem heapMb_ofHeap (heapMb : UInt64) (cachePercent : UInt32) :
    (ofHeap heapMb cachePercent).heapMb = heapMb := by
  rw [ofHeap]
  split
  · rename_i zero
    exact zero.symm
  · rfl

theorem cachePercent_ofHeap_le (heapMb : UInt64) (cachePercent : UInt32) :
    (ofHeap heapMb cachePercent).cachePercent.toNat ≤ 100 := by
  rw [ofHeap]
  split
  · exact Nat.zero_le _
  · exact cappedPercent_le cachePercent

/-- The cache is a part of the heap. -/
theorem cacheBytes_ofHeap_le (heapMb : UInt64) (cachePercent : UInt32) :
    (ofHeap heapMb cachePercent).cacheBytes.toNat ≤ heapMb.toNat * 2 ^ 20 := by
  rw [ofHeap]
  split
  · exact Nat.zero_le _
  · have exact := Word.toNat_mul_of_lt
      (hundredth_mul_lt (Word.mulSat heapMb (1024 * 1024)) cachePercent)
    calc (Word.mulSat heapMb (1024 * 1024) / 100 * (min cachePercent 100).toUInt64).toNat
        = (Word.mulSat heapMb (1024 * 1024) / 100).toNat *
            (min cachePercent 100).toUInt64.toNat := exact
      _ ≤ (Word.mulSat heapMb (1024 * 1024)).toNat :=
          Word.hundredth_mul_le _ (cappedPercent_le cachePercent)
      _ = min (heapMb.toNat * 2 ^ 20) (UInt64.size - 1) := Word.toNat_mulSat _ _
      _ ≤ heapMb.toNat * 2 ^ 20 := Nat.min_le_left _ _

/-- A size that a storage node can give to each of its replicas, in exact numbers. -/
structure Affordable (size : HeapAndCache) (host : StorageNodeParams) (policies : Policies)
    (replicas arbiters : UInt64) : Prop where
  heap_pos : 1 ≤ size.heapMb.toNat
  heap_le : size.heapMb.toNat ≤ policies.maxHeapMb.toNat
  budget : replicas.toNat * size.heapMb.toNat + arbiters.toNat * policies.arbiterHeapMb.toNat ≤
    host.memoryMb.toNat * policies.replicaHeapPercent.toNat / 100
  cache_le : size.cacheBytes.toNat ≤ size.heapMb.toNat * 2 ^ 20
  percent_le : size.cachePercent.toNat ≤ 100

end HeapAndCache

namespace StorageNodeParams

/-- The heap and cache of each replica, worked out with operations that fail where a divisor is
zero or a product is no word. -/
def heapAndCache? (host : StorageNodeParams) (policies : Policies) (replicas : UInt64)
    (cachePercent : UInt32) (arbiters : UInt64) : Option HeapAndCache :=
  if host.memoryMb = 0 ∨ replicas = 0 then some .unspecified
  else do
    let usable ← Word.div? (Word.mulSat host.memoryMb policies.replicaHeapPercent.toUInt64) 100
    let room := Word.subSat usable (Word.mulSat policies.arbiterHeapMb arbiters)
    let perReplica ← Word.div? room replicas
    HeapAndCache.ofHeap? (min perReplica policies.maxHeapMb) cachePercent

/-- The garbage-collector threads, worked out with a product that fails where it is no word.  The
sum always is one. -/
def gcThreads? (host : StorageNodeParams) : Option UInt32 :=
  if host.numCpus ≤ 8 then some host.numCpus
  else do
    let parts ← Word.mul32? (host.numCpus - 8) 5
    return 8 + parts / 8

variable (host : StorageNodeParams) (policies : Policies) (replicas : UInt64) (percent : UInt32)
  (arbiters : UInt64)

/-- Only with more than 858993467 processors does the product not fit. -/
theorem gcThreads?_eq :
    host.gcThreads? = if host.numCpus.toNat ≤ 858993467 then some host.gcThreads else none := by
  rw [gcThreads?, gcThreads]
  by_cases few : host.numCpus ≤ 8
  · have bound : host.numCpus.toNat ≤ 8 := UInt32.le_iff_toNat_le.mp few
    rw [if_pos few, if_pos few, if_pos (by omega)]
  · have bound : ¬ host.numCpus.toNat ≤ 8 := fun le => few (UInt32.le_iff_toNat_le.mpr le)
    have rest : (host.numCpus - 8).toNat = host.numCpus.toNat - 8 :=
      UInt32.toNat_sub_of_le _ _ (UInt32.le_iff_toNat_le.mpr (Nat.le_of_not_le bound))
    rw [if_neg few, if_neg few, Word.mul32?_eq, rest]
    by_cases fits : host.numCpus.toNat ≤ 858993467
    · have small : (host.numCpus.toNat - 8) * (5 : UInt32).toNat < UInt32.size := by
        simp only [UInt32.size, UInt32.reduceToNat]
        omega
      rw [if_pos fits, if_pos small]
      rfl
    · have large : ¬ (host.numCpus.toNat - 8) * (5 : UInt32).toNat < UInt32.size := by
        simp only [UInt32.size, UInt32.reduceToNat]
        omega
      rw [if_neg fits, if_neg large]
      rfl

theorem heapAndCache_eq : host.heapAndCache policies replicas percent arbiters =
    if host.memoryMb = 0 ∨ replicas = 0 then .unspecified
    else .ofHeap (min (host.wordRoom policies arbiters / replicas) policies.maxHeapMb) percent :=
  rfl

theorem heapAndCache?_eq : host.heapAndCache? policies replicas percent arbiters =
    some (host.heapAndCache policies replicas percent arbiters) := by
  rw [heapAndCache_eq, heapAndCache?]
  split
  · rfl
  · rename_i busy
    have hosts : replicas ≠ 0 := fun none => busy (.inr none)
    rw [Word.div?_of_ne (by decide), Option.bind_eq_bind, Option.bind_some]
    change (Word.div? (host.wordRoom policies arbiters) replicas).bind _ = _
    rw [Word.div?_of_ne hosts, Option.bind_some, HeapAndCache.ofHeap?_eq]

/-- What the heaps and the arbiters take is within the part of the memory for heaps. -/
theorem budget_of_heap_pos
    (sized : 0 < (host.heapAndCache policies replicas percent arbiters).heapMb.toNat) :
    replicas.toNat * (host.heapAndCache policies replicas percent arbiters).heapMb.toNat +
        arbiters.toNat * policies.arbiterHeapMb.toNat ≤
      host.memoryMb.toNat * policies.replicaHeapPercent.toNat / 100 := by
  have heap := host.toNat_heapMb policies replicas percent arbiters
  have room := host.wordRoom_le policies arbiters
  generalize (host.heapAndCache policies replicas percent arbiters).heapMb.toNat = size at *
  have share : size ≤ (host.wordRoom policies arbiters).toNat / replicas.toNat :=
    heap ▸ Nat.min_le_left _ _
  have hosts : 0 < replicas.toNat := by
    refine Nat.pos_of_ne_zero fun none => ?_
    rw [none, Nat.div_zero] at share
    omega
  -- There is room for heaps only if there is room for the arbiters.
  have taken : replicas.toNat * size ≤ host.roomMb policies arbiters.toNat := by
    rw [Nat.mul_comm]
    exact Nat.le_trans (Nat.mul_le_of_le_div _ _ _ share) room
  have some : 0 < replicas.toNat * size := Nat.mul_pos hosts sized
  rw [roomMb, Nat.mul_comm policies.arbiterHeapMb.toNat] at taken
  omega

theorem affordable_of_heap_pos
    (sized : 0 < (host.heapAndCache policies replicas percent arbiters).heapMb.toNat) :
    (host.heapAndCache policies replicas percent arbiters).Affordable host policies replicas
      arbiters where
  heap_pos := sized
  heap_le := by
    rw [toNat_heapMb]
    exact Nat.min_le_right _ _
  budget := host.budget_of_heap_pos policies replicas percent arbiters sized
  cache_le := by
    rw [heapAndCache_eq]
    split
    · exact Nat.zero_le _
    · rw [HeapAndCache.heapMb_ofHeap]
      exact HeapAndCache.cacheBytes_ofHeap_le _ _
  percent_le := by
    rw [heapAndCache_eq]
    split
    · exact Nat.zero_le _
    · exact HeapAndCache.cachePercent_ofHeap_le _ _

/-- Without a heap there is no cache either. -/
theorem eq_unspecified_of_heap_eq_zero
    (none : (host.heapAndCache policies replicas percent arbiters).heapMb = 0) :
    host.heapAndCache policies replicas percent arbiters = .unspecified := by
  rw [heapAndCache_eq] at none ⊢
  split
  · rfl
  · rename_i busy
    rw [if_neg busy, HeapAndCache.heapMb_ofHeap] at none
    rw [HeapAndCache.ofHeap, if_pos none]

structure Sizes : Prop where
  /-- No product wraps around, and nothing is divided by zero. -/
  checked : host.heapAndCache? policies replicas percent arbiters =
    some (host.heapAndCache policies replicas percent arbiters)
  affordable : host.heapAndCache policies replicas percent arbiters = ⟨0, 0, 0⟩ ∨
    (host.heapAndCache policies replicas percent arbiters).Affordable host policies replicas
      arbiters
  /-- More memory does not make a heap smaller. -/
  heap_le_of_memory_le : ∀ more, host.memoryMb ≤ more →
    (host.heapAndCache policies replicas percent arbiters).heapMb ≤
      ({ host with memoryMb := more }.heapAndCache policies replicas percent arbiters).heapMb
  /-- More replicas do not make a heap larger. -/
  heap_le_of_replicas_le : 0 < replicas → ∀ more, replicas ≤ more →
    (host.heapAndCache policies more percent arbiters).heapMb ≤
      (host.heapAndCache policies replicas percent arbiters).heapMb
  /-- Neither do more arbiters. -/
  heap_le_of_arbiters_le : ∀ more, arbiters ≤ more →
    (host.heapAndCache policies replicas percent more).heapMb ≤
      (host.heapAndCache policies replicas percent arbiters).heapMb

theorem wordRoom_mono_memory {more : UInt64} (le : host.memoryMb ≤ more) :
    (host.wordRoom policies arbiters).toNat ≤
      ({ host with memoryMb := more }.wordRoom policies arbiters).toNat := by
  have product : host.memoryMb.toNat * policies.replicaHeapPercent.toNat ≤
      more.toNat * policies.replicaHeapPercent.toNat :=
    Nat.mul_le_mul_right _ (UInt64.le_iff_toNat_le.mp le)
  rw [toNat_wordRoom, toNat_wordRoom]
  dsimp only
  omega

theorem wordRoom_anti_arbiters {more : UInt64} (le : arbiters ≤ more) :
    (host.wordRoom policies more).toNat ≤ (host.wordRoom policies arbiters).toNat := by
  have product : policies.arbiterHeapMb.toNat * arbiters.toNat ≤
      policies.arbiterHeapMb.toNat * more.toNat :=
    Nat.mul_le_mul_left _ (UInt64.le_iff_toNat_le.mp le)
  rw [toNat_wordRoom, toNat_wordRoom]
  omega

theorem sizes_within_budget : Sizes host policies replicas percent arbiters where
  checked := host.heapAndCache?_eq policies replicas percent arbiters
  affordable := by
    by_cases none : (host.heapAndCache policies replicas percent arbiters).heapMb = 0
    · exact .inl (host.eq_unspecified_of_heap_eq_zero policies replicas percent arbiters none)
    · have sized := Nat.pos_of_ne_zero fun zero => none (UInt64.toNat_inj.mp zero)
      exact .inr (host.affordable_of_heap_pos policies replicas percent arbiters sized)
  heap_le_of_memory_le := by
    intro more le
    rw [UInt64.le_iff_toNat_le, toNat_heapMb, toNat_heapMb]
    exact min_le_min_right _ (Nat.div_le_div_right (host.wordRoom_mono_memory policies arbiters le))
  heap_le_of_replicas_le := by
    intro some more le
    rw [UInt64.le_iff_toNat_le, toNat_heapMb, toNat_heapMb]
    exact min_le_min_right _
      (Nat.div_le_div_left (UInt64.le_iff_toNat_le.mp le) (UInt64.lt_iff_toNat_lt.mp some))
  heap_le_of_arbiters_le := by
    intro more le
    rw [UInt64.le_iff_toNat_le, toNat_heapMb, toNat_heapMb]
    exact min_le_min_right _
      (Nat.div_le_div_right (host.wordRoom_anti_arbiters policies arbiters le))

end StorageNodeParams

end ShardControl

import Mathlib.Algebra.GroupWithZero.Nat
import Mathlib.Data.List.Perm.Basic
import ShardControl.Parameters.Sizing

/-!
# Shares of a storage node

A replica is sized once, when it comes to a storage node: its heap is an equal
share of the room there, counted with the replicas that are there by then.
The heaps of those that came earlier are not made smaller, so the heaps come
to a sum of ever smaller shares of the whole room.
-/

namespace ShardControl

/-! ## Sums of shares -/

/-- What the first replicas of a storage node get of its room, one after the other. -/
def shares (room cap : Nat) : Nat → Nat
  | 0 => 0
  | count + 1 => shares room cap count + min (room / (count + 1)) cap

theorem shares_le_mul (room cap count : Nat) : shares room cap count ≤ count * cap := by
  induction count with
  | zero => exact Nat.zero_le _
  | succ count ih =>
      rw [shares, Nat.succ_mul]
      exact Nat.add_le_add ih (Nat.min_le_right _ _)

/-- A single share is within the room, and so are shares that the cap keeps small. -/
theorem shares_le_room {room cap count : Nat} (few : count ≤ 1 ∨ count * cap ≤ room) :
    shares room cap count ≤ room := by
  rcases few with single | small
  · match count, single with
    | 0, _ => exact Nat.zero_le _
    | 1, _ =>
        rw [shares, shares, Nat.zero_add, Nat.div_one]
        exact Nat.min_le_left _ _
  · exact Nat.le_trans (shares_le_mul room cap count) small

theorem shares_mono {room more : Nat} (le : room ≤ more) (cap count : Nat) :
    shares room cap count ≤ shares more cap count := by
  induction count with
  | zero => exact Nat.le_refl _
  | succ count ih =>
      have share : room / (count + 1) ≤ more / (count + 1) := Nat.div_le_div_right le
      exact Nat.add_le_add ih (Nat.le_min.mpr
        ⟨Nat.le_trans (Nat.min_le_left _ _) share, Nat.min_le_right _ _⟩)

/-- As many heaps as have a size at least find room with that size, and no heap is above the
cap. -/
structure Fits (room cap : Nat) (heaps : List Nat) : Prop where
  capped : ∀ heap ∈ heaps, heap ≤ cap
  roomy : ∀ size, heaps.countP (fun heap => size ≤ heap) * size ≤ room

namespace Fits

variable {room cap : Nat} {heaps others : List Nat}

theorem nil (room cap : Nat) : Fits room cap [] :=
  ⟨by simp, by simp⟩

theorem sublist (fits : Fits room cap heaps) (less : others.Sublist heaps) :
    Fits room cap others where
  capped heap member := fits.capped heap (less.subset member)
  roomy size := Nat.le_trans (Nat.mul_le_mul_right size less.countP_le) (fits.roomy size)

theorem perm (fits : Fits room cap heaps) (same : heaps.Perm others) : Fits room cap others where
  capped heap member := fits.capped heap (same.mem_iff.mpr member)
  roomy size := same.countP_eq _ ▸ fits.roomy size

/-- A heap may come to others if it is a share of the room for all of them. -/
theorem cons {heap : Nat} (fits : Fits room cap heaps) (low : heap ≤ cap)
    (share : heap ≤ room / (heaps.length + 1)) : Fits room cap (heap :: heaps) where
  capped := List.forall_mem_cons.mpr ⟨low, fits.capped⟩
  roomy size := by
    by_cases counted : size ≤ heap
    · have count : (heap :: heaps).countP (fun heap => size ≤ heap) ≤ heaps.length + 1 :=
        List.countP_le_length
      calc (heap :: heaps).countP (fun heap => size ≤ heap) * size
          ≤ (heaps.length + 1) * heap := Nat.mul_le_mul count counted
        _ = heap * (heaps.length + 1) := Nat.mul_comm _ _
        _ ≤ room := Nat.mul_le_of_le_div _ _ _ share
    · rw [List.countP_cons_of_neg (by simpa using counted)]
      exact fits.roomy size

theorem sum_le (fits : Fits room cap heaps) : heaps.sum ≤ shares room cap heaps.length := by
  -- The smallest of the heaps is a share of the room for all of them.
  induction counted : heaps.length generalizing heaps with
  | zero => rw [List.length_eq_zero_iff.mp counted]; exact Nat.le_refl _
  | succ count ih =>
      cases smallest : heaps.min? with
      | none => rw [List.min?_eq_none_iff.mp smallest] at counted; cases counted
      | some least =>
          obtain ⟨member, below⟩ := List.min?_eq_some_iff.mp smallest
          have split : heaps.Perm (least :: heaps.erase least) := List.perm_cons_erase member
          have length : (heaps.erase least).length = count := by
            rw [List.length_erase_of_mem member]
            omega
          have rest := ih (fits.sublist List.erase_sublist) length
          have all : heaps.countP (fun heap => least ≤ heap) = count + 1 := by
            rw [← counted, List.countP_eq_length]
            simpa using below
          have share : least ≤ room / (count + 1) := by
            have roomy := fits.roomy least
            rw [all, Nat.mul_comm] at roomy
            exact (Nat.le_div_iff_mul_le (Nat.succ_pos count)).mpr roomy
          rw [split.sum_nat, List.sum_cons, Nat.add_comm]
          exact Nat.add_le_add rest (Nat.le_min.mpr ⟨share, fits.capped least member⟩)

end Fits

/-! ## Rooms -/

theorem Word.toNat_min (a b : UInt64) : (min a b).toNat = min a.toNat b.toNat := by
  change (if a ≤ b then a else b).toNat = _
  split
  · rename_i le
    exact (Nat.min_eq_left (UInt64.le_iff_toNat_le.mp le)).symm
  · rename_i above
    exact (Nat.min_eq_right (Nat.le_of_not_le fun le => above (UInt64.le_iff_toNat_le.mpr le))).symm

namespace StorageNodeParams

/-- What the policies leave of the memory of a storage node to its replicas. -/
def roomMb (host : StorageNodeParams) (policies : Policies) (arbiters : Nat) : Nat :=
  host.memoryMb.toNat * policies.replicaHeapPercent.toNat / 100 -
    policies.arbiterHeapMb.toNat * arbiters

def wordRoom (host : StorageNodeParams) (policies : Policies) (arbiters : UInt64) : UInt64 :=
  Word.subSat (host.usableMb policies) (Word.mulSat policies.arbiterHeapMb arbiters)

theorem toNat_usableMb (host : StorageNodeParams) (policies : Policies) :
    (host.usableMb policies).toNat =
      min (host.memoryMb.toNat * policies.replicaHeapPercent.toNat) (UInt64.size - 1) / 100 := by
  rw [usableMb, UInt64.toNat_div, Word.toNat_mulSat]
  rfl

theorem toNat_wordRoom (host : StorageNodeParams) (policies : Policies) (arbiters : UInt64) :
    (host.wordRoom policies arbiters).toNat =
      min (host.memoryMb.toNat * policies.replicaHeapPercent.toNat) (UInt64.size - 1) / 100 -
        min (policies.arbiterHeapMb.toNat * arbiters.toNat) (UInt64.size - 1) := by
  rw [wordRoom, Word.toNat_subSat, toNat_usableMb, Word.toNat_mulSat]

/-- A word that is too small for the arbiters is too small for the memory as well. -/
theorem wordRoom_le (host : StorageNodeParams) (policies : Policies) (arbiters : UInt64) :
    (host.wordRoom policies arbiters).toNat ≤ host.roomMb policies arbiters.toNat := by
  rw [toNat_wordRoom, roomMb]
  generalize host.memoryMb.toNat * policies.replicaHeapPercent.toNat = memory
  generalize policies.arbiterHeapMb.toNat * arbiters.toNat = taken
  simp only [UInt64.size]
  omega

theorem wordRoom_eq (host : StorageNodeParams) (policies : Policies) (arbiters : UInt64)
    (small : host.memoryMb.toNat * policies.replicaHeapPercent.toNat < UInt64.size) :
    (host.wordRoom policies arbiters).toNat = host.roomMb policies arbiters.toNat := by
  rw [toNat_wordRoom, roomMb]
  revert small
  generalize host.memoryMb.toNat * policies.replicaHeapPercent.toNat = memory
  generalize policies.arbiterHeapMb.toNat * arbiters.toNat = taken
  simp only [UInt64.size]
  omega

/-- The heap of a replica is its share of the room, up to the cap. -/
theorem toNat_heapMb (host : StorageNodeParams) (policies : Policies) (replicas : UInt64)
    (percent : UInt32) (arbiters : UInt64) :
    (host.heapAndCache policies replicas percent arbiters).heapMb.toNat =
      min ((host.wordRoom policies arbiters).toNat / replicas.toNat) policies.maxHeapMb.toNat := by
  have share : (min ((host.wordRoom policies arbiters) / replicas) policies.maxHeapMb).toNat =
      min ((host.wordRoom policies arbiters).toNat / replicas.toNat) policies.maxHeapMb.toNat := by
    rw [Word.toNat_min, UInt64.toNat_div]
  rw [heapAndCache, ← share]
  split
  · rename_i none
    rcases none with noMemory | noReplicas
    · rw [share, toNat_wordRoom, noMemory]
      simp [HeapAndCache.unspecified]
    · rw [share, noReplicas]
      simp [HeapAndCache.unspecified]
  · dsimp only
    split
    · rename_i zero
      exact congrArg UInt64.toNat zero.symm
    · rfl

end StorageNodeParams

end ShardControl

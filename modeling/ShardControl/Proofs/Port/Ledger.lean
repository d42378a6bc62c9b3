import ShardControl.Port.Ledger
import ShardControl.Proofs.KeyedMap.Lookup

/-!
# Ports that are given out

A port that a ledger gives out lies in the range of its storage node, and no
replica that the topology places there holds it.
-/

namespace ShardControl

theorem PortRange.mem_ports_iff {range : PortRange} {port : UInt16} :
    port ∈ range.ports ↔ range.contains port = true := by
  have small : port.toNat < UInt16.size := port.toNat_lt
  have lastSmall : range.last.toNat < UInt16.size := range.last.toNat_lt
  simp only [ports, count, List.mem_map, List.mem_range'_1, contains, Bool.and_eq_true,
    decide_eq_true_eq, UInt16.le_iff_toNat_le]
  constructor
  · rintro ⟨num, ⟨low, high⟩, rfl⟩
    rw [UInt16.toNat_ofNat_of_lt' (by omega)]
    omega
  · rintro ⟨low, high⟩
    exact ⟨port.toNat, by omega, UInt16.ofNat_toNat⟩

theorem PortRange.pairwise_ports (range : PortRange) : range.ports.Pairwise (· < ·) := by
  have small : range.last.toNat < UInt16.size := range.last.toNat_lt
  refine List.pairwise_map.mpr ((List.pairwise_lt_range').imp_of_mem ?_)
  intro lower higher inRange alsoInRange less
  have bounds := List.mem_range'_1.mp alsoInRange
  rw [count] at bounds
  rw [UInt16.lt_iff_toNat_lt, UInt16.toNat_ofNat_of_lt' (by omega),
    UInt16.toNat_ofNat_of_lt' (by omega)]
  exact less

namespace PortUse

variable {use : PortUse} {range : PortRange} {port : UInt16}

theorem lowestFree?_eq_some (found : use.lowestFree? range = some port) :
    range.contains port = true ∧ use.taken.contains port = false := by
  have searched : range.ports.find? (fun port => !use.taken.contains port) = some port := found
  refine ⟨PortRange.mem_ports_iff.mp (List.mem_of_find?_eq_some searched), ?_⟩
  have free := List.find?_some searched
  simpa using free

/-- The port that is found is in front of all others that are free. -/
theorem le_of_lowestFree? (found : use.lowestFree? range = some port) {other : UInt16}
    (inRange : range.contains other = true) (free : use.taken.contains other = false) :
    port ≤ other := by
  rw [lowestFree?] at found
  obtain ⟨_, before, after, split, taken⟩ := List.find?_eq_some_iff_append.mp found
  have ordered := range.pairwise_ports
  have member := PortRange.mem_ports_iff.mpr inRange
  rw [split] at ordered member
  rcases List.mem_append.mp member with earlier | here
  · have isTaken := taken other earlier
    simp [free] at isTaken
  · rcases List.mem_cons.mp here with rfl | later
    · exact UInt16.le_refl _
    · exact UInt16.le_of_lt (List.rel_of_pairwise_cons (List.pairwise_append.mp ordered).2.1 later)

theorem lowestFree?_eq_some_iff :
    use.lowestFree? range = some port ↔
      range.contains port = true ∧ use.taken.contains port = false ∧
        ∀ other, range.contains other = true → use.taken.contains other = false →
          port ≤ other := by
  constructor
  · intro found
    obtain ⟨inRange, free⟩ := lowestFree?_eq_some found
    exact ⟨inRange, free, fun other => le_of_lowestFree? found⟩
  · rintro ⟨inRange, free, lowest⟩
    cases found : use.lowestFree? range with
    | none =>
        have taken := List.find?_eq_none.mp found port (PortRange.mem_ports_iff.mpr inRange)
        simp [free] at taken
    | some other =>
        obtain ⟨otherInRange, otherFree⟩ := lowestFree?_eq_some found
        have below := le_of_lowestFree? found inRange free
        have above := lowest other otherInRange otherFree
        exact congrArg some (UInt16.le_antisymm below above)

/-- Where a port is free one is found. -/
theorem exists_lowestFree? (inRange : range.contains port = true)
    (free : use.taken.contains port = false) :
    ∃ lowest, use.lowestFree? range = some lowest := by
  refine Option.isSome_iff_exists.mp (List.find?_isSome.mpr ⟨port, ?_, ?_⟩)
  · exact PortRange.mem_ports_iff.mpr inRange
  · simpa using free

end PortUse

/-- The ports taken on a storage node are those of the replicas placed there. -/
theorem PortUse.taken_contains_iff {topology : Topology} {parameters : Parameters}
    {node : StorageNodeId} {port : UInt16} :
    (PortUse.ofStorageNode topology parameters node).taken.contains port = true ↔
      ∃ id ∈ topology.hostedReplicas node, ∃ params,
        parameters.replica? id = some params ∧ params.haPort = port := by
  simp only [ofStorageNode, KeyedMap.contains_ofList_iff, List.mem_map, List.mem_filterMap]
  constructor
  · rintro ⟨_, ⟨params, ⟨id, hosted, found⟩, rfl⟩, same⟩
    exact ⟨id, hosted, params, found, same⟩
  · rintro ⟨id, hosted, params, found, same⟩
    exact ⟨_, ⟨params, ⟨id, hosted, found⟩, rfl⟩, same⟩

namespace PortLedger

/-- A ledger made of a topology knows each storage node as the topology has it. -/
theorem find?_ofTopology {topology : Topology} {parameters : Parameters} {node : StorageNodeId}
    {use : PortUse} (found : (ofTopology topology parameters).find? node = some use) :
    use = .ofStorageNode topology parameters node := by
  obtain ⟨member, same⟩ := KeyedMap.find?_eq_some_iff.mp found
  rcases KeyedMap.mem_insertAll member with inEmpty | listed
  · cases inEmpty
  · obtain ⟨other, _, rfl⟩ := List.mem_map.mp listed
    have sameNode : other.id = node := same
    rw [sameNode]

/-- A ledger made of a topology knows all its storage nodes. -/
theorem find?_ofTopology_of_listed {topology : Topology} (parameters : Parameters)
    {node : StorageNodeId} (listed : topology.storageNodes.contains node = true) :
    (ofTopology topology parameters).find? node =
      some (.ofStorageNode topology parameters node) := by
  obtain ⟨host, found⟩ := Option.isSome_iff_exists.mp listed
  obtain ⟨member, named⟩ := KeyedMap.find?_eq_some_iff.mp found
  have known : (ofTopology topology parameters).contains node = true :=
    KeyedMap.contains_ofList_iff.mpr ⟨_, List.mem_map_of_mem member, named⟩
  obtain ⟨use, present⟩ := Option.isSome_iff_exists.mp known
  rw [present, find?_ofTopology present]

theorem next_ofTopology_eq_ok_iff {topology : Topology} {parameters : Parameters}
    {node : StorageNodeId} {host : StorageNodeParams} {port : UInt16}
    (listed : topology.storageNodes.contains node = true)
    (described : parameters.storageNode? node = some host) :
    (∃ ledger, (ofTopology topology parameters).next node = .ok (port, ledger)) ↔
      (PortUse.ofStorageNode topology parameters node).lowestFree? host.haPorts = some port := by
  have ranged : (PortUse.ofStorageNode topology parameters node).range = some host.haPorts :=
    congrArg (Option.map StorageNodeParams.haPorts) described
  simp only [next, find?_ofTopology_of_listed parameters listed, ranged]
  cases (PortUse.ofStorageNode topology parameters node).lowestFree? host.haPorts <;> simp

theorem next_eq_ok {topology : Topology} {parameters : Parameters} {node : StorageNodeId}
    {port : UInt16} {ledger : PortLedger}
    (given : (ofTopology topology parameters).next node = .ok (port, ledger)) :
    ∃ host, parameters.storageNode? node = some host ∧ host.haPorts.contains port = true ∧
      ∀ id ∈ topology.hostedReplicas node, ∀ params,
        parameters.replica? id = some params → params.haPort ≠ port := by
  rw [next] at given
  split at given
  · cases given
  · rename_i use found
    have useEq := find?_ofTopology found
    split at given
    · cases given
    · rename_i range ranged
      split at given
      · cases given
      · rename_i lowest free
        cases given
        obtain ⟨inRange, notTaken⟩ := PortUse.lowestFree?_eq_some free
        rw [useEq] at ranged notTaken
        obtain ⟨host, hostFound, rfl⟩ := Option.map_eq_some_iff.mp ranged
        refine ⟨host, hostFound, inRange, ?_⟩
        intro id hosted params stored same
        have taken := PortUse.taken_contains_iff.mpr ⟨id, hosted, params, stored, same⟩
        rw [notTaken] at taken
        cases taken

/-! ## Ledgers that agree on a storage node -/

/-- What a ledger gives out on a storage node depends on the ports there alone. -/
theorem next_congr {ledger other : PortLedger} {node : StorageNodeId}
    (same : ledger.find? node = other.find? node) :
    (ledger.next node).map Prod.fst = (other.next node).map Prod.fst := by
  rw [next, next, same]
  cases other.find? node with
  | none => rfl
  | some use =>
      dsimp only
      cases use.range with
      | none => rfl
      | some range =>
          dsimp only
          cases use.lowestFree? range with
          | none => rfl
          | some port => rfl

theorem find?_ofTopology_congr {topology other : Topology}
    {parameters otherParameters : Parameters} {node : StorageNodeId}
    (listed : topology.storageNodes = other.storageNodes)
    (same : PortUse.ofStorageNode topology parameters node =
      PortUse.ofStorageNode other otherParameters node) :
    (ofTopology topology parameters).find? node =
      (ofTopology other otherParameters).find? node := by
  have uses (topology : Topology) (parameters : Parameters) :
      (ofTopology topology parameters).find? node =
        ((topology.storageNodes.toList.filter fun host => host.id = node).map fun host =>
          PortUse.ofStorageNode topology parameters host.id).getLast? := by
    rw [ofTopology, KeyedMap.ofList, KeyedMap.find?_insertAll, List.filter_map]
    exact Option.or_none
  rw [uses, uses, listed]
  congr 1
  refine List.map_congr_left fun host member => ?_
  obtain rfl : host.id = node := by simpa using (List.mem_filter.mp member).2
  exact same

end PortLedger

end ShardControl

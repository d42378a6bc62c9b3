import ShardControl.Proofs.Deploy.Choice
import ShardControl.Proofs.Deploy.Renumbering

/-!
# Independent deployments

A new replica of one shard on one storage node is not seen from another shard
and another storage node: the members there, their ports and the room that is
left stay as they are.  So two executions for different shards and different
storage nodes come to the same, whichever is the first.
-/

namespace ShardControl

/-! ## What a new replica leaves as it is -/

namespace Topology

variable {topology : Topology} {shard home : Shard} {node place : StorageNodeId}

theorem putShard_comm (topology : Topology) {first second : Shard} (differ : first.id ≠ second.id) :
    (topology.putShard first).putShard second = (topology.putShard second).putShard first :=
  congrArg (fun shards => { topology with shards := shards })
    (KeyedMap.insert_comm topology.shards differ)

/-- The shard stands among the others as it does once it has grown. -/
theorem exists_shards_addReplica (present : topology.shard? shard.id = some shard)
    (node : StorageNodeId) :
    ∃ before after, topology.shards.toList = before ++ shard :: after ∧
      (topology.putShard (shard.addReplica node).2).shards.toList =
        before ++ (shard.addReplica node).2 :: after := by
  obtain ⟨before, after, placed⟩ := KeyedMap.exists_toList_insert topology.shards shard.id
  have unchanged : topology.shards.insert shard = topology.shards :=
    KeyedMap.insert_of_mem (shard?_eq_some_iff.mp present).1
  refine ⟨before, after, ?_, placed _ rfl⟩
  rw [← placed shard rfl, unchanged]

theorem arbiters_addReplica (present : topology.shard? shard.id = some shard)
    (node : StorageNodeId) :
    (topology.putShard (shard.addReplica node).2).arbiters = topology.arbiters := by
  obtain ⟨before, after, shards, grown⟩ := exists_shards_addReplica present node
  rw [arbiters, grown, arbiters, shards, List.flatMap_append, List.flatMap_append]
  rfl

theorem hostedArbiters_addReplica (present : topology.shard? shard.id = some shard)
    (node place : StorageNodeId) :
    (topology.putShard (shard.addReplica node).2).hostedArbiters place =
      topology.hostedArbiters place := by
  rw [hostedArbiters, arbiters_addReplica present]
  rfl

/-- A storage node hosts what it hosted, and the new replica if it is put there. -/
theorem exists_hostedReplicas_addReplica (present : topology.shard? shard.id = some shard)
    (below : shard.Below shard.nextNum) (node place : StorageNodeId) :
    ∃ before after, topology.hostedReplicas place = before ++ after ∧
      (topology.putShard (shard.addReplica node).2).hostedReplicas place =
        before ++ (if node = place then [shard.nextReplica] else []) ++ after := by
  obtain ⟨before, after, shards, grown⟩ := exists_shards_addReplica present node
  have members : (shard.addReplica node).2.replicas.toList =
      shard.replicas.toList ++ [⟨shard.nextReplica, node⟩] :=
    Shard.replicas_addReplica below node
  let hosted (replicas : List Replica) : List ReplicaId :=
    (replicas.filter fun replica => replica.storageNode = place).map Replica.id
  refine ⟨hosted (before.flatMap (fun shard => shard.replicas.toList) ++ shard.replicas.toList),
    hosted (after.flatMap fun shard => shard.replicas.toList), ?_, ?_⟩
  · rw [hostedReplicas, replicas, shards]
    simp [hosted]
  · rw [hostedReplicas, replicas, grown]
    by_cases here : node = place
    · subst here
      simp [hosted, members]
    · simp [hosted, members, here]

/-- Other storage nodes host what they hosted. -/
theorem hostedReplicas_addReplica (present : topology.shard? shard.id = some shard)
    (below : shard.Below shard.nextNum) (elsewhere : node ≠ place) :
    (topology.putShard (shard.addReplica node).2).hostedReplicas place =
      topology.hostedReplicas place := by
  obtain ⟨before, after, hosted, grown⟩ :=
    exists_hostedReplicas_addReplica present below node place
  rw [grown, hosted, if_neg elsewhere, List.append_nil]

theorem shard?_addReplica {id : ShardId} (apart : id ≠ shard.id) (node : StorageNodeId)
    (sequence : UInt64) :
    ((topology.putShard (shard.addReplica node).2).withSequence sequence).shard? id =
      topology.shard? id :=
  (shard?_putShard topology _ id).trans (if_neg apart.symm)

/-- A replica of another shard is added in the same way. -/
theorem addReplica_addReplica {id : ShardId} (apart : id ≠ shard.id) (sequence : UInt64) :
    ((topology.putShard (shard.addReplica node).2).withSequence sequence).addReplica id place =
      (topology.addReplica id place).map fun added =>
        (added.1, (added.2.putShard (shard.addReplica node).2).withSequence sequence) := by
  rw [addReplica, addReplica, shard?_addReplica apart]
  change (if topology.storageNodes.contains place = true then _ else _) = _
  split
  · cases found : topology.shard? id with
    | none => rfl
    | some home =>
        obtain rfl : home.id = id := KeyedMap.key_of_find? found
        have commutes : (topology.putShard (shard.addReplica node).2).putShard
              (home.addReplica place).2 =
            (topology.putShard (home.addReplica place).2).putShard (shard.addReplica node).2 :=
          putShard_comm topology apart.symm
        exact congrArg (fun grown => Except.ok ((home.addReplica place).1,
          withSequence grown sequence)) commutes
  · rfl

end Topology

/-! ## What a new replica leaves to other drafts -/

namespace Store

/-- Parameters for the next replica of a shard of the store, where members carry numbers that
their shards have given out. -/
structure Admits (store : Store) (shard : Shard) (params : ReplicaParams) : Prop where
  present : store.topology.shard? shard.id = some shard
  members : ∀ other ∈ store.topology.shards.toList, other.Below other.nextNum
  named : params.id = shard.nextReplica

namespace Admits

variable {store : Store} {shard home : Shard} {params : ReplicaParams} {node place : StorageNodeId}

theorem ne_of_mem (admits : store.Admits shard params) {replica : Replica}
    (member : replica ∈ store.topology.replicas) : replica.id ≠ params.id := by
  rw [admits.named]
  exact Topology.id_ne_of_issued admits.members admits.present (UInt32.le_refl _) member

theorem ne_of_mem_grown (admits : store.Admits shard params)
    (present : store.topology.shard? home.id = some home) (apart : home.id ≠ shard.id)
    {replica : Replica}
    (member : replica ∈ (store.topology.putShard (home.addReplica place).2).replicas) :
    replica.id ≠ params.id := by
  rcases Topology.mem_replicas_putShard_iff.mp member with inGrown | ⟨other, inTopology, _, inOther⟩
  · rcases Shard.mem_addReplica_iff.mp inGrown with rfl | ⟨old, _⟩
    · intro same
      rw [admits.named] at same
      exact apart (congrArg ReplicaId.shard same)
    · have inTopology := (Topology.shard?_eq_some_iff.mp present).1
      exact admits.ne_of_mem (Topology.mem_replicas_iff.mpr ⟨home, inTopology, old⟩)
  · exact admits.ne_of_mem (Topology.mem_replicas_iff.mpr ⟨other, inTopology, inOther⟩)

theorem present_grown (admits : store.Admits shard params) (apart : home.id ≠ shard.id)
    (place : StorageNodeId) :
    (store.topology.putShard (home.addReplica place).2).shard? shard.id = some shard := by
  have differ : (home.addReplica place).2.id ≠ shard.id := apart
  rw [Topology.shard?_putShard, if_neg differ]
  exact admits.present

theorem hostedReplicas_grown (admits : store.Admits shard params) (apart : home.id ≠ shard.id)
    (elsewhere : node ≠ place) :
    ((store.topology.putShard (home.addReplica place).2).putShard
        (shard.addReplica node).2).hostedReplicas place =
      (store.topology.putShard (home.addReplica place).2).hostedReplicas place := by
  have inShard := (Topology.shard?_eq_some_iff.mp admits.present).1
  exact Topology.hostedReplicas_addReplica (admits.present_grown apart place)
    (admits.members shard inShard) elsewhere

/-- The ports of another storage node are taken by the same replicas. -/
theorem ofStorageNode_grown (admits : store.Admits shard params)
    (present : store.topology.shard? home.id = some home) (apart : home.id ≠ shard.id)
    (elsewhere : node ≠ place) :
    PortUse.ofStorageNode ((store.topology.putShard (home.addReplica place).2).putShard
        (shard.addReplica node).2) (store.parameters.putReplica params) place =
      PortUse.ofStorageNode (store.topology.putShard (home.addReplica place).2) store.parameters
        place := by
  rw [PortUse.ofStorageNode, PortUse.ofStorageNode, admits.hostedReplicas_grown apart elsewhere]
  have held : ((store.topology.putShard (home.addReplica place).2).hostedReplicas place).filterMap
        (store.parameters.putReplica params).replica? =
      ((store.topology.putShard (home.addReplica place).2).hostedReplicas place).filterMap
        store.parameters.replica? := by
    refine List.filterMap_congr fun id hosted => Parameters.replica?_putReplica_of_ne ?_
    obtain ⟨replica, member, rfl⟩ := List.mem_map.mp hosted
    exact admits.ne_of_mem_grown present apart (List.mem_filter.mp member).1
  rw [held]
  rfl

theorem next_grown (admits : store.Admits shard params)
    (present : store.topology.shard? home.id = some home) (apart : home.id ≠ shard.id)
    (elsewhere : node ≠ place) (sequence : UInt64) :
    ((PortLedger.ofTopology (((store.topology.putShard (home.addReplica place).2).putShard
        (shard.addReplica node).2).withSequence sequence)
        (store.parameters.putReplica params)).next place).map Prod.fst =
      ((PortLedger.ofTopology (store.topology.putShard (home.addReplica place).2)
        store.parameters).next place).map Prod.fst :=
  PortLedger.next_congr (PortLedger.find?_ofTopology_congr rfl
    (admits.ofStorageNode_grown present apart elsewhere))

theorem newParams_grown (admits : store.Admits shard params) (apart : home.id ≠ shard.id)
    {host : StorageNodeParams} (elsewhere : node ≠ host.id) (sequence : UInt64) (id : ReplicaId)
    (port : UInt16) (nodeType : NodeType) (peers : List String)
    (directory : Option StorageDirectory) :
    Draft.newParams (((store.topology.putShard (home.addReplica host.id).2).putShard
        (shard.addReplica node).2).withSequence sequence) (store.parameters.putReplica params) host
        id host.id port nodeType peers directory =
      Draft.newParams (store.topology.putShard (home.addReplica host.id).2) store.parameters host
        id host.id port nodeType peers directory := by
  have replicas := admits.hostedReplicas_grown apart elsewhere
  have arbiters := Topology.arbiters_addReplica (admits.present_grown apart host.id) node
  have size : Draft.size (((store.topology.putShard (home.addReplica host.id).2).putShard
        (shard.addReplica node).2).withSequence sequence) (store.parameters.putReplica params)
        host =
      Draft.size (store.topology.putShard (home.addReplica host.id).2) store.parameters host := by
    rw [Draft.size, Draft.size, ← replicas, Topology.hostedArbiters, Topology.hostedArbiters,
      ← arbiters]
    rfl
  rw [Draft.newParams, Draft.newParams, size]
  rfl

/-- A draft for another shard and another storage node describes the same replica. -/
theorem ofNewReplica_adding (admits : store.Admits shard params)
    (present : store.topology.shard? home.id = some home) (apart : home.id ≠ shard.id)
    (elsewhere : node ≠ place) (directory : Option StorageDirectory) :
    (Draft.ofNewReplica (store.adding shard node params).topology
        (store.adding shard node params).parameters home place directory).map Draft.params =
      (Draft.ofNewReplica store.topology store.parameters home place directory).map
        Draft.params := by
  have helped : Draft.helpers (store.parameters.putReplica params) home.replicas.toList =
      Draft.helpers store.parameters home.replicas.toList := by
    refine Draft.helpers_congr fun replica inShard => Parameters.replica?_putReplica_of_ne ?_
    have inTopology := (Topology.shard?_eq_some_iff.mp present).1
    exact admits.ne_of_mem (Topology.mem_replicas_iff.mpr ⟨home, inTopology, inShard⟩)
  have grows : (store.adding shard node params).topology.addReplica home.id place = _ :=
    Topology.addReplica_addReplica apart (store.sequence + 1)
  have ports := admits.next_grown present apart elsewhere (store.sequence + 1)
  have parameters : (store.adding shard node params).parameters =
      store.parameters.putReplica params := rfl
  have described : (store.parameters.putReplica params).storageNode? place =
      store.parameters.storageNode? place := rfl
  have hosted : (store.adding shard node params).topology.datacenterOf place =
      store.topology.datacenterOf place := rfl
  rw [Draft.map_params_ofNewReplica, Draft.map_params_ofNewReplica, grows, parameters, described,
    hosted, helped]
  cases hostFound : store.parameters.storageNode? place with
  | none => rfl
  | some host =>
      obtain rfl : host.id = place := KeyedMap.key_of_find? hostFound
      cases grew : store.topology.addReplica home.id host.id with
      | error reason => rfl
      | ok added =>
          obtain ⟨id, grown⟩ := added
          obtain ⟨_, other, found, _, rfl⟩ := Topology.addReplica_eq_ok grew
          obtain rfl := Option.some.inj (present.symm.trans found)
          refine congrArg (Except.bind _) (funext fun datacenter =>
            congrArg (Except.bind _) (funext fun peers => ?_))
          split
          · rfl
          · change Except.map _ (Except.mapError _ (Except.map _ _)) = _
            simp only [ports, admits.newParams_grown apart elsewhere]
            rfl

end Admits

/-! ## Executions in either order -/

theorem adding_comm {store : Store} {shard home : Shard} {params other : ReplicaParams}
    {node place : StorageNodeId} (apart : shard.id ≠ home.id) (differ : params.id ≠ other.id) :
    (store.adding shard node params).adding home place other =
      (store.adding home place other).adding shard node params := by
  have shards : (store.topology.putShard (shard.addReplica node).2).putShard
        (home.addReplica place).2 =
      (store.topology.putShard (home.addReplica place).2).putShard (shard.addReplica node).2 :=
    Topology.putShard_comm store.topology apart
  have described : (store.parameters.putReplica params).putReplica other =
      (store.parameters.putReplica other).putReplica params :=
    congrArg (fun replicas => { store.parameters with replicas := replicas })
      (KeyedMap.insert_comm store.parameters.replicas differ)
  have both := congrArg₂ (fun (topology : Topology) parameters => Store.mk
    (topology.withSequence (store.sequence + 1 + 1)) parameters (store.commits + 1 + 1))
    shards described
  exact both

end Store

namespace DeployTask

variable {first second : DeployTask} {firstSlots secondSlots : ShardSlots} {store : Store}
  {agents : Agents}

/-- A new replica is chosen for the shard of the task. -/
theorem admits_of_choice {task : DeployTask} {slots : ShardSlots} {shard : Shard}
    {params : ReplicaParams}
    (members : ∀ shard ∈ store.topology.shards.toList, shard.Below shard.nextNum)
    (chosen : task.choice slots store = .adds shard params) :
    task.target.located slots = .ok shard.id ∧ store.Admits shard params := by
  obtain ⟨located, present, _⟩ := drafted_of_choice chosen
  exact ⟨located, present, members, (params_of_choice chosen).1⟩

/-- A new replica is drafted in the same way if the drafts describe the same replica. -/
theorem newChoice_congr {task : DeployTask} {shard : Shard} {other : Store}
    (same : (Draft.ofNewReplica store.topology store.parameters shard task.storageNode
        task.directory).map Draft.params =
      (Draft.ofNewReplica other.topology other.parameters shard task.storageNode
        task.directory).map Draft.params) :
    task.newChoice store shard = task.newChoice other shard := by
  rw [newChoice, newChoice]
  cases made : Draft.ofNewReplica store.topology store.parameters shard task.storageNode
      task.directory with
  | error reason =>
      cases remade : Draft.ofNewReplica other.topology other.parameters shard task.storageNode
          task.directory with
      | error again =>
          rw [made, remade] at same
          exact congrArg Choice.fails (Except.error.inj same)
      | ok draft =>
          rw [made, remade] at same
          cases same
  | ok draft =>
      cases remade : Draft.ofNewReplica other.topology other.parameters shard task.storageNode
          task.directory with
      | error reason =>
          rw [made, remade] at same
          cases same
      | ok again =>
          rw [made, remade] at same
          exact congrArg (Choice.adds shard) (Except.ok.inj same)

/-- A new replica of another shard on another storage node does not change what a task comes to. -/
theorem choice_adding {task : DeployTask} {slots : ShardSlots} {shard : Shard}
    {params : ReplicaParams} {node : StorageNodeId} (admits : store.Admits shard params)
    (apart : task.target.located slots ≠ .ok shard.id) (elsewhere : node ≠ task.storageNode) :
    task.choice slots (store.adding shard node params) = task.choice slots store := by
  rw [choice, choice]
  cases located : task.target.located slots with
  | error reason => rfl
  | ok id =>
      have differ : id ≠ shard.id := fun same => apart (located.trans (congrArg Except.ok same))
      have found : (store.adding shard node params).topology.shard? id = store.topology.shard? id :=
        Topology.shard?_addReplica differ node _
      simp only [found]
      cases present : store.topology.shard? id with
      | none => rfl
      | some home =>
          obtain rfl : home.id = id := KeyedMap.key_of_find? present
          dsimp only
          cases placed : home.replicaOn task.storageNode with
          | none =>
              exact newChoice_congr (admits.ofNewReplica_adding present differ elsewhere _)
          | some replica =>
              have inTopology := (Topology.shard?_eq_some_iff.mp present).1
              have member := Topology.mem_replicas_iff.mpr
                ⟨home, inTopology, (Shard.replicaOn_eq_some placed).1⟩
              exact congrArg (Choice.adopts replica.id)
                (Parameters.replica?_putReplica_of_ne (admits.ne_of_mem member))

section

variable (members : ∀ shard ∈ store.topology.shards.toList, shard.Below shard.nextNum)
  (apart : ∀ id, first.target.shardIn firstSlots = some id →
    second.target.shardIn secondSlots ≠ some id)
  (elsewhere : first.storageNode ≠ second.storageNode)

include members apart elsewhere

theorem choice_left :
    second.choice secondSlots (first.left firstSlots store) = second.choice secondSlots store := by
  rw [left]
  cases chosen : first.choice firstSlots store with
  | fails reason => rfl
  | adopts replica stored => rfl
  | adds shard params =>
      obtain ⟨located, admits⟩ := admits_of_choice members chosen
      refine choice_adding admits (fun same => ?_) elsewhere
      exact apart shard.id (ShardTarget.located_eq_ok_iff.mp located)
        (ShardTarget.located_eq_ok_iff.mp same)

/-- Neither task sees the other's commit, and the commits commute. -/
theorem left_comm :
    second.left secondSlots (first.left firstSlots store) =
      first.left firstSlots (second.left secondSlots store) := by
  have later := choice_left members apart elsewhere
  have earlier : first.choice firstSlots (second.left secondSlots store) =
      first.choice firstSlots store :=
    choice_left members (fun id target other => apart id other target) elsewhere.symm
  rw [left, later, left, left, earlier, left]
  cases chosen : first.choice firstSlots store with
  | fails reason => rfl
  | adopts replica stored => rfl
  | adds shard params =>
      cases other : second.choice secondSlots store with
      | fails reason => rfl
      | adopts replica stored => rfl
      | adds home others =>
          obtain ⟨located, admits⟩ := admits_of_choice members chosen
          obtain ⟨otherLocated, otherAdmits⟩ := admits_of_choice members other
          have differ : shard.id ≠ home.id := fun same => apart shard.id
            (ShardTarget.located_eq_ok_iff.mp located)
            (ShardTarget.located_eq_ok_iff.mp (same ▸ otherLocated))
          refine Store.adding_comm differ fun same => differ ?_
          rw [admits.named, otherAdmits.named] at same
          exact congrArg ReplicaId.shard same

theorem report_left :
    second.report agents secondSlots (first.left firstSlots store) =
      second.report agents secondSlots store := by
  rw [report, choice_left members apart elsewhere, report, left, Choice.storageNode?_left]

end

/-- Two tasks are executed one after the other, each while nobody else writes. -/
def InTurn (agents : Agents) (first : DeployTask) (firstSlots : ShardSlots) (second : DeployTask)
    (secondSlots : ShardSlots) (store : Store) (firstReport secondReport : Report) (last : Store) :
    Prop :=
  ∃ middle, first.Executes agents firstSlots store firstReport middle ∧
    second.Executes agents secondSlots middle secondReport last

theorem inTurn_iff {firstReport secondReport : Report} {last : Store} :
    InTurn agents first firstSlots second secondSlots store firstReport secondReport last ↔
      firstReport = first.report agents firstSlots store ∧
        secondReport = second.report agents secondSlots (first.left firstSlots store) ∧
        last = second.left secondSlots (first.left firstSlots store) := by
  simp only [InTurn, executes_iff]
  constructor
  · rintro ⟨_, ⟨reported, rfl⟩, others⟩
    exact ⟨reported, others⟩
  · rintro ⟨reported, others⟩
    exact ⟨_, ⟨reported, rfl⟩, others⟩

/-- Executions for different shards and different storage nodes commute: both orders come to the
same store, and each task reports the same in both. -/
theorem executions_commute (agents : Agents)
    (members : ∀ shard ∈ store.topology.shards.toList, shard.Below shard.nextNum)
    (apart : ∀ id, first.target.shardIn firstSlots = some id →
      second.target.shardIn secondSlots ≠ some id)
    (elsewhere : first.storageNode ≠ second.storageNode) :
    ∃ firstReport secondReport last, ∀ one two final,
      (InTurn agents first firstSlots second secondSlots store one two final ↔
        one = firstReport ∧ two = secondReport ∧ final = last) ∧
      (InTurn agents second secondSlots first firstSlots store two one final ↔
        one = firstReport ∧ two = secondReport ∧ final = last) := by
  have swapped : ∀ id, second.target.shardIn secondSlots = some id →
      first.target.shardIn firstSlots ≠ some id := fun id target other => apart id other target
  refine ⟨first.report agents firstSlots store, second.report agents secondSlots store,
    second.left secondSlots (first.left firstSlots store), fun one two final => ⟨?_, ?_⟩⟩
  · rw [inTurn_iff, report_left members apart elsewhere]
  · rw [inTurn_iff, report_left members swapped elsewhere.symm,
      left_comm members apart elsewhere]
    exact and_left_comm

end DeployTask

def Store.pair : Store :=
  .start
    { Store.small.topology with
      storageNodes := KeyedMap.ofList [⟨⟨1⟩, ⟨1⟩, "host", 5000⟩, ⟨⟨2⟩, ⟨1⟩, "other", 5000⟩]
      shards := KeyedMap.ofList [((Shard.fresh ⟨1⟩).addReplica ⟨2⟩).2, .fresh ⟨2⟩] }
    { Store.small.parameters with
      storageNodes := KeyedMap.ofList [
        ⟨⟨1⟩, "host", ⟨5010, 5012⟩, 0, 4, 1⟩, ⟨⟨2⟩, "other", ⟨5010, 5012⟩, 0, 4, 1⟩]
      replicas := KeyedMap.ofList [
        { id := ⟨⟨1⟩, 1⟩, storageNode := ⟨2⟩, disabled := false, haHostname := "other",
          haPort := 5010, helperHosts := "other:5010", directory := none, nodeType := .electable,
          heapMb := 0, cacheBytes := 0, cachePercent := 0, gcThreads := 4, policies := ∅ }] }

namespace DeployTask

/-- Each shard gets a replica on the storage node that it is not on, on the first port there that
is free. -/
theorem executions_commute_pair :
    let agents : Agents := ⟨fun _ => .ok (), fun _ _ => .ok true⟩
    let second := { small with key := 2, storageNode := ⟨2⟩, target := .existing ⟨2⟩ }
    ∃ firstReport secondReport last,
      InTurn agents small .empty second .empty .pair firstReport secondReport last ∧
      InTurn agents second .empty small .empty .pair secondReport firstReport last ∧
      last.commits = 2 ∧
      (firstReport.sent ++ secondReport.sent).map (fun sent =>
        (sent.1, sent.2.get? "haPort", sent.2.get? "helperHosts")) =
          [(⟨1⟩, some "5010", some "other:5010"), (⟨2⟩, some "5011", some "other:5011")] := by
  intro agents second
  have members : ∀ shard ∈ Store.pair.topology.shards.toList, shard.Below shard.nextNum := by decide
  have apart : ∀ id, small.target.shardIn .empty = some id →
      second.target.shardIn .empty ≠ some id := by
    rintro _ ⟨⟩
    decide
  have elsewhere : small.storageNode ≠ second.storageNode := by decide
  obtain ⟨firstReport, secondReport, last, ends⟩ :=
    executions_commute agents members apart elsewhere
  have inOrder := (ends firstReport secondReport last).1.mpr ⟨rfl, rfl, rfl⟩
  obtain ⟨reported, others, leaves⟩ := inTurn_iff.mp inOrder
  refine ⟨firstReport, secondReport, last, inOrder,
    (ends firstReport secondReport last).2.mpr ⟨rfl, rfl, rfl⟩, ?_, ?_⟩
  · rw [leaves]
    decide
  · rw [reported, others]
    decide +kernel

end DeployTask

end ShardControl

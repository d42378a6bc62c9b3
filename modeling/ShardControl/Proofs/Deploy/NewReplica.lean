import ShardControl.Proofs.Deploy.Compensation
import ShardControl.Proofs.Deploy.Independence
import ShardControl.Proofs.Parameters.Budget

/-!
# What a preparation adds

A task whose shard has no replica on its storage node yet adds one.  Whether it
can, and with which parameters, is told here from the store as it is before:
the new replica is not counted among the helpers and holds no port, and it is
one more among the replicas that share the memory of the storage node.
-/

namespace ShardControl

/-! ## Ports, helpers and sizes -/

namespace Store

/-- A replica placed on the storage node is stored with the port. -/
def HoldsPort (store : Store) (node : StorageNodeId) (port : UInt16) : Prop :=
  ∃ id ∈ store.topology.hostedReplicas node, ∃ params,
    store.parameters.replica? id = some params ∧ params.haPort = port

/-- The lowest port of a range that no replica placed on the storage node is stored with. -/
structure LowestFree (store : Store) (node : StorageNodeId) (range : PortRange)
    (port : UInt16) : Prop where
  inRange : range.contains port = true
  free : ¬ store.HoldsPort node port
  lowest : ∀ other, range.contains other = true → ¬ store.HoldsPort node other → port ≤ other

/-- The addresses of the members of a shard by id, or the own one of a first member. -/
def helperHosts (store : Store) (shard : Shard) (own : String) : String :=
  if shard.replicas.toList = [] then own
  else ",".intercalate ((shard.replicas.toList.filterMap fun replica =>
    store.parameters.replica? replica.id).map ReplicaParams.hostPort)

def nextSize (store : Store) (host : StorageNodeParams) : HeapAndCache :=
  host.heapAndCache store.parameters.policies
    (UInt64.ofNat ((store.topology.hostedReplicas host.id).length + 1))
    store.parameters.policies.replicaCachePercent
    (UInt64.ofNat (store.topology.hostedArbiters host.id).length)

def nextParams (store : Store) (shard : Shard) (host : StorageNodeParams) (datacenter : Datacenter)
    (port : UInt16) (directory : Option StorageDirectory) : ReplicaParams where
  id := ⟨shard.id, shard.nextNum⟩
  storageNode := host.id
  disabled := false
  haHostname := host.haHostname
  haPort := port
  helperHosts := store.helperHosts shard (host.haHostname ++ ":" ++ Word.text16 port)
  directory := directory
  nodeType := datacenter.replicaType
  heapMb := (store.nextSize host).heapMb
  cacheBytes := (store.nextSize host).cacheBytes
  cachePercent := (store.nextSize host).cachePercent
  gcThreads := host.gcThreads
  policies := store.parameters.policies.settings

end Store

namespace Draft

variable {parameters : Parameters} {replicas : List Replica} {peers : List String}

theorem described_of_helpers (helped : helpers parameters replicas = .ok peers) :
    ∀ replica ∈ replicas, (parameters.replica? replica.id).isSome = true := by
  induction replicas generalizing peers with
  | nil => exact List.forall_mem_nil _
  | cons replica rest ih =>
      rw [helpers] at helped
      cases stored : parameters.replica? replica.id with
      | none => rw [stored] at helped; cases helped
      | some params =>
          cases others : helpers parameters rest with
          | error reason => rw [stored, others] at helped; cases helped
          | ok found =>
              refine List.forall_mem_cons.mpr ⟨?_, ih others⟩
              rw [stored]
              rfl

theorem helpers_of_described
    (described : ∀ replica ∈ replicas, (parameters.replica? replica.id).isSome = true) :
    helpers parameters replicas =
      .ok ((replicas.filterMap fun replica => parameters.replica? replica.id).map
        ReplicaParams.hostPort) := by
  induction replicas with
  | nil => rfl
  | cons replica rest ih =>
      obtain ⟨first, others⟩ := List.forall_mem_cons.mp described
      obtain ⟨params, stored⟩ := Option.isSome_iff_exists.mp first
      rw [helpers, ih others, List.filterMap_cons, stored]
      rfl

/-- Only a shard without members has no helpers. -/
theorem isEmpty_hostPorts
    (described : ∀ replica ∈ replicas, (parameters.replica? replica.id).isSome = true) :
    ((replicas.filterMap fun replica => parameters.replica? replica.id).map
      ReplicaParams.hostPort).isEmpty = decide (replicas = []) := by
  cases replicas with
  | nil => rfl
  | cons replica rest =>
      obtain ⟨params, stored⟩ :=
        Option.isSome_iff_exists.mp (described replica List.mem_cons_self)
      rw [List.filterMap_cons, stored]
      rfl

theorem helpers_eq_ok_iff :
    helpers parameters replicas = .ok peers ↔
      (∀ replica ∈ replicas, (parameters.replica? replica.id).isSome = true) ∧
        peers = (replicas.filterMap fun replica => parameters.replica? replica.id).map
          ReplicaParams.hostPort := by
  constructor
  · intro helped
    have described := described_of_helpers helped
    rw [helpers_of_described described] at helped
    exact ⟨described, (Except.ok.inj helped).symm⟩
  · rintro ⟨described, rfl⟩
    exact helpers_of_described described

end Draft

namespace Store

variable {store : Store} {shard : Shard} {node : StorageNodeId} {host : StorageNodeParams}
  {datacenter : Datacenter} {port : UInt16} {directory : Option StorageDirectory}

/-- The new replica is described nowhere yet, so it holds no port. -/
theorem taken_grown_iff (tidy : store.Tidy)
    (present : store.topology.shard? shard.id = some shard) :
    (PortUse.ofStorageNode (store.topology.putShard (shard.addReplica node).2) store.parameters
        node).taken.contains port = true ↔ store.HoldsPort node port := by
  have below := tidy.members shard (Topology.shard?_eq_some_iff.mp present).1
  obtain ⟨before, after, hosted, grown⟩ :=
    Topology.exists_hostedReplicas_addReplica present below node node
  have undescribed : store.parameters.replica? shard.nextReplica = none :=
    tidy.replica?_eq_none present (UInt32.le_refl _)
  rw [PortUse.taken_contains_iff, grown, if_pos rfl, HoldsPort, hosted]
  constructor
  · rintro ⟨id, member, params, stored, same⟩
    refine ⟨id, ?_, params, stored, same⟩
    rcases List.mem_append.mp member with earlier | later
    · rcases List.mem_append.mp earlier with earlier | new
      · exact List.mem_append_left _ earlier
      · rw [List.mem_singleton.mp new, undescribed] at stored
        cases stored
    · exact List.mem_append_right _ later
  · rintro ⟨id, member, params, stored, same⟩
    refine ⟨id, ?_, params, stored, same⟩
    rcases List.mem_append.mp member with earlier | later
    · exact List.mem_append_left _ (List.mem_append_left _ earlier)
    · exact List.mem_append_right _ later

theorem lowestFree_iff (tidy : store.Tidy)
    (present : store.topology.shard? shard.id = some shard) {range : PortRange} :
    (PortUse.ofStorageNode (store.topology.putShard (shard.addReplica node).2) store.parameters
        node).lowestFree? range = some port ↔ store.LowestFree node range port := by
  have free (port : UInt16) : (PortUse.ofStorageNode
      (store.topology.putShard (shard.addReplica node).2) store.parameters
        node).taken.contains port = false ↔ ¬ store.HoldsPort node port := by
    rw [← taken_grown_iff tidy present, Bool.not_eq_true]
  rw [PortUse.lowestFree?_eq_some_iff]
  constructor
  · rintro ⟨inRange, notTaken, lowest⟩
    exact ⟨inRange, (free port).mp notTaken, fun other within unheld =>
      lowest other within ((free other).mpr unheld)⟩
  · rintro ⟨inRange, unheld, lowest⟩
    exact ⟨inRange, (free port).mpr unheld, fun other within notTaken =>
      lowest other within ((free other).mp notTaken)⟩

/-- A storage node with a free port has a lowest one. -/
theorem exists_lowestFree (tidy : store.Tidy)
    (present : store.topology.shard? shard.id = some shard) {range : PortRange}
    (inRange : range.contains port = true) (free : ¬ store.HoldsPort node port) :
    ∃ lowest, store.LowestFree node range lowest := by
  have notTaken : (PortUse.ofStorageNode (store.topology.putShard (shard.addReplica node).2)
      store.parameters node).taken.contains port = false := by
    rw [← Bool.not_eq_true, taken_grown_iff tidy present]
    exact free
  obtain ⟨lowest, found⟩ := PortUse.exists_lowestFree? inRange notTaken
  exact ⟨lowest, (lowestFree_iff tidy present).mp found⟩

theorem size_grown (tidy : store.Tidy) (present : store.topology.shard? shard.id = some shard)
    (host : StorageNodeParams) :
    Draft.size (store.topology.putShard (shard.addReplica host.id).2) store.parameters host =
      store.nextSize host := by
  have below := tidy.members shard (Topology.shard?_eq_some_iff.mp present).1
  obtain ⟨before, after, hosted, grown⟩ :=
    Topology.exists_hostedReplicas_addReplica present below host.id host.id
  have more : ((store.topology.putShard (shard.addReplica host.id).2).hostedReplicas
      host.id).length = (store.topology.hostedReplicas host.id).length + 1 := by
    rw [grown, hosted, if_pos rfl]
    simp only [List.length_append, List.length_singleton]
    omega
  rw [Draft.size, more, Topology.hostedArbiters_addReplica present, nextSize]

/-- What the store has to hold for a new replica of the shard on the storage node, besides a port:
parameters of the storage node, the node itself in a datacenter, parameters of every member, and
a member already unless the datacenter is a primary one. -/
structure Welcomes (store : Store) (shard : Shard) (node : StorageNodeId)
    (host : StorageNodeParams) (datacenter : Datacenter) : Prop where
  host : store.parameters.storageNode? node = some host
  listed : ∃ found, store.topology.storageNode? node = some found ∧
    store.topology.datacenter? found.datacenter = some datacenter
  described : ∀ replica ∈ shard.replicas.toList,
    (store.parameters.replica? replica.id).isSome = true
  elects : shard.replicas.toList ≠ [] ∨ datacenter.kind = .primary

theorem newParams_eq_nextParams (tidy : store.Tidy)
    (present : store.topology.shard? shard.id = some shard)
    (described : ∀ replica ∈ shard.replicas.toList,
      (store.parameters.replica? replica.id).isSome = true) :
    Draft.newParams (store.topology.putShard (shard.addReplica host.id).2) store.parameters host
        shard.nextReplica host.id port datacenter.replicaType
        ((shard.replicas.toList.filterMap fun replica => store.parameters.replica? replica.id).map
          ReplicaParams.hostPort) directory =
      store.nextParams shard host datacenter port directory := by
  rw [Draft.newParams, size_grown tidy present, Draft.isEmpty_hostPorts described, nextParams,
    helperHosts]
  by_cases none : shard.replicas.toList = [] <;> simp only [none, decide_true, decide_false] <;> rfl

theorem electable_iff (described : ∀ replica ∈ shard.replicas.toList,
      (store.parameters.replica? replica.id).isSome = true) :
    (((shard.replicas.toList.filterMap fun replica => store.parameters.replica? replica.id).map
        ReplicaParams.hostPort).isEmpty && !datacenter.replicaType.isElectable) = false ↔
      shard.replicas.toList ≠ [] ∨ datacenter.kind = .primary := by
  rw [Draft.isEmpty_hostPorts described]
  have electable : datacenter.replicaType.isElectable = true ↔ datacenter.kind = .primary := by
    rw [Datacenter.replicaType]
    cases datacenter.kind <;> simp [NodeType.isElectable]
  rw [← electable]
  by_cases none : shard.replicas.toList = [] <;> simp [none]

/-- A ledger with the new replica gives out the lowest port that was free before. -/
theorem next_grown_iff (tidy : store.Tidy)
    (present : store.topology.shard? shard.id = some shard)
    (listed : store.topology.storageNodes.contains node = true)
    (found : store.parameters.storageNode? node = some host) :
    (∃ ledger, (PortLedger.ofTopology (store.topology.putShard (shard.addReplica node).2)
        store.parameters).next node = .ok (port, ledger)) ↔
      store.LowestFree node host.haPorts port := by
  rw [← lowestFree_iff tidy present]
  exact PortLedger.next_ofTopology_eq_ok_iff listed found

/-- A draft can be worked out where the new replica is welcome and a port is free, and it tells
all about the replica. -/
theorem ofNewReplica_eq_ok_iff (tidy : store.Tidy)
    (present : store.topology.shard? shard.id = some shard) {draft : Draft} :
    Draft.ofNewReplica store.topology store.parameters shard node directory = .ok draft ↔
      ∃ host datacenter port, store.Welcomes shard node host datacenter ∧
        store.LowestFree node host.haPorts port ∧
        draft = ⟨store.topology.putShard (shard.addReplica node).2,
          store.nextParams shard host datacenter port directory⟩ := by
  rw [Draft.ofNewReplica_eq_ok_iff]
  constructor
  · rintro ⟨host, datacenter, peers, ⟨id, grown⟩, ⟨port, ledger⟩, found, hosted, helped, elects,
      added, given, rfl⟩
    obtain rfl : host.id = node := KeyedMap.key_of_find? found
    obtain ⟨listed, other, alsoPresent, rfl, rfl⟩ := Topology.addReplica_eq_ok added
    obtain rfl := Option.some.inj (present.symm.trans alsoPresent)
    obtain ⟨described, rfl⟩ := Draft.helpers_eq_ok_iff.mp helped
    refine ⟨host, datacenter, port, ⟨found, Topology.datacenterOf_eq_ok_iff.mp hosted, described,
      (electable_iff described).mp elects⟩,
      (next_grown_iff tidy present listed found).mp ⟨ledger, given⟩, ?_⟩
    rw [newParams_eq_nextParams tidy present described]
  · rintro ⟨host, datacenter, port, welcomes, lowest, rfl⟩
    obtain rfl : host.id = node := KeyedMap.key_of_find? welcomes.host
    have hosted := Topology.datacenterOf_eq_ok_iff.mpr welcomes.listed
    have listed : store.topology.storageNodes.contains host.id = true := by
      obtain ⟨place, found, _⟩ := welcomes.listed
      exact Option.isSome_iff_exists.mpr ⟨place, found⟩
    obtain ⟨ledger, given⟩ := (next_grown_iff tidy present listed welcomes.host).mpr lowest
    refine ⟨host, datacenter, _, (shard.nextReplica, _), (port, ledger), welcomes.host, hosted,
      Draft.helpers_of_described welcomes.described,
      (electable_iff welcomes.described).mpr welcomes.elects,
      Topology.addReplica_of_listed listed present, given, ?_⟩
    rw [newParams_eq_nextParams tidy present welcomes.described]

end Store

namespace DeployTask

variable {task : DeployTask} {slots : ShardSlots} {store : Store} {shard : Shard}
  {result : Except DeployError Draft} {last : Scene}

/-- A preparation adds the next replica of the shard in one commit if the store welcomes it and a
port is free, and otherwise leaves the store as it was.  The threads that it is given are those of
checked arithmetic, which has them up to 858993467 processors and overflows beyond. -/
structure AddsNext (task : DeployTask) (store : Store) (shard : Shard)
    (result : Except DeployError Draft) (last : Scene) : Prop where
  succeeds : (∃ draft, result = .ok draft) ↔ ∃ host datacenter,
    store.Welcomes shard task.storageNode host datacenter ∧
      ∃ port, host.haPorts.contains port = true ∧ ¬ store.HoldsPort task.storageNode port
  fails : ∀ reason, result = .error reason →
    last.past.countP Moment.commits = 0 ∧ last.store = store
  adds : ∀ draft, result = .ok draft → last.past.countP Moment.commits = 1 ∧
    ∃ host datacenter port, store.Welcomes shard task.storageNode host datacenter ∧
      store.LowestFree task.storageNode host.haPorts port ∧
      draft.params = store.nextParams shard host datacenter port task.directory ∧
      host.gcThreads? =
        (if host.numCpus.toNat ≤ 858993467 then some draft.params.gcThreads else none) ∧
      last.store = store.adding shard task.storageNode draft.params

theorem choice_eq_newChoice (target : task.target.shardIn slots = some shard.id)
    (present : store.topology.shard? shard.id = some shard)
    (absent : shard.replicaOn task.storageNode = none) :
    task.choice slots store = task.newChoice store shard := by
  simp only [choice, ShardTarget.located_eq_ok_iff.mpr target, present, absent]

theorem addsNext_of_settled (tidy : store.Tidy)
    (present : store.topology.shard? shard.id = some shard)
    (settled : task.Settled store [] (task.newChoice store shard) result last)
    (counts : store.commits + last.past.countP Moment.commits = last.store.commits) :
    task.AddsNext store shard result last := by
  obtain ⟨yields, reaches⟩ := settled
  have left := reaches.store_eq
  rw [left] at counts
  cases made : Draft.ofNewReplica store.topology store.parameters shard task.storageNode
      task.directory with
  | error reason =>
      rw [newChoice, made] at yields left counts
      cases result with
      | ok draft => cases yields.1
      | error other =>
          refine ⟨iff_of_false ?_ ?_, fun _ _ => ⟨Nat.add_left_cancel counts, left⟩, ?_⟩
          · rintro ⟨draft, isOk⟩
            cases isOk
          · rintro ⟨host, datacenter, welcomes, port, inRange, free⟩
            obtain ⟨lowest, found⟩ := Store.exists_lowestFree tidy present inRange free
            cases made.symm.trans ((Store.ofNewReplica_eq_ok_iff tidy present).mpr
              ⟨host, datacenter, lowest, welcomes, found, rfl⟩)
          · intro draft isOk
            cases isOk
  | ok draft =>
      obtain ⟨host, datacenter, port, welcomes, lowest, rfl⟩ :=
        (Store.ofNewReplica_eq_ok_iff tidy present).mp made
      rw [newChoice, made] at yields left counts
      cases result with
      | error reason => cases yields
      | ok prepared =>
          have same := Except.ok.inj yields.1
          refine ⟨iff_of_true ⟨prepared, rfl⟩ ⟨host, datacenter, welcomes, port, lowest.inRange,
            lowest.free⟩, ?_, ?_⟩
          · intro reason isError
            cases isError
          · intro other isOther
            cases isOther
            refine ⟨Nat.add_left_cancel counts, host, datacenter, port, welcomes, lowest, same.symm,
              ?_, same ▸ left⟩
            rw [← same]
            exact host.gcThreads?_eq

/-- A preparation of a task whose shard has no replica on its storage node yet adds the next one,
exactly as the store before allows it. -/
theorem prepares_next (tidy : store.Tidy) (target : task.target.shardIn slots = some shard.id)
    (present : store.topology.shard? shard.id = some shard)
    (absent : shard.replicaOn task.storageNode = none) :
    Returns slots (fun _ _ => True) (task.AddsNext store shard) task.prepare.run ⟨store, []⟩ ∧
    Returns slots (fun _ _ => True) (task.AddsNext store shard) task.prepareWithRetry.run
      ⟨store, []⟩ := by
  have chosen := choice_eq_newChoice target present absent
  have answerable (past : List Moment) (store : Store) (call : ControlCall) :
      ∃ answer : call.Answer, (World.alone slots).Allows call store answer ∧ True := by
    obtain ⟨answer, allowed⟩ := exists_allowed slots store call
    exact ⟨answer, allowed, trivial⟩
  have reaches : task.Reaches store none [] ⟨store, []⟩ := ⟨rfl, rfl, rfl⟩
  have passes : Ensures slots (fun _ _ => True) _ task.prepare.run ⟨store, []⟩ :=
    prepare_yields reaches
  have settles : Ensures slots (fun _ _ => True) _ task.prepareWithRetry.run ⟨store, []⟩ :=
    prepareWithRetry_yields reaches
  rw [chosen] at passes settles
  constructor
  · refine ⟨exists_run_assumed answerable _ _ trivial, fun result last run answered => ?_⟩
    exact addsNext_of_settled tidy present (passes.of_runs run answered) run.countP_commits
  · refine ⟨exists_run_assumed answerable _ _ trivial, fun result last run answered => ?_⟩
    exact addsNext_of_settled tidy present (settles.of_runs run answered) run.countP_commits

/-- The first replica of the small store gets the first port of its storage node and helps
itself. -/
theorem prepares_next_small :
    let prepared := (Scene.mk .small []).play Scene.obliging small.prepareWithRetry.run
    small.AddsNext .small (Shard.fresh ⟨1⟩) prepared.1 prepared.2 ∧
      ∃ draft, prepared.1 = .ok draft ∧ draft.params.haPort = 5010 ∧
        draft.params.helperHosts = "host:5010" := by
  intro prepared
  have tidy : Store.small.Tidy := ⟨by decide, by decide, by decide⟩
  have run : Runs (.alone .empty) small.prepareWithRetry.run ⟨.small, []⟩ prepared.1 prepared.2 :=
    Scene.runs_play (fun _ => rfl) _ _ fun _ _ => trivial
  refine ⟨(prepares_next tidy rfl rfl rfl).2.only _ _ run (.of_forall fun _ _ _ => trivial), ?_⟩
  exact ⟨_, rfl, by decide, by decide⟩

end DeployTask

end ShardControl

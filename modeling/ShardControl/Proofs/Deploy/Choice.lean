import ShardControl.Proofs.Deploy.Agents
import ShardControl.Proofs.Deploy.Conflict
import ShardControl.Proofs.Deploy.Setback

/-!
# What becomes of an undisturbed execution

While nobody else writes, the first pass of an execution settles which replica
the task comes to.  This choice is worked out from the store and the slots
alone, and with what the agent of the storage node answers it decides on all
that the execution leaves.
-/

namespace ShardControl

/-! ## Choices -/

def Store.adding (store : Store) (shard : Shard) (node : StorageNodeId) (params : ReplicaParams) :
    Store where
  topology :=
    (store.topology.putShard (shard.addReplica node).2).withSequence (store.sequence + 1)
  parameters := store.parameters.putReplica params
  commits := store.commits + 1

/-- What a commit of a draft leaves is the store with the new replica. -/
theorem Store.found_eq_adding {store : Store} {shard : Shard} {node : StorageNodeId} {draft : Draft}
    (grows : draft.Grows store.topology store.parameters shard node) :
    store.found store.sequence draft = store.adding shard node draft.params := by
  rw [adding, ← topology_found grows]
  rfl

inductive Choice where
  | fails (reason : DeployError)
  | adopts (replica : ReplicaId) (stored : Option ReplicaParams)
  | adds (shard : Shard) (params : ReplicaParams)

namespace Choice

def left (node : StorageNodeId) (store : Store) : Choice → Store
  | adds shard params => store.adding shard node params
  | _ => store

def resolved : Choice → Option ReplicaId
  | fails _ => none
  | adopts replica _ => some replica
  | adds _ params => some params.id

def prepared : Choice → Except DeployError ReplicaParams
  | fails reason => .error reason
  | adopts replica none => .error (.missingReplicaParams replica)
  | adopts _ (some params) => .ok params
  | adds _ params => .ok params

/-- A draft has the parameters of the choice and the topology of the store that it leaves. -/
def Yields (choice : Choice) (node : StorageNodeId) (store : Store) :
    Except DeployError Draft → Prop
  | .error reason => choice.prepared = .error reason
  | .ok draft => choice.prepared = .ok draft.params ∧
      draft.topology = (choice.left node store).topology

theorem storageNode?_left (choice : Choice) (node other : StorageNodeId) (store : Store) :
    (choice.left node store).topology.storageNode? other = store.topology.storageNode? other := by
  cases choice <;> rfl

end Choice

def ShardTarget.located (slots : ShardSlots) : ShardTarget → Except DeployError ShardId
  | .existing shard => .ok shard
  | .slot index =>
      match slots.shard? index with
      | none => .error (.unresolvedShard index)
      | some shard => .ok shard

theorem ShardTarget.located_eq_ok_iff {target : ShardTarget} {slots : ShardSlots} {id : ShardId} :
    target.located slots = .ok id ↔ target.shardIn slots = some id := by
  cases target with
  | existing shard => exact ⟨fun same => congrArg some (Except.ok.inj same),
      fun same => congrArg Except.ok (Option.some.inj same)⟩
  | slot index =>
      rw [located, shardIn]
      cases slots.shard? index with
      | none =>
          constructor
          · intro same
            cases same
          · intro same
            cases same
      | some shard => exact ⟨fun same => congrArg some (Except.ok.inj same),
          fun same => congrArg Except.ok (Option.some.inj same)⟩

structure Report where
  result : Except DeployError TaskState
  resolved : Option ReplicaId
  sent : List (StorageNodeId × ParameterMap)

namespace DeployTask

section

variable (task : DeployTask)

def newChoice (store : Store) (shard : Shard) : Choice :=
  match Draft.ofNewReplica store.topology store.parameters shard task.storageNode
    task.directory with
  | .error reason => .fails reason
  | .ok draft => .adds shard draft.params

def choice (slots : ShardSlots) (store : Store) : Choice :=
  match task.target.located slots with
  | .error reason => .fails reason
  | .ok id =>
      match store.topology.shard? id with
      | none => .fails (.shardNotFound id)
      | some shard =>
          match shard.replicaOn task.storageNode with
          | some replica => .adopts replica.id (store.parameters.replica? replica.id)
          | none => task.newChoice store shard

def left (slots : ShardSlots) (store : Store) : Store :=
  (task.choice slots store).left task.storageNode store

def report (agents : Agents) (slots : ShardSlots) (store : Store) : Report :=
  let choice := task.choice slots store
  match choice.prepared with
  | .error reason => ⟨.error reason, choice.resolved, []⟩
  | .ok params =>
      ⟨agents.ends task.storageNode (store.topology.storageNode? task.storageNode) params,
        choice.resolved, agents.sends task.storageNode params⟩

/-- An execution while nobody else writes, from one store to another. -/
inductive Executes (agents : Agents) (slots : ShardSlots) (store : Store) : Report → Store → Prop
  | run {result : Except DeployError TaskState} {last : Scene}
      (runs : Runs (.alone slots) task.execute ⟨store, []⟩ result last)
      (answered : Follows agents.Answer last.past) :
      Executes agents slots store ⟨result, resolved? last.past task.key, sent last.past⟩ last.store

/-- A pass has come to a choice, and nobody else has heard of it. -/
def Settled (store : Store) (sends : List (StorageNodeId × ParameterMap)) (choice : Choice)
    (result : Except DeployError Draft) (last : Scene) : Prop :=
  choice.Yields task.storageNode store result ∧
    task.Reaches (choice.left task.storageNode store) choice.resolved sends last

end

variable {task : DeployTask} {slots : ShardSlots} {store : Store} {scene : Scene}
  {agents : Agents} {assume : List Moment → Moment → Prop} {resolved : Option ReplicaId}
  {sends : List (StorageNodeId × ParameterMap)}

/-! ## The new replica of a choice -/

/-- The shard of the task is there, has no replica on the storage node, and gets the drafted
one. -/
theorem drafted_of_choice {shard : Shard} {params : ReplicaParams}
    (chosen : task.choice slots store = .adds shard params) :
    task.target.located slots = .ok shard.id ∧ store.topology.shard? shard.id = some shard ∧
      shard.replicaOn task.storageNode = none ∧
      ∃ draft, Draft.ofNewReplica store.topology store.parameters shard task.storageNode
        task.directory = .ok draft ∧ draft.params = params := by
  rw [choice] at chosen
  split at chosen
  · cases chosen
  · rename_i id located
    split at chosen
    · cases chosen
    · rename_i home present
      obtain rfl : home.id = id := KeyedMap.key_of_find? present
      split at chosen
      · cases chosen
      · rename_i absent
        rw [newChoice] at chosen
        split at chosen
        · cases chosen
        · rename_i draft made
          cases chosen
          exact ⟨located, present, absent, draft, made, rfl⟩

/-- A replica is added to a shard that is there and has none on the storage node. -/
theorem made_of_choice {shard : Shard} {params : ReplicaParams}
    (chosen : task.choice slots store = .adds shard params) :
    store.topology.shard? shard.id = some shard ∧ shard.replicaOn task.storageNode = none ∧
      ∃ draft, Draft.ofNewReplica store.topology store.parameters shard task.storageNode
        task.directory = .ok draft ∧ draft.params = params :=
  (drafted_of_choice chosen).2

/-- The parameters of a new replica name it and its storage node. -/
theorem params_of_choice {shard : Shard} {params : ReplicaParams}
    (chosen : task.choice slots store = .adds shard params) :
    params.id = shard.nextReplica ∧ params.storageNode = task.storageNode := by
  obtain ⟨present, _, draft, made, rfl⟩ := made_of_choice chosen
  have grows := Draft.grows_of_ofNewReplica present made
  exact ⟨grows.id_eq, grows.storageNode_eq⟩

/-! ## The pass -/

theorem shard_located (reaches : task.Reaches store resolved sends scene) :
    Ensures slots assume
      (fun result last => result = task.target.located slots ∧
        task.Reaches store resolved sends last)
      task.shard.run scene := by
  rw [shard]
  cases task.target with
  | existing id => exact .done ⟨rfl, reaches⟩
  | slot index =>
      apply Ensures.bindExcept
      apply Ensures.ask
      intro noted allowed _
      obtain rfl : noted = slots.shard? index := allowed
      rw [ShardTarget.located]
      cases slots.shard? index with
      | none => exact .done ⟨rfl, reaches.cons rfl rfl⟩
      | some id => exact .done ⟨rfl, reaches.cons rfl rfl⟩

theorem adopt_yields (reaches : task.Reaches store resolved sends scene) (replica : Replica) :
    Ensures slots assume
      (task.Settled store sends (.adopts replica.id (store.parameters.replica? replica.id)))
      (task.adopt store.topology replica).run scene := by
  obtain rfl := reaches.store_eq
  rw [adopt]
  apply Ensures.bindExcept
  apply Ensures.ask
  intro _ _ _
  apply Ensures.bindExcept
  apply Ensures.ask
  intro _ _ _
  apply Ensures.bindExcept
  apply Ensures.askStore
  change Ensures _ _ _ (ExceptT.mk (pure (Draft.ofStored scene.store.topology replica.id
    (scene.store.parameters.replica? replica.id)))) _
  cases stored : scene.store.parameters.replica? replica.id with
  | none => exact .done ⟨rfl, ((reaches.resolve replica.id).cons rfl rfl).cons rfl rfl⟩
  | some params =>
      exact .done ⟨⟨rfl, rfl⟩, ((reaches.resolve replica.id).cons rfl rfl).cons rfl rfl⟩

theorem create_yields {shard : Shard} (present : store.topology.shard? shard.id = some shard)
    (reaches : task.Reaches store none sends scene) :
    Ensures slots assume
      (task.Settled store sends (task.newChoice store shard))
      (task.create store.topology shard).run scene := by
  obtain rfl := reaches.store_eq
  rw [create, newChoice]
  apply Ensures.bindExcept
  apply Ensures.askStore
  apply Ensures.bindExcept
  change Ensures _ _ _ (ExceptT.mk (pure (Draft.ofNewReplica scene.store.topology
    scene.store.parameters shard task.storageNode task.directory))) _
  cases made : Draft.ofNewReplica scene.store.topology scene.store.parameters shard
      task.storageNode task.directory with
  | error reason => exact .done ⟨rfl, reaches.cons rfl rfl⟩
  | ok draft =>
      have grows := Draft.grows_of_ofNewReplica present made
      apply Ensures.done
      apply Ensures.bindExcept
      apply Ensures.askCommit rfl
      apply Ensures.bindExcept
      apply Ensures.ask
      intro _ _ _
      apply Ensures.bindExcept
      apply Ensures.ask
      intro _ _ _
      have left := Store.found_eq_adding grows
      refine .done ⟨⟨rfl, congrArg Store.topology left⟩, ?_⟩
      exact ⟨left, resolved?_resolve _ _ _ _, reaches.sent_eq⟩

theorem prepare_yields (reaches : task.Reaches store none sends scene) :
    Ensures slots assume (task.Settled store sends (task.choice slots store)) task.prepare.run
      scene := by
  obtain rfl := reaches.store_eq
  rw [prepare, choice]
  apply Ensures.bindExcept
  apply Ensures.askStore
  apply Ensures.bindExcept
  refine (shard_located (reaches.cons rfl rfl)).mono ?_
  rintro _ last ⟨rfl, reaches⟩
  cases task.target.located slots with
  | error reason => exact ⟨rfl, reaches⟩
  | ok id =>
      change Ensures _ _ _ (task.adoptOrCreate scene.store.topology id).run last
      rw [adoptOrCreate]
      cases present : scene.store.topology.shard? id with
      | none =>
          simp only [present]
          exact .done ⟨rfl, reaches⟩
      | some shard =>
          simp only [present]
          obtain rfl : shard.id = id := KeyedMap.key_of_find? present
          cases placed : shard.replicaOn task.storageNode with
          | some replica => exact adopt_yields reaches replica
          | none => exact create_yields present reaches

/-! ## The retries -/

theorem isOwn_of_located {target : ShardTarget} {reason : DeployError}
    (unresolved : target.located slots = .error reason) : reason.IsOwn := by
  cases target with
  | existing shard => cases unresolved
  | slot index =>
      rw [ShardTarget.located] at unresolved
      split at unresolved
      · cases unresolved
        trivial
      · cases unresolved

theorem isOwn_of_adopts {replica : ReplicaId} {stored : Option ReplicaParams}
    {reason : DeployError} (failed : (Choice.adopts replica stored).prepared = .error reason) :
    reason.IsOwn := by
  cases stored with
  | none =>
      cases failed
      trivial
  | some params => cases failed

theorem isOwn_of_newChoice {shard : Shard} {reason : DeployError}
    (failed : (task.newChoice store shard).prepared = .error reason) : reason.IsOwn := by
  rw [newChoice] at failed
  split at failed
  · rename_i refused
    cases failed
    exact Draft.isOwn_of_ofNewReplica refused
  · cases failed

/-- Nothing in a choice has to do with other planners. -/
theorem isOwn_of_prepared {reason : DeployError}
    (failed : (task.choice slots store).prepared = .error reason) : reason.IsOwn := by
  rw [choice] at failed
  split at failed
  · rename_i unresolved
    cases failed
    exact isOwn_of_located unresolved
  · split at failed
    · cases failed
      trivial
    · split at failed
      · exact isOwn_of_adopts failed
      · exact isOwn_of_newChoice failed

/-- The first pass settles it. -/
theorem prepareWithRetry_yields (reaches : task.Reaches store none sends scene) :
    Ensures slots assume (task.Settled store sends (task.choice slots store))
      task.prepareWithRetry.run scene := by
  have repeats : Obeys.Repeats (.alone slots) (fun _ _ => True) task.plan.settings.commitRetries
      (fun _ => task.Reaches store none sends) (fun _ _ => False)
      (task.Settled store sends (task.choice slots store)) task.preparation := by
    refine preparation_settles ⟨fun _ _ _ _ => trivial, ?_⟩ ?_
    · rintro scene _ _ _ reaches rfl
      exact reaches.cons rfl rfl
    · intro scene reaches
      have yields : Ensures slots (fun _ _ => True) _ task.prepare.run scene :=
        prepare_yields reaches
      refine Obeys.mono yields (fun _ _ _ => id) fun result last ends => ?_
      have settled := ends (.of_forall fun _ _ _ => trivial)
      refine ⟨settled, ?_⟩
      rintro reason rfl
      exact isOwn_of_prepared settled.1
  exact .of_obeys (Obeys.under repeats reaches)

/-! ## The execution -/

theorem execute_reports (reaches : task.Reaches store none [] scene) :
    Ensures slots agents.Answer
      (fun result last => result = (task.report agents slots store).result ∧
        task.Reaches (task.left slots store) (task.report agents slots store).resolved
          (task.report agents slots store).sent last)
      task.execute scene := by
  rw [execute, deploy]
  apply Ensures.bindExcept
  refine (prepareWithRetry_yields reaches).mono ?_
  rw [report]
  rintro (reason | draft) last ⟨yields, reaches⟩
  · have failed : (task.choice slots store).prepared = .error reason := yields
    simp only [failed]
    exact ⟨trivial, reaches⟩
  · obtain ⟨prepared, topology⟩ := yields
    have host : draft.topology.storageNode? task.storageNode =
        store.topology.storageNode? task.storageNode := by
      rw [topology, Choice.storageNode?_left]
    simp only [prepared, ← host]
    exact contact_ends draft reaches

theorem report_of_runs {result : Except DeployError TaskState} {last : Scene}
    (runs : Runs (.alone slots) task.execute ⟨store, []⟩ result last)
    (answered : Follows agents.Answer last.past) :
    Report.mk result (resolved? last.past task.key) (sent last.past) =
      task.report agents slots store ∧ last.store = task.left slots store := by
  have executes : Ensures slots agents.Answer _ task.execute ⟨store, []⟩ :=
    execute_reports ⟨rfl, rfl, rfl⟩
  obtain ⟨rfl, reaches⟩ := executes.of_runs runs answered
  refine ⟨?_, reaches.store_eq⟩
  rw [reaches.resolved_eq, reaches.sent_eq]

/-- An execution leaves and reports what is worked out from the store and the slots. -/
theorem executes_iff {report : Report} {left : Store} :
    task.Executes agents slots store report left ↔
      report = task.report agents slots store ∧ left = task.left slots store := by
  constructor
  · rintro ⟨runs, answered⟩
    exact report_of_runs runs answered
  · rintro ⟨rfl, rfl⟩
    obtain ⟨result, last, runs, answered⟩ :=
      exists_run_assumed (agents.exists_answer slots) task.execute ⟨store, []⟩ trivial
    obtain ⟨reports, leaves⟩ := report_of_runs runs answered
    rw [← reports, ← leaves]
    exact .run runs answered

end DeployTask

end ShardControl

import ShardControl.Proofs.Deploy.Draft
import ShardControl.Proofs.Deploy.Past
import ShardControl.Proofs.Deploy.Retry

/-!
# Preparation of a replica

One pass reads the topology and then either takes over the replica that it
lists or commits a draft of a new one.  Whatever rivals do meanwhile, a pass
commits at most once, and when it comes to a replica, the store that its last
reading or commit left has this replica in the place of the task.
-/

namespace ShardControl

/-- The store is as the draft says, with the replica of the draft in its place. -/
structure Draft.Stands (draft : Draft) (store : Store) (node : StorageNodeId) (id : ShardId) :
    Prop where
  topology_eq : draft.topology = store.topology
  stored : store.parameters.replica? draft.params.id = some draft.params
  listed : ∃ shard, store.topology.shard? id = some shard ∧
    shard.replicaOn node = some ⟨draft.params.id, node⟩

namespace Draft.Grows

variable {draft : Draft} {topology : Topology} {parameters : Parameters} {shard : Shard}
  {node : StorageNodeId}

theorem storageNodes_eq (grows : draft.Grows topology parameters shard node) :
    draft.topology.storageNodes = topology.storageNodes := by
  rw [grows.topology_eq]
  rfl

/-- What a commit of a draft leaves is the draft under the sequence of the commit. -/
theorem stands (grows : draft.Grows topology parameters shard node)
    (absent : shard.replicaOn node = none) {store : Store} (expected : UInt64) :
    (Draft.mk (draft.topology.withSequence (store.sequence + 1)) draft.params).Stands
      (store.apply ⟨expected, some draft.topology, [draft.params], []⟩) node shard.id := by
  refine ⟨rfl, ?_, (shard.addReplica node).2, ?_, ?_⟩
  · change (store.parameters.putReplica draft.params).replica? draft.params.id = _
    rw [Parameters.replica?_putReplica, if_pos rfl]
  · change draft.topology.shard? shard.id = _
    rw [grows.topology_eq, Topology.shard?_putShard, if_pos (Shard.id_addReplica shard node)]
  · rw [Shard.replicaOn_addReplica absent, grows.id_eq]

end Draft.Grows

namespace DeployTask

variable (task : DeployTask) (world : World)

/-- The update adds a replica of the task, worked out from two readings before. -/
inductive Founds (store : Store) : Update → Prop where
  | draft {first second : Store} {shard : Shard} {draft : Draft}
      (holds : world.holds first) (between : world.may first second)
      (reached : world.may second store)
      (present : first.topology.shard? shard.id = some shard)
      (absent : shard.replicaOn task.storageNode = none)
      (made : Draft.ofNewReplica first.topology second.parameters shard task.storageNode
        task.directory = .ok draft) :
      Founds store ⟨first.sequence, some draft.topology, [draft.params], []⟩

/-- The replica was seen or put on the storage node of the task. -/
inductive Comes (store : Store) : ReplicaId → Prop where
  | listed {first : Store} {replica : Replica} (holds : world.holds first)
      (reached : world.may first store) (member : replica ∈ first.topology.replicas)
      (here : replica.storageNode = task.storageNode) : Comes store replica.id
  | founded {before : Store} {update : Update} {params : ReplicaParams}
      (holds : world.holds before) (founds : task.Founds world before update)
      (accepted : update.expected = before.sequence) (upserts : update.upserts = [params])
      (reached : world.may (before.apply update) store) : Comes store params.id

def Prepares (older : List Moment) : Moment → Prop
  | ⟨found, .store (.commit update), _⟩ => Undecided older ∧ task.Founds world found update
  | ⟨found, .resolve key id, _⟩ => key = task.key ∧ task.Comes world found id
  | ⟨_, .findAgent .., _⟩ => False
  | ⟨_, .createReplica .., _⟩ => False
  | ⟨_, .register .., _⟩ => False
  | _ => True

structure Prepared (draft : Draft) (scene : Scene) : Prop where
  committed : scene.past.countP Moment.commits ≤ 1
  silent : ∀ moment ∈ scene.past, moment.contacts = false
  resolved : resolved? scene.past task.key = some draft.params.id
  nodes : ∃ first, world.holds first ∧
    draft.topology.storageNodes = first.topology.storageNodes
  stands : ∀ store, scene.store.Leads store → Undisturbed scene.past store →
    ∃ id, task.target.shard? scene.past = some id ∧ draft.Stands store task.storageNode id

/-- What a preparation ends with: a replica, or nothing done. -/
def Ends (result : Except DeployError Draft) (scene : Scene) : Prop :=
  match result with
  | .ok draft => task.Prepared world draft scene
  | .error _ => Undecided scene.past

variable {task world}

theorem Prepared.of_undecided {draft : Draft} {scene : Scene} (undecided : Undecided scene.past)
    (resolved : resolved? scene.past task.key = some draft.params.id)
    (nodes : ∃ first, world.holds first ∧
      draft.topology.storageNodes = first.topology.storageNodes)
    (stands : ∀ store, scene.store.Leads store → Undisturbed scene.past store →
      ∃ id, task.target.shard? scene.past = some id ∧ draft.Stands store task.storageNode id) :
    task.Prepared world draft scene where
  committed := undecided.countP_eq_zero ▸ Nat.zero_le 1
  silent moment member := (undecided moment member).2
  resolved := resolved
  nodes := nodes
  stands := stands

/-! ## One pass -/

theorem shard_obeys {scene : Scene} (undecided : Undecided scene.past) :
    Obeys world (task.Prepares world)
      (fun result last => world.may scene.store last.store ∧ Undecided last.past ∧
        settled? last.past = settled? scene.past ∧
        ∀ id, result = .ok id → task.target.shard? last.past = some id)
      task.shard.run scene := by
  rw [shard]
  cases target : task.target with
  | existing id =>
      refine ⟨world.refl _, undecided, rfl, ?_⟩
      intro other same
      cases same
      rfl
  | slot index =>
      apply Obeys.bindExcept
      apply Obeys.ask
      intro store reached _ noted _
      refine ⟨trivial, ?_⟩
      cases noted with
      | none =>
          refine ⟨reached, undecided.cons rfl rfl, settled?_cons _ _, ?_⟩
          intro id same
          cases same
      | some id =>
          refine ⟨reached, undecided.cons rfl rfl, settled?_cons _ _, ?_⟩
          intro other same
          cases same
          simp [ShardTarget.shard?, Moment.notes?]

/-- What is known when the pass has read the topology and found the shard. -/
structure Reads (task : DeployTask) (world : World) (first : Store) (shard : Shard)
    (scene : Scene) : Prop where
  holds : world.holds first
  reached : world.may first scene.store
  undecided : Undecided scene.past
  settled : settled? scene.past = some first
  target : task.target.shard? scene.past = some shard.id
  present : first.topology.shard? shard.id = some shard

/-- A replica that is taken over is the one that the topology lists. -/
theorem adopt_obeys {first : Store} {shard : Shard} {replica : Replica} {scene : Scene}
    (reads : task.Reads world first shard scene)
    (found : shard.replicaOn task.storageNode = some replica) :
    Obeys world (task.Prepares world) (task.Ends world) (task.adopt first.topology replica).run
      scene := by
  obtain ⟨inShard, here⟩ := Shard.replicaOn_eq_some found
  have inTopology := (Topology.shard?_eq_some_iff.mp reads.present).1
  have member := Topology.mem_replicas_iff.mpr ⟨shard, inTopology, inShard⟩
  rw [adopt]
  apply Obeys.bindExcept
  apply Obeys.ask
  intro second toSecond _ _ _
  have secondReached := world.trans reads.reached toSecond
  refine ⟨⟨rfl, .listed reads.holds secondReached member here⟩, ?_⟩
  apply Obeys.bindExcept
  apply Obeys.log (fun _ _ => trivial)
  intro third toThird
  apply Obeys.bindExcept
  apply Obeys.askStore
  intro fourth toFourth _
  have fourthReached := world.trans secondReached (world.trans toThird toFourth)
  refine ⟨trivial, ?_⟩
  change Obeys world _ _ (ExceptT.mk (pure
    (Draft.ofStored first.topology replica.id (fourth.parameters.replica? replica.id)))) _
  cases stored : fourth.parameters.replica? replica.id with
  | none => exact ((reads.undecided.cons rfl rfl).cons rfl rfl).cons rfl rfl
  | some params =>
      have named : params.id = replica.id := KeyedMap.key_of_find? stored
      apply Prepared.of_undecided
      · exact ((reads.undecided.cons rfl rfl).cons rfl rfl).cons rfl rfl
      · exact (resolved?_resolve scene.past second task.key replica.id).trans
          (congrArg some named.symm)
      · exact ⟨first, reads.holds, rfl⟩
      · -- Without rivals since the first reading, the parameters belong to that topology.
        intro store leads undisturbed
        cases reads.settled.symm.trans undisturbed
        obtain rfl : fourth = first := (world.leads fourthReached).eq_of_leads_back leads
        refine ⟨shard.id, reads.target, rfl, ?_, shard, reads.present, ?_⟩
        · rw [named]
          exact stored
        · rw [found, named, ← here]

def pastCommitted (task : DeployTask) (past : List Moment) (second third fourth fifth : Store)
    (update : Update) (id : ReplicaId) (event : Event) : List Moment :=
  ⟨fifth, .log event, ()⟩ :: ⟨fourth, .resolve task.key id, ()⟩ ::
    ⟨third, .store (.commit update), .ok (third.sequence + 1)⟩ ::
    ⟨second, .store .parameters, .ok second.parameters⟩ :: past

theorem Prepared.of_accepted {first second third fourth fifth : Store} {shard : Shard}
    {draft : Draft} {event : Event} {scene : Scene} (reads : task.Reads world first shard scene)
    (absent : shard.replicaOn task.storageNode = none)
    (grows : draft.Grows first.topology second.parameters shard task.storageNode)
    (accepted : first.sequence = third.sequence) :
    task.Prepared world
      ⟨draft.topology.withSequence (third.sequence + 1), draft.params⟩
      ⟨fifth, task.pastCommitted scene.past second third fourth fifth
        ⟨first.sequence, some draft.topology, [draft.params], []⟩ draft.params.id event⟩ where
  committed := by
    simp [pastCommitted, List.countP_cons, Moment.commits, reads.undecided.countP_eq_zero]
  silent := by
    simp only [pastCommitted, List.forall_mem_cons]
    exact ⟨rfl, rfl, rfl, rfl, fun moment member => (reads.undecided moment member).2⟩
  resolved := resolved?_resolve _ fourth task.key draft.params.id
  nodes := ⟨first, reads.holds, grows.storageNodes_eq⟩
  stands := by
    -- Without rivals since the commit, the store is what the commit left.
    intro store _ undisturbed
    have left : (third.respond (.commit
        ⟨first.sequence, some draft.topology, [draft.params], []⟩)).2 = third.apply _ :=
      congrArg Prod.snd (Store.respond_commit_of_eq accepted)
    cases (congrArg some left).symm.trans undisturbed
    exact ⟨shard.id, reads.target, grows.stands absent first.sequence⟩

/-- A new replica is committed before the task resolves to it. -/
theorem create_obeys {first : Store} {shard : Shard} {scene : Scene}
    (reads : task.Reads world first shard scene)
    (absent : shard.replicaOn task.storageNode = none) :
    Obeys world (task.Prepares world) (task.Ends world) (task.create first.topology shard).run
      scene := by
  rw [create]
  apply Obeys.bindExcept
  apply Obeys.askStore
  intro second toSecond _
  refine ⟨trivial, ?_⟩
  apply Obeys.bindExcept
  cases made : Draft.ofNewReplica first.topology second.parameters shard task.storageNode
      task.directory with
  | error reason => exact reads.undecided.cons rfl rfl
  | ok draft =>
      have grows := Draft.grows_of_ofNewReplica reads.present made
      have founds {third : Store} (toThird : world.may second third) :
          task.Founds world third ⟨first.sequence, some draft.topology, [draft.params], []⟩ :=
        .draft reads.holds (world.trans reads.reached toSecond) toThird reads.present absent made
      apply Obeys.bindExcept
      apply Obeys.askCommit
      · intro third toThird holds accepted
        refine ⟨⟨reads.undecided.cons rfl rfl, founds toThird⟩, ?_⟩
        apply Obeys.bindExcept
        apply Obeys.ask
        intro fourth toFourth _ _ _
        refine ⟨⟨rfl, .founded holds (founds toThird) accepted rfl toFourth⟩, ?_⟩
        apply Obeys.bindExcept
        apply Obeys.log (fun _ _ => trivial)
        intro fifth _
        exact .of_accepted reads absent grows accepted
      · intro third toThird _ _
        exact ⟨⟨reads.undecided.cons rfl rfl, founds toThird⟩,
          (reads.undecided.cons rfl rfl).cons rfl rfl⟩

theorem prepare_obeys {scene : Scene} (undecided : Undecided scene.past) :
    Obeys world (task.Prepares world) (task.Ends world) task.prepare.run scene := by
  rw [prepare]
  apply Obeys.bindExcept
  apply Obeys.askStore
  intro first reached holds
  refine ⟨trivial, ?_⟩
  apply Obeys.bindExcept
  refine (shard_obeys (undecided.cons rfl rfl)).mono (fun _ _ _ => id) ?_
  rintro (reason | id) last ⟨onward, undecided, settled, target⟩
  · exact undecided
  · change Obeys world _ _ (task.adoptOrCreate first.topology id).run last
    rw [adoptOrCreate]
    cases present : first.topology.shard? id with
    | none => exact undecided
    | some shard =>
        obtain rfl : shard.id = id := KeyedMap.key_of_find? present
        have reads : task.Reads world first shard last :=
          ⟨holds, onward, undecided, settled, target shard.id rfl, present⟩
        cases found : shard.replicaOn task.storageNode with
        | some replica =>
            simp only [found]
            exact adopt_obeys reads found
        | none =>
            simp only [found]
            exact create_obeys reads found

/-! ## Passes until one is not overtaken -/

theorem undecided_unclocked :
    Obeys.Unclocked world (task.Prepares world) (fun scene => Undecided scene.past) where
  kept _ _ _ _ := trivial
  stays _ _ _ _ undecided _ := undecided.cons rfl rfl

theorem preparation_repeats {policy : RetryPolicy} :
    Obeys.Repeats world (task.Prepares world) policy (fun _ scene => Undecided scene.past)
      (fun _ scene => Undecided scene.past) (task.Ends world) task.preparation where
  before := undecided_unclocked
  between _ := undecided_unclocked
  pass _ scene undecided := by
    apply Obeys.bind
    refine (prepare_obeys undecided).mono (fun _ _ _ => id) ?_
    intro result last ends
    split
    · exact ends
    · exact ends
  rest _ reason pause scene undecided := by
    apply Obeys.bind
    intro first _ _ resolved _
    refine ⟨trivial, ?_⟩
    apply Obeys.bind
    intro second _ _ logged _
    refine ⟨trivial, ?_⟩
    apply Obeys.bind
    intro third _ _ rested _
    exact ⟨trivial, ((undecided.cons rfl rfl).cons rfl rfl).cons rfl rfl⟩
  giveUp _ _ _ _ undecided := undecided

/-- A pass that the store does not refuse is the only one. -/
theorem preparation_settles {rule : List Moment → Moment → Prop} {policy : RetryPolicy}
    {waits : Scene → Prop} {post : Except DeployError Draft → Scene → Prop}
    (unclocked : Obeys.Unclocked world rule waits)
    (pass : ∀ scene, waits scene → Obeys world rule (fun result last => post result last ∧
      ∀ reason, result ≠ .error (.metadata reason)) task.prepare.run scene) :
    Obeys.Repeats world rule policy (fun _ => waits) (fun _ _ => False) post task.preparation where
  before := unclocked
  between _ := ⟨fun _ _ _ _ => unclocked.kept _ _ _ _, fun _ _ _ _ never _ => never⟩
  pass _ scene waiting := by
    apply Obeys.bind
    refine (pass scene waiting).mono (fun _ _ _ => id) ?_
    rintro result last ⟨ends, accepted⟩
    split
    · exact accepted _ rfl
    · exact ends
  rest _ _ _ _ never := never.elim
  giveUp _ _ _ _ never := never.elim

/-- A preparation commits at most once and comes to a replica, or does nothing. -/
theorem prepareWithRetry_obeys {scene : Scene} (undecided : Undecided scene.past) :
    Obeys world (task.Prepares world) (task.Ends world) task.prepareWithRetry.run scene :=
  Obeys.under preparation_repeats undecided

end DeployTask

end ShardControl

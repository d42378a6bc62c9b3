import ShardControl.Proofs.Contention.Overtaken

/-!
# Attempts that converge

While nobody else writes and storage nodes do not change what they say, a check
and the remedy that it names settle a replica in one go.  They make one commit
at most, which concerns the replica alone, and after a commit a second check
finds nothing to do.  Among rivals an attempt takes effect just as well, unless
they commit in between.
-/

namespace ShardControl

/-- Storage nodes answer every check alike, and every request to disable a replica. -/
def Steady (deployed : Except CheckError Bool) (disabled : Except CheckError Unit)
    (_ : List Moment) : Moment → Prop
  | ⟨_, .isDeployed .., answer⟩ => answer = deployed
  | ⟨_, .disable .., answer⟩ => answer = disabled
  | _ => True

variable {slots : ShardSlots} {deployed : Except CheckError Bool}
  {disabled : Except CheckError Unit} {scene : Scene}

theorem inspected_of_steady {older : List Moment} {moment : Moment}
    (steady : Steady deployed disabled older moment) : Inspected deployed older moment := by
  obtain ⟨found, call, answer⟩ := moment
  cases call with
  | isDeployed node id => exact steady
  | _ => trivial

theorem exists_steady (slots : ShardSlots) (deployed : Except CheckError Bool)
    (disabled : Except CheckError Unit) (past : List Moment) (store : Store) (call : ControlCall) :
    ∃ answer, (World.alone slots).Allows call store answer ∧
      Steady deployed disabled past ⟨store, call, answer⟩ := by
  obtain ⟨answer, allowed⟩ := exists_allowed slots store call
  cases call with
  | isDeployed node id => exact ⟨deployed, trivial, rfl⟩
  | disable node id => exact ⟨disabled, trivial, rfl⟩
  | _ => exact ⟨answer, allowed, trivial⟩

/-! ## One replica and nothing else -/

/-- Topologies that differ at most in their sequence and in one replica: its entry in the shard
that its id names is gone. -/
structure Topology.AgreesBut (topology last : Topology) (id : ReplicaId) : Prop where
  storeName : last.storeName = topology.storeName
  datacenters : last.datacenters = topology.datacenters
  storageNodes : last.storageNodes = topology.storageNodes
  shard? : ∀ shard, last.shard? shard = topology.shard? shard ∨
    shard = id.shard ∧ last.shard? shard = (topology.shard? shard).map (Shard.without · id)

structure Parameters.AgreesBut (parameters last : Parameters) (id : ReplicaId) : Prop where
  policies : last.policies = parameters.policies
  storageNodes : last.storageNodes = parameters.storageNodes
  replica? : ∀ other, other ≠ id → last.replica? other = parameters.replica? other

/-- Stores that differ at most in their sequence and in one replica. -/
structure Store.AgreesBut (store last : Store) (id : ReplicaId) : Prop where
  topology : store.topology.AgreesBut last.topology id
  parameters : store.parameters.AgreesBut last.parameters id

theorem Topology.agreesBut_withSequence (topology : Topology) (sequence : UInt64)
    (id : ReplicaId) : topology.AgreesBut (topology.withSequence sequence) id :=
  ⟨rfl, rfl, rfl, fun _ => .inl rfl⟩

theorem Topology.agreesBut_without {topology : Topology} {shard : Shard} {id : ReplicaId}
    (present : topology.shard? id.shard = some shard) (sequence : UInt64) :
    topology.AgreesBut ((topology.putShard (shard.without id)).withSequence sequence) id := by
  refine ⟨rfl, rfl, rfl, fun other => ?_⟩
  change (topology.putShard (shard.without id)).shard? other = _ ∨
    other = id.shard ∧ (topology.putShard (shard.without id)).shard? other = _
  have named : shard.id = id.shard := (shard?_eq_some_iff.mp present).2
  rw [shard?_putShard, Shard.id_without, named]
  by_cases same : id.shard = other
  · subst same
    exact .inr ⟨rfl, by simp [present]⟩
  · exact .inl (if_neg same)

/-- An update that names one replica leaves the parameters of the others. -/
theorem Store.agreesBut_apply {store : Store} {update : Update} {id : ReplicaId}
    (upserts : ∀ params ∈ update.upserts, params.id = id)
    (removals : ∀ removed ∈ update.removals, removed = id) :
    store.parameters.AgreesBut (store.apply update).parameters id := by
  refine ⟨policies_apply store update, storageNodes_apply store update, fun other differ => ?_⟩
  have noUpsert : update.upserts.filter (fun params => params.id = other) = [] := by
    refine List.filter_eq_nil_iff.mpr fun params member => ?_
    rw [upserts params member]
    simpa using differ.symm
  have noRemoval : other ∉ update.removals := fun member => differ (removals other member)
  rw [replica?_apply, noUpsert, if_neg noRemoval]
  rfl

/-- The store as it was, or after one commit that concerns the replica alone. -/
inductive Store.Settles (store : Store) (id : ReplicaId) : Store → Prop
  | rests : Settles store id store
  | commits {update : Update} (agrees : store.AgreesBut (store.apply update) id) :
      Settles store id (store.apply update)

theorem Store.settles_mended (store : Store) (params : ReplicaParams) :
    store.Settles params.id (store.mended params) :=
  .commits ⟨store.topology.agreesBut_withSequence _ _, agreesBut_apply (by simp) (by simp)⟩

theorem Remedy.Strips.settles {remedy : Remedy} {store last : Store}
    (strips : remedy.Strips store last) : store.Settles remedy.node last := by
  have own : ∀ removed ∈ remedy.removals store, removed = remedy.node := by
    intro removed member
    rw [removals] at member
    split at member <;> simp_all
  cases strips with
  | nothing _ _ => exact .rests
  | params _ =>
      exact .commits
        ⟨store.topology.agreesBut_withSequence _ _, Store.agreesBut_apply (by simp) own⟩
  | replica _ present =>
      exact .commits ⟨Topology.agreesBut_without present _, Store.agreesBut_apply (by simp) own⟩

/-! ## Remedies that settle -/

namespace Remedy

variable {remedy : Remedy}

/-- A remedy takes effect, unless it is a request that the storage node refuses. -/
def verdict (remedy : Remedy) (disabled : Except CheckError Unit) : Except CheckError Bool :=
  if remedy.kind = .markDisabled then disabled.map fun _ => true else .ok true

/-- What a check of the replica would find for the remedy's own answer from the storage node. -/
def recheck (remedy : Remedy) (deployed : Bool) (store : Store) : RemedyKind :=
  .choose (store.topology.places remedy.node remedy.storageNode) deployed
    (store.parameters.replica? remedy.node) remedy.storageNode

theorem Strips.recheck_eq {store last : Store} (strips : remedy.Strips store last) :
    remedy.recheck false last = .noOp := by
  rw [recheck, strips.places_eq_false, strips.replica?_eq, if_pos rfl]
  rfl

theorem recheck_mended {store : Store} {replica : Replica} {current : ReplicaParams}
    (placed : store.topology.replica? remedy.node = some replica)
    (here : replica.storageNode = remedy.storageNode) (named : current.id = remedy.node) :
    remedy.recheck true
      (store.mended (repaired store.parameters current replica.storageNode)) = .noOp := by
  have places : store.topology.places remedy.node remedy.storageNode = true :=
    Topology.places_eq_true_iff.mpr ⟨replica, placed, here⟩
  have stored := (store.replica?_mended (repaired store.parameters current replica.storageNode)
    remedy.node).trans (if_pos named)
  change RemedyKind.choose (store.topology.places remedy.node remedy.storageNode) _ _ _ = _
  rw [places, stored, here]
  simp [RemedyKind.choose, ReplicaParams.isOn, repaired]

theorem disable_steady :
    Ensures slots (Steady deployed disabled)
      (fun result last => result = disabled.map (fun _ => true) ∧ last.store = scene.store)
      remedy.disable.run scene := by
  rw [disable]
  apply Ensures.bindExcept
  apply Ensures.call
  intro answer _ steady
  obtain rfl : answer = disabled := steady
  cases answer with
  | error reason => exact .done ⟨rfl, rfl⟩
  | ok =>
      apply Ensures.done
      apply Ensures.bindExcept
      apply Ensures.log
      exact .done (.done ⟨rfl, rfl⟩)

/-- The store after a remedy that a check of it names: settled, and after a commit nothing is
left to do. -/
theorem apply_settles {answer : Bool} (chosen : remedy.kind = remedy.recheck answer scene.store) :
    Ensures slots (Steady deployed disabled)
      (fun result last => result = remedy.verdict disabled ∧
        scene.store.Settles remedy.node last.store ∧
        (remedy.kind = .removeStrayMetadata ∨ remedy.kind = .repairParams →
          remedy.recheck answer last.store = .noOp) ∧
        (remedy.kind = .markDisabled → last.store = scene.store))
      remedy.apply.run scene := by
  rw [apply]
  cases kind : remedy.kind with
  | noOp => exact .done ⟨by simp [verdict, kind], .rests, by simp, by simp⟩
  | removeStrayMetadata =>
      obtain ⟨rfl, _⟩ := RemedyKind.choose_eq_removal_iff.mp (chosen.symm.trans kind)
      refine removeStray_ensures.mono fun result last removes => ?_
      obtain ⟨rfl, strips⟩ := removes
      exact ⟨by simp [verdict, kind], strips.settles, fun _ => strips.recheck_eq, by simp⟩
  | repairParams =>
      obtain ⟨placed, rfl, stored, _⟩ := RemedyKind.choose_eq_repair_iff.mp (chosen.symm.trans kind)
      obtain ⟨replica, found, here⟩ := Topology.places_eq_true_iff.mp placed
      obtain ⟨current, described⟩ := Option.isSome_iff_exists.mp stored
      have named : current.id = remedy.node := KeyedMap.key_of_find? described
      refine repairParams_mends.mono fun result last mends => ?_
      rw [found, described] at mends
      obtain ⟨rfl, changed⟩ := mends
      rw [changed]
      refine ⟨by simp [verdict, kind], ?_, fun _ => recheck_mended found here named, by simp⟩
      exact named ▸ scene.store.settles_mended
        (repaired scene.store.parameters current replica.storageNode)
  | markDisabled =>
      refine disable_steady.mono fun result last disables => ?_
      obtain ⟨rfl, same⟩ := disables
      exact ⟨by simp [verdict, kind], same ▸ .rests, by simp, fun _ => same⟩

/-- What applying a remedy comes to: it takes effect unless the storage node refuses it, it commits
at most once and for the replica alone, and after a removal or a repair nothing is left to do. -/
structure Converges (remedy : Remedy) (slots : ShardSlots) (deployed : Except CheckError Bool)
    (disabled : Except CheckError Unit) (store : Store) (result : Except CheckError Bool)
    (last : Scene) : Prop where
  verdict : result = remedy.verdict disabled
  commits : last.past.countP Moment.commits = 0 ∧ last.store = store ∨
    last.past.countP Moment.commits = 1 ∧ last.store.sequence = store.sequence + 1 ∧
      store.AgreesBut last.store remedy.node
  fails : ∀ reason, result = .error reason → last.store = store
  again : remedy.kind = .removeStrayMetadata ∨ remedy.kind = .repairParams →
    Returns slots (Steady deployed disabled)
      (fun again _ => again = .ok { remedy with kind := .noOp })
      (checkLocation remedy.storageNode remedy.node).run last

theorem converges_of_runs {answer : Bool} {result : Except CheckError Bool} {middle last : Scene}
    (chosen : remedy.kind = remedy.recheck answer middle.store)
    (none : middle.past.countP Moment.commits = 0)
    (run : Runs (.alone slots) remedy.apply.run middle result last)
    (steady : Follows (Steady (.ok answer) disabled) last.past) :
    remedy.Converges slots (.ok answer) disabled middle.store result last := by
  have applies : Ensures slots (Steady (.ok answer) disabled) _ remedy.apply.run middle :=
    apply_settles chosen
  obtain ⟨rfl, settles, rechecks, kept⟩ := applies.of_runs run steady
  have counts := run.countP_commits
  rw [none] at counts
  refine ⟨rfl, ?_, ?_, fun commits => ?_⟩
  · generalize last.store = left at settles counts ⊢
    cases settles with
    | rests => exact .inl ⟨by omega, rfl⟩
    | commits agrees =>
        rw [Store.commits_apply] at counts
        exact .inr ⟨by omega, rfl, agrees⟩
  · intro reason failed
    rw [Remedy.verdict] at failed
    split at failed
    · rename_i disables
      exact kept disables
    · cases failed
  · have checks : Ensures slots (Steady (.ok answer) disabled) _
        (checkLocation remedy.storageNode remedy.node).run last :=
      checkLocation_ensures fun _ _ => inspected_of_steady
    refine .of_ensures (exists_steady slots _ disabled) steady (checks.mono ?_)
    rintro again final ⟨_, rfl⟩
    exact congrArg (fun kind => Except.ok { remedy with kind := kind }) (rechecks commits)

end Remedy

/-- An attempt that nobody disturbs settles its replica in one go, and one that takes no effect
among rivals was overtaken by them. -/
theorem attempt_converges (slots : ShardSlots) (deployed : Except CheckError Bool)
    (disabled : Except CheckError Unit) (store : Store) (node : StorageNodeId) (id : ReplicaId) :
    Returns slots (Steady deployed disabled)
      (fun found middle => middle.store = store ∧
        match found with
        | .error reason => deployed = .error reason
        | .ok remedy => remedy.storageNode = node ∧ remedy.node = id ∧
            Returns slots (Steady deployed disabled)
              (remedy.Converges slots deployed disabled store) remedy.apply.run middle)
      (checkLocation node id).run ⟨store, []⟩ ∧
    ∀ start last,
      Runs .crowd (checkLocation node id >>= Remedy.apply).run ⟨start, []⟩ (.ok false) last →
        Overtaken last.past last.store := by
  constructor
  · refine ⟨exists_run_assumed (exists_steady slots deployed disabled) _ _ trivial, ?_⟩
    intro found middle run steady
    have checks : Ensures slots (Steady deployed disabled) _ (checkLocation node id).run
        ⟨store, []⟩ := checkLocation_ensures fun _ _ => inspected_of_steady
    obtain ⟨rfl, rfl⟩ := checks.of_runs run steady
    refine ⟨rfl, ?_⟩
    have none : middle.past.countP Moment.commits = 0 :=
      Nat.add_left_cancel run.countP_commits
    cases deployed with
    | error reason => rfl
    | ok answer =>
        refine ⟨rfl, rfl, exists_run_assumed (exists_steady slots _ disabled) _ _ steady, ?_⟩
        intro result last applies further
        exact Remedy.converges_of_runs rfl none applies further
  · intro start last run
    exact (attempt_overtaken.of_runs trivial run).2 rfl

/-- The parameters of a misplaced replica are mended too late if a rival commits before. -/
theorem attempt_overtaken_misplaced :
    ∃ last, Runs .crowd (checkLocation ⟨2⟩ ⟨⟨1⟩, 1⟩ >>= Remedy.apply).run ⟨.misplaced, []⟩
      (.ok false) last ∧ Overtaken last.past last.store := by
  have rival : Store.misplaced.Leads (Store.misplaced.apply ⟨7, none, [], []⟩) :=
    Relation.ReflTransGen.single ⟨⟨7, none, [], []⟩, rfl⟩
  have stays (store : Store) : World.crowd.may store store := Store.Leads.refl store
  have hosts : World.crowd.Allows (.isDeployed ⟨2⟩ ⟨⟨1⟩, 1⟩) .misplaced (.ok true) := trivial
  have logs (store : Store) (event : Event) : World.crowd.Allows (.log event) store () := trivial
  -- Topology, parameters and storage node at the check, both readings again, the commit, the log.
  have run : Runs .crowd (checkLocation ⟨2⟩ ⟨⟨1⟩, 1⟩ >>= Remedy.apply).run ⟨.misplaced, []⟩
      (.ok false) _ :=
    .ask (stays _) trivial rfl <| .ask (stays _) trivial rfl <| .ask (stays _) trivial hosts <|
    .ask (stays _) trivial rfl <| .ask (stays _) trivial rfl <|
    .ask rival trivial rfl <| .ask (stays _) trivial (logs _ _) <| .done _ _
  exact ⟨_, run, (attempt_converges .empty (.ok true) (.ok ()) .misplaced ⟨2⟩ ⟨⟨1⟩, 1⟩).2 _ _ run⟩

end ShardControl

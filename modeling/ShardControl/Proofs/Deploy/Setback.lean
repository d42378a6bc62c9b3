import ShardControl.Deploy.Runner
import ShardControl.Proofs.Deploy.Rerun
import ShardControl.Proofs.Deploy.Solo
import ShardControl.Proofs.Repair.Removal
import ShardControl.Proofs.Store.Coherence

/-!
# Deployments that fail at the agent

A task on a storage node that the shard is not on yet commits its replica,
whatever the agent does then.  If the agent cannot be found or does not create
the replica, the runner asks for a thread that runs a cleanup job for it, and a
job that finds the replica missing on the storage node takes it out of the
metadata at once.
-/

namespace ShardControl

def Uncancelled (_ : List Moment) : Moment → Prop
  | ⟨_, .isCancelled, answer⟩ => answer = false
  | _ => True

/-- The plan is not cancelled, what a task resolved to is known, no agent creates a replica,
storage nodes deny every replica, and threads can be started. -/
def Setback (older : List Moment) : Moment → Prop
  | ⟨_, .isCancelled, answer⟩ => answer = false
  | ⟨_, .resolved key, answer⟩ => ∀ id, resolved? older key = some id → answer = some id
  | ⟨_, .createReplica .., answer⟩ => ∃ reason, answer = .error reason
  | ⟨_, .isDeployed .., answer⟩ => answer = .ok false
  | ⟨_, .spawn .., answer⟩ => answer = .ok ()
  | _ => True

theorem uncancelled_of_setback {older : List Moment} {moment : Moment}
    (setback : Setback older moment) : Uncancelled older moment := by
  obtain ⟨found, call, answer⟩ := moment
  cases call with
  | isCancelled => exact setback
  | _ => trivial

/-- What went wrong at an agent never cancels the plan. -/
theorem DeployError.policy_ofRemote (reason : RemoteError) :
    (DeployError.ofRemote reason).policy ≠ .planCancel := by
  cases reason <;> simp [ofRemote, policy]

def Plan.conclude (plan : Plan) (task : Task) (name : String) (started : Nat) :
    Except DeployError TaskState → Program Control TaskOutcome
  | .ok state => do
      let name ← task.name
      let ended : Nat ← Control.ask (.clock .now)
      Control.log (.taskEnd plan.number name state (ended - started))
      return .finished state
  | .error reason => plan.follow task name reason

namespace DeployTask

variable {task : DeployTask} {slots : ShardSlots} {assume : List Moment → Moment → Prop}
  {draft : Draft} {store : Store} {scene : Scene}

/-- The commit of a draft on the store that it was worked out from. -/
def founding (store : Store) (draft : Draft) : Moment :=
  ⟨store, .store (.commit ⟨store.sequence, some draft.topology, [draft.params], []⟩),
    .ok (store.sequence + 1)⟩

/-- The draft was committed, the task resolved to its replica, and nothing changed since. -/
structure Founded (task : DeployTask) (draft : Draft) (store : Store) (last : Scene) : Prop where
  store_eq : last.store = store.found store.sequence draft
  resolved : resolved? last.past task.key = some draft.params.id
  committed : founding store draft ∈ last.past

theorem Founded.cons (founded : task.Founded draft store scene) {moment : Moment} {left : Store}
    (kept : left = scene.store) (other : moment.resolves? task.key = none) :
    task.Founded draft store ⟨left, moment :: scene.past⟩ where
  store_eq := kept.trans founded.store_eq
  resolved := by
    rw [resolved?, List.findSome?_cons, other]
    exact founded.resolved
  committed := List.mem_cons_of_mem _ founded.committed

/-! ## The commit -/

/-- The store has the shard of the task without a replica on its storage node, and a draft of
one can be worked out. -/
structure Fresh (task : DeployTask) (slots : ShardSlots) (store : Store) (shard : Shard)
    (draft : Draft) : Prop where
  target : task.target.shardIn slots = some shard.id
  present : store.topology.shard? shard.id = some shard
  absent : shard.replicaOn task.storageNode = none
  made : Draft.ofNewReplica store.topology store.parameters shard task.storageNode
    task.directory = .ok draft

theorem create_founds {shard : Shard} (made : Draft.ofNewReplica scene.store.topology
      scene.store.parameters shard task.storageNode task.directory = .ok draft) :
    Ensures slots assume
      (fun result last => (∃ prepared, result = .ok prepared) ∧
        task.Founded draft scene.store last)
      (task.create scene.store.topology shard).run scene := by
  rw [create]
  apply Ensures.bindExcept
  apply Ensures.askStore
  apply Ensures.bindExcept
  change Ensures _ _ _ (ExceptT.mk (pure (Draft.ofNewReplica scene.store.topology
    scene.store.parameters shard task.storageNode task.directory))) _
  rw [made]
  apply Ensures.done
  apply Ensures.bindExcept
  apply Ensures.askCommit rfl
  apply Ensures.bindExcept
  apply Ensures.ask
  intro _ _ _
  apply Ensures.bindExcept
  apply Ensures.ask
  intro _ _ _
  have committed : founding scene.store draft ∈ founding scene.store draft ::
      ⟨scene.store, .store .parameters, .ok scene.store.parameters⟩ :: scene.past :=
    List.mem_cons_self
  exact .done ⟨⟨_, rfl⟩, rfl, resolved?_resolve _ _ _ _,
    List.mem_cons_of_mem _ (List.mem_cons_of_mem _ committed)⟩

theorem prepare_founds {shard : Shard} (fresh : task.Fresh slots scene.store shard draft) :
    Ensures slots assume
      (fun result last => (∃ prepared, result = .ok prepared) ∧
        task.Founded draft scene.store last)
      task.prepare.run scene := by
  have creates : task.adoptOrCreate scene.store.topology shard.id =
      task.create scene.store.topology shard := by
    simp only [adoptOrCreate, fresh.present, fresh.absent]
  rw [prepare]
  apply Ensures.bindExcept
  apply Ensures.askStore
  apply Ensures.bindExcept
  have finds : Obeys (.alone slots) (task.Repeats draft) _ task.shard.run
      ⟨scene.store, ⟨scene.store, .store .topology, .ok scene.store.topology⟩ :: scene.past⟩ :=
    shard_repeats fresh.target
  refine (Ensures.of_obeys finds).mono ?_
  rintro _ ⟨_, past⟩ ⟨rfl, rfl⟩
  change Ensures _ _ _ (task.adoptOrCreate scene.store.topology shard.id).run ⟨scene.store, past⟩
  rw [creates]
  exact create_founds fresh.made

/-- The first pass settles it. -/
theorem prepareWithRetry_founds {shard : Shard} (fresh : task.Fresh slots store shard draft)
    (past : List Moment) :
    Ensures slots assume
      (fun result last => (∃ prepared, result = .ok prepared) ∧ task.Founded draft store last)
      task.prepareWithRetry.run ⟨store, past⟩ := by
  have repeats : Obeys.Repeats (.alone slots) (fun _ _ => True) task.plan.settings.commitRetries
      (fun _ waiting => waiting.store = store) (fun _ _ => False)
      (fun result last => (∃ prepared, result = .ok prepared) ∧ task.Founded draft store last)
      task.preparation := by
    refine preparation_settles
      ⟨fun _ _ _ _ => trivial, fun _ _ _ _ same reached => reached.symm.trans same⟩ ?_
    rintro waiting rfl
    have founds : Ensures slots (fun _ _ => True) _ task.prepare.run waiting :=
      prepare_founds fresh
    refine Obeys.mono founds (fun _ _ _ => id) fun result last ends => ?_
    obtain ⟨⟨prepared, rfl⟩, founded⟩ := ends (.of_forall fun _ _ _ => trivial)
    exact ⟨⟨⟨prepared, rfl⟩, founded⟩, nofun⟩
  exact .of_obeys (Obeys.under repeats rfl)

/-! ## The agent -/

theorem contact_fails {prepared : Draft} (founded : task.Founded draft store scene) :
    Ensures slots Setback
      (fun result last => (∃ reason, result = .error (.ofRemote reason)) ∧
        task.Founded draft store last)
      (task.contact prepared).run scene := by
  rw [contact]
  apply Ensures.bindExcept
  apply Ensures.ask
  intro found _ _
  apply Ensures.bindExcept
  cases found with
  | error reason => exact .done ⟨⟨reason, rfl⟩, founded.cons rfl rfl⟩
  | ok =>
      apply Ensures.done
      apply Ensures.bindExcept
      apply Ensures.ask
      rintro _ _ ⟨reason, rfl⟩
      apply Ensures.bindExcept
      exact .done ⟨⟨reason, rfl⟩, (founded.cons rfl rfl).cons rfl rfl⟩

theorem execute_fails {shard : Shard} (fresh : task.Fresh slots store shard draft)
    (past : List Moment) :
    Ensures slots Setback
      (fun result last => (∃ reason, result = .error (.ofRemote reason)) ∧
        task.Founded draft store last)
      task.execute ⟨store, past⟩ := by
  rw [execute, deploy]
  apply Ensures.bindExcept
  refine (prepareWithRetry_founds fresh past).mono ?_
  rintro _ last ⟨⟨prepared, rfl⟩, founded⟩
  exact contact_fails founded

/-! ## The runner -/

/-- What a question keeps that neither moves the store nor resolves the task. -/
def Stays (task : DeployTask) (holds : Scene → Prop) : Prop :=
  ∀ {scene : Scene} {moment : Moment} {left : Store}, holds scene → left = scene.store →
    moment.resolves? task.key = none → holds ⟨left, moment :: scene.past⟩

theorem Founded.stays : task.Stays (task.Founded draft store) :=
  fun founded kept other => founded.cons kept other

structure FollowedUp (task : DeployTask) (job : CleanupJob) : Prop where
  key : job.key = task.key
  storageNode : job.storageNode = task.storageNode

/-- A thread was asked for to run the job: it runs, or the log says why it does not. -/
inductive Engaged (plan : Plan) (job : CleanupJob) (past : List Moment) :
    Option CleanupJob → Prop where
  | started {found : Store} (asked : ⟨found, .spawn job.thread job, .ok ()⟩ ∈ past) :
      Engaged plan job past (some job)
  | refused {found left : Store} {name reason : String}
      (asked : ⟨found, .spawn job.thread job, .error reason⟩ ∈ past)
      (told : ⟨left, .log (.cleanupSpawnFailed plan.number name reason), ()⟩ ∈ past) :
      Engaged plan job past none

/-- Threads can be started in a setback. -/
theorem Engaged.of_setback {plan : Plan} {job : CleanupJob} {past : List Moment}
    {cleanup : Option CleanupJob} (engaged : Engaged plan job past cleanup)
    (setbacks : Follows Setback past) : cleanup = some job := by
  cases engaged with
  | started asked => rfl
  | refused asked told =>
      obtain ⟨_, setback⟩ := setbacks.of_mem asked
      cases setback

/-- What the runner makes of a failure: it asks for a cleanup job, unless it cancels the plan. -/
structure Followed (task : DeployTask) (plan : Plan) (reason : DeployError)
    (outcome : TaskOutcome) (last : Scene) : Prop where
  error : outcome.error = some reason
  engaged : reason.policy ≠ .planCancel →
    ∃ job, task.FollowedUp job ∧ Engaged plan job last.past outcome.cleanup
  cancelled : reason.policy = .planCancel → outcome.cleanup = none

section

variable {holds : Scene → Prop}

theorem name_keeps (stays : task.Stays holds) (before : holds scene) :
    Ensures slots assume (fun _ last => holds last) task.name scene :=
  .call fun _ _ _ => .done (stays before rfl rfl)

theorem startCleanup_keeps (stays : task.Stays holds) (before : holds scene) (plan : Plan)
    (name : String) (job : CleanupJob) :
    Ensures slots assume
      (fun cleanup last => Engaged plan job last.past cleanup ∧ holds last)
      (plan.startCleanup name (some job)) scene := by
  rw [Plan.startCleanup]
  apply Ensures.bind
  apply Ensures.call
  intro started _ _
  apply Ensures.done
  have asked : holds ⟨scene.store, ⟨scene.store, .spawn job.thread job, started⟩ :: scene.past⟩ :=
    stays before rfl rfl
  cases started with
  | ok => exact .done ⟨.started List.mem_cons_self, asked⟩
  | error reason =>
      apply Ensures.log
      exact .done ⟨.refused (List.mem_cons_of_mem _ List.mem_cons_self) List.mem_cons_self,
        stays asked rfl rfl⟩

theorem cleanup_keeps (stays : task.Stays holds) (before : holds scene) (plan : Plan)
    (name : String) (state : TaskState) {reason : DeployError}
    (cleans : reason.policy ≠ .planCancel) :
    Ensures slots assume
      (fun outcome last => task.Followed plan reason outcome last ∧ holds last)
      (do return ⟨state, some reason, ← plan.startCleanup name (← task.toTask.cleanup)⟩) scene := by
  apply Ensures.bind
  apply Ensures.bind
  apply Ensures.bind
  refine (name_keeps stays before).mono fun renamed last kept => ?_
  apply Ensures.done
  apply Ensures.done
  apply Ensures.bind
  refine (startCleanup_keeps stays kept plan name _).mono fun cleanup last kept => ?_
  obtain ⟨engaged, kept⟩ := kept
  have followed : task.Followed plan reason ⟨state, some reason, cleanup⟩ last :=
    ⟨rfl, fun _ => ⟨_, ⟨rfl, rfl⟩, engaged⟩, fun cancels => absurd cancels cleans⟩
  exact .done ⟨followed, kept⟩

/-- A failure is followed up as its policy says, and nothing else happens to the task. -/
theorem follow_keeps (stays : task.Stays holds) (before : holds scene) (plan : Plan)
    (name : String) (reason : DeployError) :
    Ensures slots assume
      (fun outcome last => task.Followed plan reason outcome last ∧ holds last)
      (plan.follow task.toTask name reason) scene := by
  rw [Plan.follow]
  apply Ensures.bind
  refine (name_keeps stays before).mono fun renamed last kept => ?_
  apply Ensures.log
  apply Ensures.bind
  apply Ensures.call
  intro cancelled _ _
  apply Ensures.done
  have asked {event : Event} : holds ⟨last.store,
      ⟨last.store, .isCancelled, cancelled⟩ :: ⟨last.store, .log event, ()⟩ :: last.past⟩ :=
    stays (stays kept rfl rfl) rfl rfl
  cases policy : reason.policy with
  | planCancel =>
      apply Ensures.log
      apply Ensures.call
      intro _ _ _
      exact .done ⟨⟨rfl, fun other => absurd policy other, fun _ => rfl⟩,
        stays (stays asked rfl rfl) rfl rfl⟩
  | runCleanup => exact cleanup_keeps stays asked plan name _ (policy ▸ nofun)
  | noCleanupJobs => exact cleanup_keeps stays asked plan name _ (policy ▸ nofun)

end

/-- The task failed at its agent and was left to a cleanup job. -/
def HandedOver (task : DeployTask) (draft : Draft) (store : Store) (outcome : TaskOutcome)
    (last : Scene) : Prop :=
  (∃ job, outcome.cleanup = some job ∧ task.FollowedUp job) ∧ task.Founded draft store last

/-- A plan that is not cancelled executes the task and concludes. -/
theorem run_ensures {plan : Plan} {post : TaskOutcome → Scene → Prop} (past : List Moment)
    (uncancelled : ∀ older moment, assume older moment → Uncancelled older moment)
    (ensures : ∀ older started, resolved? older task.key = resolved? past task.key →
      Ensures slots assume
        (fun result last => ∀ name,
          Ensures slots assume post (plan.conclude task.toTask name started result) last)
        task.execute ⟨store, older⟩) :
    Ensures slots assume post (plan.run task.toTask) ⟨store, past⟩ := by
  rw [Plan.run]
  apply Ensures.bind
  apply Ensures.call
  intro resolved _ _
  apply Ensures.done
  apply Ensures.bind
  apply Ensures.call
  intro cancelled _ assumed
  obtain rfl : cancelled = false := uncancelled _ _ assumed
  apply Ensures.done
  apply Ensures.bind
  apply Ensures.call
  intro started _ _
  apply Ensures.done
  apply Ensures.log
  apply Ensures.bind
  refine (ensures _ started ?_).mono fun result last concludes => ?_
  · rfl
  · cases result with
    | ok state => exact concludes (task.nameWith resolved)
    | error reason => exact concludes (task.nameWith resolved)

theorem run_handsOver {plan : Plan} {shard : Shard} (fresh : task.Fresh slots store shard draft)
    (past : List Moment) :
    Ensures slots Setback (task.HandedOver draft store) (plan.run task.toTask) ⟨store, past⟩ := by
  refine run_ensures past (fun _ _ => uncancelled_of_setback) fun older started _ => ?_
  refine (execute_fails fresh older).mono ?_
  rintro _ last ⟨⟨reason, rfl⟩, founded⟩ name
  refine (follow_keeps Founded.stays founded plan name _).assumed.mono ?_
  rintro outcome final ⟨⟨followed, founded⟩, setbacks⟩
  obtain ⟨job, followedUp, engaged⟩ := followed.engaged (DeployError.policy_ofRemote reason)
  exact ⟨⟨job, engaged.of_setback setbacks, followedUp⟩, founded⟩

/-- Whatever the agent does, the replica is committed. -/
theorem run_founds {plan : Plan} {shard : Shard} (fresh : task.Fresh slots store shard draft)
    (past : List Moment) :
    Ensures slots Uncancelled (fun _ last => founding store draft ∈ last.past)
      (plan.run task.toTask) ⟨store, past⟩ := by
  refine run_ensures past (fun _ _ => id) fun older started _ => ?_
  have executes : Ensures slots Uncancelled (fun _ last => founding store draft ∈ last.past)
      task.execute ⟨store, older⟩ := by
    rw [execute, deploy]
    apply Ensures.bindExcept
    refine (prepareWithRetry_founds fresh older).mono ?_
    rintro _ last ⟨⟨prepared, rfl⟩, founded⟩
    exact .mem_past founded.committed
  exact executes.mono fun result last committed name => .mem_past committed

end DeployTask

/-! ## The cleanup job -/

namespace CleanupJob

variable {job : CleanupJob} {replica : ReplicaId} {slots : ShardSlots} {store : Store}

def removal (job : CleanupJob) (replica : ReplicaId) : Remedy :=
  ⟨job.storageNode, replica, .removeStrayMetadata⟩

theorem attempt_strips (placed : store.topology.places replica job.storageNode = true)
    (past : List Moment) :
    Ensures slots Setback
      (fun result last => result = .ok true ∧ (job.removal replica).Strips store last.store)
      ((job.attempt replica).interpret job.meaning) ⟨store, past⟩ := by
  have inspected : ∀ older moment, Setback older moment →
      Inspected (.ok false) older moment := by
    rintro older ⟨found, call, answer⟩ setback
    cases call with
    | isDeployed node id => exact setback
    | _ => trivial
  apply Ensures.bind
  refine (checkLocation_ensures inspected).mono ?_
  rintro _ ⟨_, past⟩ ⟨rfl, rfl⟩
  rw [placed]
  apply Ensures.log
  change Ensures _ _ _ (Program.bind (job.removal replica).apply.run .done) _
  rw [Program.bind_done]
  exact Remedy.removeStray_ensures

/-- The pass that finds the replica missing is the last one. -/
theorem pass_strips (placed : store.topology.places replica job.storageNode = true)
    (past : List Moment) :
    Ensures slots Setback
      (fun result last => result = .inr .completed ∧
        (job.removal replica).Strips store last.store)
      ((job.repair replica).pass.interpret job.meaning) ⟨store, past⟩ := by
  apply Ensures.call
  rintro _ _ rfl
  change Ensures _ _ _ (((job.attempt replica).bind _).interpret job.meaning) _
  refine Ensures.bindInterpret ((attempt_strips placed _).mono ?_)
  rintro _ last ⟨rfl, strips⟩
  apply Ensures.log
  exact .done ⟨rfl, strips⟩

theorem passes_strip (placed : store.topology.places replica job.storageNode = true)
    (past : List Moment) (deadline : Option Nat) (left : Nat) :
    Ensures slots Setback
      (fun outcome last => outcome = .completed ∧ (job.removal replica).Strips store last.store)
      (((job.repair replica).passes job.retries deadline 0 left).interpret job.meaning)
      ⟨store, past⟩ := by
  -- However many passes are left, the first one ends the job.
  cases left
  all_goals
    refine Ensures.bindInterpret ((pass_strips placed past).mono ?_)
    rintro _ last ⟨rfl, strips⟩
    exact .done ⟨rfl, strips⟩

theorem inPlan_strips {past : List Moment} (resolved : resolved? past job.key = some replica)
    (placed : store.topology.places replica job.storageNode = true) :
    Ensures slots Setback
      (fun outcome last => outcome = .completed ∧ (job.removal replica).Strips store last.store)
      job.inPlan ⟨store, past⟩ := by
  apply Ensures.call
  intro _ _ told
  obtain rfl := told replica resolved
  change Ensures _ _ _ (((job.repair replica).under job.retries).interpret job.meaning) _
  apply Ensures.bindInterpret
  rw [RetryPolicy.deadline]
  split
  · exact .done (passes_strip placed _ _ _)
  · apply Ensures.call
    intro started _ _
    exact Ensures.done (passes_strip placed _ _ _)

end CleanupJob

end ShardControl

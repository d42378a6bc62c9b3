import ShardControl.ControlPlane.Basic
import ShardControl.Proofs.Deploy.FollowUp
import ShardControl.Proofs.Store.Persistence

/-!
# Control planes that are opened again

All that a deployment depends on is in the document that a control plane
writes: the topology with its sequence, and the parameters.  A plane that is
opened on it goes on as if it had never been away, and a replica whose
deployment was cut short is taken over and not made again.
-/

namespace ShardControl

/-- The stores hold the same metadata, whatever number of commits led to them. -/
structure Store.SameMetadata (store other : Store) : Prop where
  topology : store.topology = other.topology
  parameters : store.parameters = other.parameters

/-! ## What is asked -/

def requests (past : List Moment) : List ControlCall :=
  (past.filter Moment.contacts).map Moment.call

theorem requests_eq_nil {past : List Moment} (silent : ∀ moment ∈ past, moment.contacts = false) :
    requests past = [] := by
  rw [requests, List.map_eq_nil_iff, List.filter_eq_nil_iff]
  intro moment member
  simp [silent moment member]

def Agents.asks (agents : Agents) (node : StorageNodeId) (draft : Draft) : List ControlCall :=
  let found : ControlCall := .findAgent draft.topology node
  let created : ControlCall := .createReplica node draft.params.settings draft.topology
  match agents.found node with
  | .error _ => [found]
  | .ok () =>
      match agents.created node draft.params.settings with
      | .error _ => [created, found]
      | .ok _ =>
          match draft.topology.storageNode? node with
          | none => [created, found]
          | some host =>
              [.register host.hostname host.registryPort (.replica draft.params.id), created, found]

namespace DeployTask

variable {task : DeployTask} {slots : ShardSlots} {store : Store} {scene last : Scene}
  {agents : Agents} {draft : Draft} {result : Except DeployError TaskState}

theorem Contacted.requests_eq (contacted : task.Contacted draft scene result last)
    (answered : Follows agents.Answer last.past) (silent : requests scene.past = []) :
    requests last.past = agents.asks task.storageNode draft := by
  cases contacted with
  | lost reason =>
      have found : Except.error reason = agents.found task.storageNode := answered.1
      rw [Agents.asks, ← found]
      exact congrArg (List.cons _) silent
  | refused reason =>
      have created : Except.error reason =
          agents.created task.storageNode draft.params.settings := answered.1
      have found : Except.ok () = agents.found task.storageNode := answered.2.1
      rw [Agents.asks, ← found, ← created]
      exact congrArg (List.cons _) (congrArg (List.cons _) silent)
  | @unlisted _ _ _ answer absent =>
      have created : Except.ok answer =
          agents.created task.storageNode draft.params.settings := answered.2.1
      have found : Except.ok () = agents.found task.storageNode := answered.2.2.1
      rw [Agents.asks, ← found, ← created]
      dsimp only
      rw [absent]
      exact congrArg (List.cons _) (congrArg (List.cons _) silent)
  | @registered _ _ _ _ answer host present =>
      have created : Except.ok answer =
          agents.created task.storageNode draft.params.settings := answered.2.2.1
      have found : Except.ok () = agents.found task.storageNode := answered.2.2.2.1
      rw [Agents.asks, ← found, ← created]
      dsimp only
      rw [present]
      exact congrArg (List.cons _) (congrArg (List.cons _) (congrArg (List.cons _) silent))

def asks (task : DeployTask) (agents : Agents) (slots : ShardSlots) (store : Store) :
    List ControlCall :=
  match (task.choice slots store).prepared with
  | .error _ => []
  | .ok params =>
      agents.asks task.storageNode ⟨(task.left slots store).topology, params⟩

theorem prepareWithRetry_silent {assume : List Moment → Moment → Prop} :
    Ensures slots assume (fun _ last => requests last.past = [])
      task.prepareWithRetry.run ⟨store, []⟩ := by
  have prepares : Obeys (.alone slots) _ (task.Ends (.alone slots)) task.prepareWithRetry.run
      ⟨store, []⟩ := prepareWithRetry_obeys Undecided.nil
  refine (Ensures.of_obeys prepares).mono ?_
  rintro (reason | draft) last ends
  · exact requests_eq_nil fun moment member => (ends moment member).2
  · exact requests_eq_nil ends.silent

theorem execute_requests :
    Ensures slots agents.Answer
      (fun _ last => requests last.past = task.asks agents slots store)
      task.execute ⟨store, []⟩ := by
  have reaches : task.Reaches store none [] ⟨store, []⟩ := ⟨rfl, rfl, rfl⟩
  have yields : Ensures slots agents.Answer _ task.prepareWithRetry.run ⟨store, []⟩ :=
    prepareWithRetry_yields reaches
  rw [execute, deploy]
  apply Ensures.bindExcept
  refine (yields.and prepareWithRetry_silent).mono ?_
  rintro (reason | draft) last ⟨⟨yields, _⟩, silent⟩
  · have failed : (task.choice slots store).prepared = .error reason := yields
    rw [asks, failed]
    exact silent
  · obtain ⟨prepared, topology⟩ := yields
    have contacts : Obeys (.alone slots) _ _ (task.contact draft).run last := contact_obeys
    refine contacts.mono (fun _ _ _ _ => trivial) ?_
    rintro result final ⟨_, contacted⟩ answered
    rw [asks, prepared, contacted.requests_eq answered silent]
    exact congrArg (agents.asks task.storageNode) (congrArg (Draft.mk · draft.params) topology)

end DeployTask

/-! ## Executions on the same metadata -/

namespace Store.SameMetadata

variable {store other : Store}

theorem sequence_eq (same : store.SameMetadata other) : store.sequence = other.sequence :=
  congrArg Topology.sequence same.topology

theorem left (same : store.SameMetadata other) (choice : Choice) (node : StorageNodeId) :
    (choice.left node store).SameMetadata (choice.left node other) := by
  cases choice with
  | fails reason => exact same
  | adopts replica stored => exact same
  | adds shard params =>
      constructor
      · simp only [Choice.left, Store.adding, same.topology, same.sequence_eq]
      · simp only [Choice.left, Store.adding, same.parameters]

end Store.SameMetadata

/-- A deployment to a shard that exists, and what agents are going to answer to it.  Each is asked
at most once in it, so its answers can be any at all, and others in the next deployment. -/
structure Order where
  shard : ShardId
  storageNode : StorageNodeId
  directory : Option StorageDirectory
  agents : Agents

/-- The task carries out the order, in whatever plan. -/
structure DeployTask.Serves (task : DeployTask) (order : Order) : Prop where
  target : task.target = .existing order.shard
  storageNode : task.storageNode = order.storageNode
  directory : task.directory = order.directory

structure Showing where
  result : Except DeployError TaskState
  resolved : Option ReplicaId
  requests : List ControlCall

/-- Executions one after the other while nobody else writes, from one store to another. -/
inductive Deployments : List Order → Store → List Showing → Store → Prop where
  | nil (store : Store) : Deployments [] store [] store
  | cons {order : Order} {orders : List Order} {task : DeployTask} {slots : ShardSlots}
      {store left : Store} {result : Except DeployError TaskState} {last : Scene}
      {showings : List Showing} (serves : task.Serves order)
      (runs : Runs (.alone slots) task.execute ⟨store, []⟩ result last)
      (answered : Follows order.agents.Answer last.past)
      (rest : Deployments orders last.store showings left) :
      Deployments (order :: orders) store
        (⟨result, resolved? last.past task.key, requests last.past⟩ :: showings) left

namespace DeployTask

variable {task again : DeployTask} {order : Order} {slots others : ShardSlots}
  {store other : Store}

theorem choice_eq_of_serves (serves : task.Serves order) (also : again.Serves order)
    (same : store.SameMetadata other) : task.choice slots store = again.choice others other := by
  simp only [choice, newChoice, serves.target, also.target, serves.storageNode, also.storageNode,
    serves.directory, also.directory, same.topology, same.parameters, ShardTarget.located]

def showing (task : DeployTask) (agents : Agents) (slots : ShardSlots) (store : Store) :
    Showing where
  result := (task.report agents slots store).result
  resolved := (task.report agents slots store).resolved
  requests := task.asks agents slots store

theorem showing_of_runs {agents : Agents} {result : Except DeployError TaskState} {last : Scene}
    (runs : Runs (.alone slots) task.execute ⟨store, []⟩ result last)
    (answered : Follows agents.Answer last.past) :
    Showing.mk result (resolved? last.past task.key) (requests last.past) =
      task.showing agents slots store ∧ last.store = task.left slots store := by
  obtain ⟨reports, leaves⟩ := report_of_runs runs answered
  have asked : Ensures slots agents.Answer _ task.execute ⟨store, []⟩ := execute_requests
  rw [asked.of_runs runs answered, showing, ← reports]
  exact ⟨rfl, leaves⟩

/-- It follows from the order and the metadata, and so do the metadata that are left. -/
theorem showing_congr (serves : task.Serves order) (also : again.Serves order)
    (same : store.SameMetadata other) :
    task.showing order.agents slots store = again.showing order.agents others other ∧
      (task.left slots store).SameMetadata (again.left others other) := by
  have chosen : task.choice slots store = again.choice others other :=
    choice_eq_of_serves serves also same
  have node : task.storageNode = again.storageNode :=
    serves.storageNode.trans also.storageNode.symm
  have left : (task.left slots store).SameMetadata (again.left others other) := by
    rw [DeployTask.left, DeployTask.left, chosen, node]
    exact same.left _ _
  refine ⟨?_, left⟩
  simp only [showing, report, asks, chosen, node, same.topology, left.topology]

end DeployTask

namespace Deployments

variable {orders : List Order} {store other left last : Store} {showings shown : List Showing}

/-- Deployments on the same metadata show the same and leave the same metadata. -/
theorem shows_eq (deployments : Deployments orders store showings left)
    (same : store.SameMetadata other) (again : Deployments orders other shown last) :
    showings = shown ∧ left.SameMetadata last := by
  induction deployments generalizing other shown with
  | nil store =>
      cases again
      exact ⟨rfl, same⟩
  | cons serves runs answered rest ih =>
      cases again with
      | cons also reruns reanswered others =>
          obtain ⟨shows, onward⟩ := DeployTask.showing_congr serves also same
          obtain ⟨first, leaves⟩ := DeployTask.showing_of_runs runs answered
          obtain ⟨second, leavesAgain⟩ := DeployTask.showing_of_runs reruns reanswered
          rw [← leaves, ← leavesAgain] at onward
          obtain ⟨rfl, final⟩ := ih onward others
          exact ⟨congrArg (List.cons · _) (first.trans (shows.trans second.symm)), final⟩

def taskOf (plan : Plan) (order : Order) : DeployTask where
  key := 0
  plan := plan
  storageNode := order.storageNode
  host := ""
  target := .existing order.shard
  directory := order.directory

theorem exists_deployments (orders : List Order) (store : Store) :
    ∃ showings left, Deployments orders store showings left := by
  induction orders generalizing store with
  | nil => exact ⟨[], store, .nil store⟩
  | cons order orders ih =>
      obtain ⟨result, last, runs, answered⟩ :=
        exists_run_assumed (order.agents.exists_answer .empty)
          (taskOf ⟨1, .standard⟩ order).execute ⟨store, []⟩ trivial
      obtain ⟨showings, left, rest⟩ := ih last.store
      exact ⟨_, left, .cons ⟨rfl, rfl, rfl⟩ runs answered rest⟩

end Deployments

/-! ## Replicas that are there already -/

def Store.Hosts (store : Store) (home : ShardId) (node : StorageNodeId) (replica : ReplicaId) :
    Prop :=
  ∃ shard, store.topology.shard? home = some shard ∧
    shard.replicaOn node = some ⟨replica, node⟩

namespace DeployTask

variable {task : DeployTask} {slots : ShardSlots} {store : Store} {home : ShardId}
  {replica : ReplicaId} {reason : DeployError} {last : Scene}

/-- The store is as it was, and the task resolved to the replica. -/
structure Adopted (task : DeployTask) (store : Store) (replica : ReplicaId) (last : Scene) :
    Prop where
  store_eq : last.store = store
  resolved : resolved? last.past task.key = some replica

theorem Adopted.stays : task.Stays (task.Adopted store replica) := by
  rintro scene moment left adopted kept other
  refine ⟨kept.trans adopted.store_eq, ?_⟩
  rw [resolved?, List.findSome?_cons, other]
  exact adopted.resolved

theorem choice_eq_adopts (hosts : store.Hosts home task.storageNode replica)
    (target : task.target.shardIn slots = some home) :
    task.choice slots store = .adopts replica (store.parameters.replica? replica) := by
  obtain ⟨shard, present, placed⟩ := hosts
  have located : task.target.located slots = .ok home := ShardTarget.located_eq_ok_iff.mpr target
  simp only [choice, located, present, placed]

/-- A replica that is there is taken over, whatever the agent makes of it. -/
theorem execute_adopts {assume : List Moment → Moment → Prop}
    (hosts : store.Hosts home task.storageNode replica)
    (target : task.target.shardIn slots = some home) :
    Ensures slots assume (fun _ last => task.Adopted store replica last)
      task.execute ⟨store, []⟩ := by
  have reaches : task.Reaches store none [] ⟨store, []⟩ := ⟨rfl, rfl, rfl⟩
  have yields : Ensures slots assume _ task.prepareWithRetry.run ⟨store, []⟩ :=
    prepareWithRetry_yields reaches
  rw [choice_eq_adopts hosts target] at yields
  refine execute_keeps Adopted.stays (yields.mono ?_)
  rintro result last ⟨_, reaches⟩
  exact ⟨reaches.store_eq, reaches.resolved_eq⟩

/-- What an execution committed before it failed is there. -/
theorem hosts_of_committed (run : Runs (.alone slots) task.execute ⟨store, []⟩ (.error reason) last)
    (committed : last.past.countP Moment.commits ≠ 0) :
    ∃ home replica, task.target.shardIn slots = some home ∧
      resolved? last.past task.key = some replica ∧
      last.store.Hosts home task.storageNode replica := by
  have executes : Ensures slots (fun _ _ => True) _ task.execute ⟨store, []⟩ :=
    execute_abandons rfl
  cases executes.of_run run reason rfl with
  | nothing same =>
      have counts : store.commits + last.past.countP Moment.commits = last.store.commits :=
        run.countP_commits
      rw [same] at counts
      exact absurd (Nat.add_left_cancel counts) committed
  | @replica shard draft fresh founded cleans =>
      have grows := Draft.grows_of_ofNewReplica fresh.present fresh.made
      have stands : Draft.Stands _ (store.found store.sequence draft) task.storageNode shard.id :=
        grows.stands fresh.absent store.sequence
      rw [← founded.store_eq] at stands
      exact ⟨shard.id, draft.params.id, fresh.target, founded.resolved, stands.listed⟩

end DeployTask

/-! ## The restart -/

namespace ControlPlane

variable {plane : ControlPlane} {tree : FileTree} {path : String}

theorem persist_result_iff (configured : plane.config.documentPath = some path) :
    (plane.persist tree).result = .ok true ↔
      plane.store.persist tree path = (.ok (), (plane.persist tree).tree) := by
  unfold persist
  rw [configured]
  dsimp only
  rcases plane.store.persist tree path with ⟨reason | done, changed⟩ <;> simp

/-- A control plane writes its store wherever the document and its draft have a place. -/
theorem persists_iff :
    (plane.persist tree).result = .ok true ↔
      ∃ path, plane.config.documentPath = some path ∧ tree.Takes (Store.draftPath path) ∧
        tree.Takes path := by
  cases configured : plane.config.documentPath with
  | none => simp [persist, configured]
  | some path =>
      rw [persist_result_iff configured]
      simp only [Option.some.injEq, exists_eq_left', ← @Store.exists_persist_iff plane.store]
      constructor
      · exact fun persisted => ⟨_, persisted⟩
      · rintro ⟨moved, persisted⟩
        simp [persist, configured, persisted]

/-- What is opened on the document starts with the metadata that were written. -/
theorem open?_persist (configured : plane.config.documentPath = some path)
    (persisted : (plane.persist tree).result = .ok true) :
    open? plane.config (plane.persist tree).tree =
      .ok (onStore plane.config (.start plane.store.topology plane.store.parameters),
        [.metadataLoaded path plane.store.sequence]) := by
  have wrote := (persist_result_iff configured).mp persisted
  have present : (plane.persist tree).tree.hasPath path = true :=
    FileTree.hasPath_of_read (Store.read_persist wrote)
  simp only [open?, openStore, configured, present, if_true, Store.load_persist wrote, Except.map]
  rfl

/-- Another control plane goes on where the first one stopped. -/
structure Resumes (plane reopened : ControlPlane) : Prop where
  config : reopened.config = plane.config
  topology : reopened.store.topology = plane.store.topology
  sequence : reopened.store.sequence = plane.store.sequence
  parameters : reopened.store.parameters = plane.store.parameters
  /-- Whatever is ordered can be carried out by both, and if agents answer both in the same way
  then both show the same and leave the same metadata. -/
  deployments : ∀ orders : List Order,
    (∃ showings left, Deployments orders plane.store showings left) ∧
    (∃ shown last, Deployments orders reopened.store shown last) ∧
    ∀ showings left shown last, Deployments orders plane.store showings left →
      Deployments orders reopened.store shown last →
        showings = shown ∧ left.topology = last.topology ∧ left.parameters = last.parameters
  /-- A replica that was committed before its deployment failed, and that is there still, is what
  every later deployment for its shard and storage node takes over. -/
  adopts : ∀ (task : DeployTask) (slots : ShardSlots) (start : Store) (reason : DeployError)
    (middle : Scene), Runs (.alone slots) task.execute ⟨start, []⟩ (.error reason) middle →
      middle.past.countP Moment.commits ≠ 0 →
        ∃ home replica, task.target.shardIn slots = some home ∧
          resolved? middle.past task.key = some replica ∧
          middle.store.Hosts home task.storageNode replica ∧
          (plane.store.Hosts home task.storageNode replica →
            ∀ later last, DeployTask.Rerun task.storageNode home reopened.store later last →
              later.Adopted reopened.store replica last)

theorem resumes_of_metadata {reopened : ControlPlane} (config : reopened.config = plane.config)
    (same : plane.store.SameMetadata reopened.store) : plane.Resumes reopened where
  config := config
  topology := same.topology.symm
  sequence := same.sequence_eq.symm
  parameters := same.parameters.symm
  deployments orders := by
    refine ⟨Deployments.exists_deployments orders _, Deployments.exists_deployments orders _, ?_⟩
    intro showings left shown last first second
    obtain ⟨shows, final⟩ := first.shows_eq same second
    exact ⟨shows, final.topology, final.parameters⟩
  adopts task slots start reason middle run committed := by
    obtain ⟨home, replica, target, resolved, hosts⟩ := DeployTask.hosts_of_committed run committed
    refine ⟨home, replica, target, resolved, hosts, ?_⟩
    rintro ⟨shard, present, placed⟩ later last ⟨here, others, result, again, reruns⟩
    rw [same.topology] at present
    rw [← here] at placed
    have executes : Ensures others (fun _ _ => True) _ later.execute ⟨reopened.store, []⟩ :=
      DeployTask.execute_adopts ⟨shard, present, placed⟩ again
    exact executes.of_run reruns

/-- A control plane can be stopped and opened again on what it wrote: if the document and its draft
have a place in the files, the store is written, and what is opened on it resumes. -/
theorem restart_transparent (plane : ControlPlane) (tree : FileTree) :
    ((plane.persist tree).result = .ok true ↔
      ∃ path, plane.config.documentPath = some path ∧ tree.Takes (Store.draftPath path) ∧
        tree.Takes path) ∧
    ((plane.persist tree).result = .ok true →
      ∃ reopened events, open? plane.config (plane.persist tree).tree = .ok (reopened, events) ∧
        plane.Resumes reopened) := by
  refine ⟨persists_iff, fun persisted => ?_⟩
  obtain ⟨path, configured, _⟩ := persists_iff.mp persisted
  exact ⟨_, _, open?_persist configured persisted, resumes_of_metadata rfl ⟨rfl, rfl⟩⟩

/-- The replica that was committed before its agent failed is taken over after a restart. -/
theorem restart_transparent_small :
    let failed := (Scene.mk .small []).play Scene.refusing DeployTask.small.execute
    let plane := onStore { Config.standard with documentPath := some "/metadata.json" }
      failed.2.store
    failed.2.past.countP Moment.commits = 1 ∧ (plane.persist ⟨∅, []⟩).result = .ok true ∧
      ∃ reopened events,
        open? plane.config (plane.persist ⟨∅, []⟩).tree = .ok (reopened, events) ∧
        let again := (Scene.mk reopened.store []).play Scene.obliging DeployTask.small.execute
        DeployTask.small.Adopted reopened.store ⟨⟨1⟩, 1⟩ again.2 := by
  intro failed plane
  have ⟨writes, resumes⟩ := restart_transparent plane ⟨∅, []⟩
  have persisted : (plane.persist ⟨∅, []⟩).result = .ok true :=
    writes.mpr ⟨"/metadata.json", rfl, ⟨["metadata.tmp"], by decide, by decide⟩,
      ⟨["metadata.json"], by decide, by decide⟩⟩
  obtain ⟨reopened, events, opened, resumes⟩ := resumes persisted
  have run : Runs (.alone .empty) DeployTask.small.execute ⟨.small, []⟩ failed.1 failed.2 :=
    Scene.runs_play (fun _ => rfl) _ _ fun _ _ => trivial
  have committed : failed.2.past.countP Moment.commits = 1 := by decide
  have resolved : resolved? failed.2.past DeployTask.small.key = some ⟨⟨1⟩, 1⟩ := by decide
  have fails : failed.1.isOk = false := by decide
  refine ⟨committed, persisted, reopened, events, opened, ?_⟩
  intro again
  cases ended : failed.1 with
  | ok state => rw [ended] at fails; cases fails
  | error reason =>
      rw [ended] at run
      obtain ⟨home, replica, target, found, hosts, adopts⟩ :=
        resumes.adopts _ _ _ _ _ run (by rw [committed]; exact Nat.one_ne_zero)
      obtain rfl := Option.some.inj (resolved.symm.trans found)
      exact adopts hosts DeployTask.small again.2 ⟨rfl, .empty, again.1, target,
        Scene.runs_play (fun _ => rfl) _ _ fun _ _ => trivial⟩

end ControlPlane

end ShardControl

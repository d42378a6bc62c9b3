import ShardControl.Proofs.Deploy.Contact
import ShardControl.Proofs.Deploy.Preparation

/-!
# Executions that are repeated

Once a task is prepared, the store has its replica, so every later execution
for the same shard and storage node takes that replica over.  It commits
nothing, and it asks the agent for exactly what the first one asked.
-/

namespace ShardControl

def ShardTarget.shardIn (slots : ShardSlots) : ShardTarget → Option ShardId
  | .existing shard => some shard
  | .slot index => slots.shard? index

namespace DeployTask

/-- An agent is asked for nothing but the replica of a draft. -/
def AsksFor (task : DeployTask) (draft : Draft) (_ : List Moment) : Moment → Prop
  | ⟨_, .createReplica node settings topology, _⟩ =>
      node = task.storageNode ∧ settings = draft.params.settings ∧ topology = draft.topology
  | _ => True

/-- Moreover nothing is committed. -/
def Repeats (task : DeployTask) (draft : Draft) (older : List Moment) : Moment → Prop
  | ⟨_, .store (.commit _), _⟩ => False
  | moment => task.AsksFor draft older moment

/-- The store is as it was, and the task resolved to the replica of a draft. -/
structure Rests (task : DeployTask) (draft : Draft) (store : Store) (last : Scene) : Prop where
  store_eq : last.store = store
  resolved : resolved? last.past task.key = some draft.params.id

variable {task : DeployTask} {draft : Draft} {slots : ShardSlots} {world : World}

theorem asksFor_of_repeats {older : List Moment} {moment : Moment}
    (repeats : task.Repeats draft older moment) : task.AsksFor draft older moment := by
  obtain ⟨found, call, answer⟩ := moment
  cases call with
  | createReplica node settings topology => exact repeats
  | _ => trivial

/-! ## Contact with the agent -/

theorem repeats_of_contacts {scene : Scene} {older : List Moment} {moment : Moment}
    (contacts : task.Contacts draft scene world older moment) :
    task.Repeats draft older moment := by
  cases contacts with
  | find reached => trivial
  | create reached => exact ⟨rfl, rfl, rfl⟩
  | log event => trivial
  | register present => trivial

theorem resolved?_of_contacted {scene last : Scene} {result : Except DeployError TaskState}
    (contacted : task.Contacted draft scene result last) (key : TaskKey) :
    resolved? last.past key = resolved? scene.past key := by
  cases contacted with
  | lost reason => rfl
  | refused reason => rfl
  | unlisted absent => rfl
  | registered present => rfl

theorem contact_rests {scene : Scene}
    (resolved : resolved? scene.past task.key = some draft.params.id) :
    Obeys (.alone slots) (task.Repeats draft) (fun _ last => task.Rests draft scene.store last)
      (task.contact draft).run scene := by
  refine contact_obeys.mono (fun _ _ _ => repeats_of_contacts) ?_
  rintro result last ⟨same, contacted⟩
  exact ⟨same.symm, (resolved?_of_contacted contacted task.key).trans resolved⟩

/-! ## Preparation on a store that has the replica -/

theorem shard_repeats {scene : Scene} {home : ShardId}
    (target : task.target.shardIn slots = some home) :
    Obeys (.alone slots) (task.Repeats draft)
      (fun result last => result = .ok home ∧ last.store = scene.store) task.shard.run scene := by
  rw [shard]
  cases chosen : task.target with
  | existing shard =>
      rw [chosen] at target
      cases target
      exact ⟨rfl, rfl⟩
  | slot index =>
      rw [chosen] at target
      apply Obeys.bindExcept
      apply Obeys.ask
      rintro _ rfl _ noted allowed
      obtain rfl : noted = some home := allowed.trans target
      exact ⟨trivial, rfl, rfl⟩

/-- A replica that is taken over comes with what is stored for it. -/
theorem adopt_repeats {scene : Scene} {home : ShardId}
    (stands : draft.Stands scene.store task.storageNode home) :
    Obeys (.alone slots) (task.Repeats draft)
      (fun result last => result = .ok draft ∧ task.Rests draft scene.store last)
      (task.adopt scene.store.topology ⟨draft.params.id, task.storageNode⟩).run scene := by
  rw [adopt]
  apply Obeys.bindExcept
  apply Obeys.ask
  rintro _ rfl _ _ _
  refine ⟨trivial, ?_⟩
  apply Obeys.bindExcept
  apply Obeys.log (fun _ _ => trivial)
  rintro _ rfl
  apply Obeys.bindExcept
  apply Obeys.askStore
  rintro _ rfl _
  refine ⟨trivial, ?_⟩
  change Obeys _ _ _ (ExceptT.mk (pure (Draft.ofStored scene.store.topology draft.params.id
    (scene.store.parameters.replica? draft.params.id)))) _
  rw [stands.stored, ← stands.topology_eq]
  exact ⟨rfl, rfl, resolved?_resolve _ _ _ _⟩

/-- On a store that has the replica a pass takes it over. -/
theorem prepare_repeats {scene : Scene} {home : ShardId}
    (target : task.target.shardIn slots = some home)
    (stands : draft.Stands scene.store task.storageNode home) :
    Obeys (.alone slots) (task.Repeats draft)
      (fun result last => result = .ok draft ∧ task.Rests draft scene.store last)
      task.prepare.run scene := by
  obtain ⟨shard, present, placed⟩ := stands.listed
  rw [prepare]
  apply Obeys.bindExcept
  apply Obeys.askStore
  rintro _ rfl _
  refine ⟨trivial, ?_⟩
  apply Obeys.bindExcept
  refine (shard_repeats target).mono (fun _ _ _ => id) ?_
  rintro _ ⟨_, past⟩ ⟨rfl, rfl⟩
  have adopts : task.adoptOrCreate scene.store.topology home =
      task.adopt scene.store.topology ⟨draft.params.id, task.storageNode⟩ := by
    simp only [adoptOrCreate, present, placed]
  change Obeys _ _ _ (task.adoptOrCreate scene.store.topology home).run ⟨scene.store, past⟩
  rw [adopts]
  exact adopt_repeats stands

theorem preparation_repeats_draft {store : Store} {home : ShardId} {policy : RetryPolicy}
    (target : task.target.shardIn slots = some home)
    (stands : draft.Stands store task.storageNode home) :
    Obeys.Repeats (.alone slots) (task.Repeats draft) policy (fun _ scene => scene.store = store)
      (fun _ _ => False) (fun result last => result = .ok draft ∧ task.Rests draft store last)
      task.preparation := by
  refine preparation_settles
    ⟨fun _ _ _ _ => trivial, fun _ _ _ _ same reached => reached.symm.trans same⟩ ?_
  rintro scene rfl
  refine (prepare_repeats target stands).mono (fun _ _ _ => id) ?_
  rintro _ last ⟨rfl, rests⟩
  exact ⟨⟨rfl, rests⟩, nofun⟩

theorem execute_repeats {scene : Scene} {home : ShardId}
    (target : task.target.shardIn slots = some home)
    (stands : draft.Stands scene.store task.storageNode home) :
    Obeys (.alone slots) (task.Repeats draft) (fun _ last => task.Rests draft scene.store last)
      task.execute scene := by
  rw [execute, deploy]
  apply Obeys.bindExcept
  refine (Obeys.under (preparation_repeats_draft target stands) rfl).mono (fun _ _ _ => id) ?_
  rintro _ last ⟨rfl, rests⟩
  change Obeys _ _ _ (task.contact draft).run last
  rw [← rests.store_eq]
  exact contact_rests rests.resolved

/-! ## Any number of repetitions -/

/-- An execution for a shard and a storage node while nobody else writes. -/
structure Rerun (node : StorageNodeId) (home : ShardId) (store : Store) (later : DeployTask)
    (last : Scene) : Prop where
  here : later.storageNode = node
  runs : ∃ slots result, later.target.shardIn slots = some home ∧
    Runs (.alone slots) later.execute ⟨store, []⟩ result last

def Reruns (node : StorageNodeId) (home : ShardId) : Store → Store → Prop :=
  Relation.ReflTransGen fun store left =>
    ∃ later last, Rerun node home store later last ∧ last.store = left

/-- No agent was asked for anything but the replica of a draft. -/
def Requested (task : DeployTask) (draft : Draft) (past : List Moment) : Prop :=
  ∀ found node settings topology answer,
    ⟨found, .createReplica node settings topology, answer⟩ ∈ past →
      node = task.storageNode ∧ settings = draft.params.settings ∧ topology = draft.topology

theorem requested_of_follows {past : List Moment} (follows : Follows (task.AsksFor draft) past) :
    task.Requested draft past := by
  intro found node settings topology answer member
  obtain ⟨older, same⟩ := follows.of_mem member
  exact same

/-- An execution that took over the replica of a draft and changed nothing. -/
structure Readopts (task : DeployTask) (draft : Draft) (store : Store) (last : Scene) : Prop where
  uncommitted : ∀ found update answer, ⟨found, .store (.commit update), answer⟩ ∉ last.past
  store_eq : last.store = store
  resolved : resolved? last.past task.key = some draft.params.id
  requested : task.Requested draft last.past

theorem Rerun.readopts {later : DeployTask} {store : Store} {home : ShardId} {node : StorageNodeId}
    {last : Scene} (stands : draft.Stands store node home)
    (rerun : Rerun node home store later last) : later.Readopts draft store last := by
  obtain ⟨rfl, slots, result, target, run⟩ := rerun
  have obeys : Obeys (.alone slots) (later.Repeats draft) _ later.execute ⟨store, []⟩ :=
    execute_repeats target stands
  obtain ⟨follows, rests⟩ := obeys.of_runs trivial run
  refine ⟨?_, rests.store_eq, rests.resolved, ?_⟩
  · intro found update answer member
    obtain ⟨older, never⟩ := follows.of_mem member
    exact never
  · exact requested_of_follows (follows.mono fun _ _ => asksFor_of_repeats)

theorem Reruns.store_eq {store left : Store} {home : ShardId} {node : StorageNodeId}
    (stands : draft.Stands store node home) (reruns : Reruns node home store left) :
    left = store := by
  induction reruns with
  | refl => rfl
  | tail _ step ih =>
      obtain ⟨later, last, rerun, rfl⟩ := step
      subst ih
      exact (rerun.readopts stands).store_eq

/-- The first contact asks for the replica that was prepared, and leaves the store as it is. -/
theorem contact_requested {scene left : Scene} {result : Except DeployError TaskState}
    (prepared : task.Prepared world draft scene)
    (run : Runs (.alone slots) (task.contact draft).run scene result left) :
    left.store = scene.store ∧ task.Requested draft left.past := by
  have before : Follows (task.AsksFor draft) scene.past := by
    apply Follows.of_forall
    rintro ⟨found, call, answer⟩ member older
    cases call with
    | createReplica node settings topology => cases prepared.silent _ member
    | _ => trivial
  have obeys : Obeys (.alone slots) (task.AsksFor draft)
      (fun _ last => task.Rests draft scene.store last) (task.contact draft).run scene :=
    (contact_rests prepared.resolved).mono (fun _ _ _ => asksFor_of_repeats) (fun _ _ => id)
  obtain ⟨follows, rests⟩ := obeys.of_runs before run
  exact ⟨rests.store_eq, requested_of_follows follows⟩

theorem reruns_readopt {start : Store} {prepared : Scene}
    (prepares : Runs .crowd task.prepareWithRetry.run ⟨start, []⟩ (.ok draft) prepared)
    (undisturbed : Undisturbed prepared.past prepared.store) :
    ∃ home, task.target.shard? prepared.past = some home ∧
      resolved? prepared.past task.key = some draft.params.id ∧
      (∀ slots result left, Runs (.alone slots) (task.contact draft).run prepared result left →
        left.store = prepared.store ∧ task.Requested draft left.past) ∧
      ∀ store, Reruns task.storageNode home prepared.store store →
        ∀ later last, Rerun task.storageNode home store later last →
          later.Readopts draft prepared.store last := by
  have obeys : Obeys .crowd _ _ task.prepareWithRetry.run ⟨start, []⟩ :=
    prepareWithRetry_obeys Undecided.nil
  obtain ⟨_, ends⟩ := obeys.of_runs trivial prepares
  obtain ⟨home, target, stands⟩ := ends.stands prepared.store (Store.Leads.refl _) undisturbed
  refine ⟨home, target, ends.resolved, ?_, ?_⟩
  · intro slots result left run
    exact contact_requested ends run
  · intro store reruns later last rerun
    obtain rfl := reruns.store_eq stands
    exact rerun.readopts stands

/-- A new replica is committed, and a task with a directory of its own takes it over. -/
theorem reruns_readopt_small :
    let first := (Scene.mk .small []).play Scene.obliging small.prepareWithRetry.run
    let later := { small with key := 2, directory := some ⟨"/other", 1⟩ }
    let second := (Scene.mk first.2.store []).play Scene.obliging later.execute
    second.2.past.countP Moment.creates = 1 ∧
      ∃ draft, first.1 = .ok draft ∧ later.Readopts draft first.2.store second.2 := by
  intro first later second
  refine ⟨by decide, ?_⟩
  have prepares : Runs .crowd small.prepareWithRetry.run ⟨.small, []⟩ first.1 first.2 :=
    Scene.runs_play (fun _ => trivial) _ _ (fun _ _ => trivial)
  have undisturbed : Undisturbed first.2.past first.2.store := by rfl
  have ended : first.1.isOk = true := by decide
  cases made : first.1 with
  | error reason => rw [made] at ended; cases ended
  | ok draft =>
      rw [made] at prepares
      obtain ⟨home, target, _, _, rerun⟩ := reruns_readopt prepares undisturbed
      cases target
      have runs : Runs (.alone .empty) later.execute ⟨first.2.store, []⟩ second.1 second.2 :=
        Scene.runs_play (fun _ => rfl) _ _ (fun _ _ => trivial)
      exact ⟨draft, rfl, rerun first.2.store .refl later second.2
        ⟨rfl, .empty, second.1, rfl, runs⟩⟩

end DeployTask

end ShardControl

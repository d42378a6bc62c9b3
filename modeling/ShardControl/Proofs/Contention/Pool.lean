import ShardControl.Proofs.Contention.Remedies

/-!
# Pools of planners

Any number of tasks are executed, and any number of cleanup attempts follow
them up, all on one store and one question at a time in any order.  A store
that is coherent in the beginning is so for good.
-/

namespace ShardControl

/-- The replica that a task resolves to in a moment. -/
def Moment.note? : Moment → Option (TaskKey × ReplicaId)
  | ⟨_, .resolve key replica, _⟩ => some (key, replica)
  | _ => none

/-- A store with the planners that use it, and what tasks have resolved to. -/
structure Pool where
  store : Store
  notes : List (TaskKey × ReplicaId)
  clients : List (Program Control Unit)

namespace Pool

def client {α : Type} (program : Program Control α) : Program Control Unit :=
  program.bind fun _ => .done ()

/-- A task is executed, an attempt follows one up, or some client asks its next question. -/
inductive Step (tasks : TaskKey → DeployTask) (pool : Pool) : Pool → Prop where
  | execute (key : TaskKey) :
      Step tasks pool { pool with clients := client (tasks key).execute :: pool.clients }
  | attempt {job : CleanupJob} {replica : ReplicaId}
      (here : job.storageNode = (tasks job.key).storageNode)
      (noted : (job.key, replica) ∈ pool.notes) :
      Step tasks pool
        { pool with
          clients := client ((job.attempt replica).interpret job.meaning) :: pool.clients }
  | ask (index : Nat) {call : ControlCall} {next : call.Answer → Program Control Unit}
      {answer : call.Answer} (asks : pool.clients[index]? = some (.call call next))
      (allowed : World.crowd.Allows call pool.store answer) :
      Step tasks pool
        { store := (Moment.mk pool.store call answer).left
          notes := (Moment.mk pool.store call answer).note?.toList ++ pool.notes
          clients := pool.clients.set index (next answer) }

/-- Steps in which no shard comes to its last number. -/
def Reaches (tasks : TaskKey → DeployTask) : Pool → Pool → Prop :=
  Relation.ReflTransGen fun pool next => Step tasks pool next ∧ next.store.topology.HasRoom

variable {tasks : TaskKey → DeployTask} {base : Nat} {pool next : Pool}

def home (tasks : TaskKey → DeployTask) (key : TaskKey) : StorageNodeId := (tasks key).storageNode

/-- The store is coherent, notes are bound, and clients go on soundly whatever happens. -/
structure Invariant (tasks : TaskKey → DeployTask) (base : Nat) (pool : Pool) : Prop where
  coherent : pool.store.Coherent
  bound : ∀ key replica, (key, replica) ∈ pool.notes →
    pool.store.topology.Binds replica (tasks key).storageNode
  clients : ∀ client ∈ pool.clients, ∃ past,
    Obeys (.coherent base) (Sound (home tasks)) (fun _ _ => True) client ⟨pool.store, past⟩

theorem client_obeys {α : Type} {program : Program Control α} {scene : Scene}
    (obeys : Obeys (.coherent base) (Sound (home tasks)) (fun _ _ => True) program scene) :
    Obeys (.coherent base) (Sound (home tasks)) (fun _ _ => True) (client program) scene :=
  Obeys.bind (obeys.mono (fun _ _ _ => id) fun _ _ => id)

/-- A sound question keeps the store coherent and every replica bound. -/
theorem left_of_sound {moment : Moment} {older : List Moment}
    (holds : (World.coherent base).holds moment.found)
    (allowed : World.crowd.Allows moment.call moment.found moment.answer)
    (sound : Sound (home tasks) older moment) :
    moment.left.Coherent ∧ (World.coherent base).may moment.found moment.left := by
  obtain ⟨found, call, answer⟩ := moment
  have stays : found.Coherent ∧ (World.coherent base).may found found :=
    ⟨holds.1, (World.coherent base).refl found⟩
  cases call with
  | store call =>
      cases call with
      | commit update =>
          change (found.respond (.commit update)).2.Coherent ∧
            (World.coherent base).may found (found.respond (.commit update)).2
          by_cases accepted : update.expected = found.sequence
          · have justified := sound accepted
            rw [Store.respond_commit_of_eq accepted]
            refine ⟨holds.1.apply holds.2.1 justified, ?_, ?_⟩
            · exact .single ⟨update, Store.commit_eq_ok_iff.mpr ⟨accepted, rfl⟩⟩
            · exact fun id node binds => Store.binds_apply holds.1 holds.2.1 justified binds
          · rw [Store.respond_commit_of_ne accepted]
            exact stays
      | _ => exact stays
  | _ => exact stays

theorem allows_of_crowd {call : ControlCall} {store : Store} {answer : call.Answer}
    (allowed : World.crowd.Allows call store answer) :
    (World.coherent base).Allows call store answer := by
  cases call with
  | store call => exact allowed
  | _ => trivial

/-- What a sound question notes is bound. -/
theorem binds_of_note {moment : Moment} {older : List Moment} {key : TaskKey}
    {replica : ReplicaId} (sound : Sound (home tasks) older moment)
    (noted : (key, replica) ∈ moment.note?.toList) :
    moment.found.topology.Binds replica (tasks key).storageNode := by
  obtain ⟨found, call, answer⟩ := moment
  cases call with
  | resolve task id =>
      obtain ⟨rfl, rfl⟩ := Prod.mk.inj (List.mem_singleton.mp noted)
      exact sound
  | _ => cases noted

/-- A step commits once at most. -/
theorem Step.leads (step : Step tasks pool next) : pool.store.Leads next.store := by
  cases step with
  | execute key => exact Store.Leads.refl _
  | attempt here noted => exact Store.Leads.refl _
  | @ask index call next answer asks allowed =>
      cases call with
      | store call => exact pool.store.leads_respond call
      | _ => exact Store.Leads.refl pool.store

theorem Invariant.step (own : ∀ key, (tasks key).key = key) (invariant : Invariant tasks base pool)
    (holds : (World.coherent base).holds pool.store) (step : Step tasks pool next) :
    Invariant tasks base next := by
  cases step with
  | execute key =>
      refine ⟨invariant.coherent, invariant.bound, List.forall_mem_cons.mpr ⟨⟨[], ?_⟩,
        invariant.clients⟩⟩
      apply client_obeys
      exact DeployTask.execute_sound (congrArg (home tasks) (own key)) Undecided.nil
  | @attempt job replica here noted =>
      refine ⟨invariant.coherent, invariant.bound, List.forall_mem_cons.mpr ⟨⟨[], ?_⟩,
        invariant.clients⟩⟩
      apply client_obeys
      apply CleanupJob.attempt_sound
      rw [here]
      exact invariant.bound _ _ noted
  | @ask index call next answer asks allowed =>
      obtain ⟨past, obeys⟩ := invariant.clients _ (List.mem_of_getElem? asks)
      obtain ⟨sound, further⟩ :=
        obeys pool.store ((World.coherent base).refl pool.store) holds answer
          (allows_of_crowd allowed)
      obtain ⟨coherent, reached⟩ := left_of_sound holds allowed sound
      refine ⟨coherent, ?_, ?_⟩
      · intro key replica noted
        rcases List.mem_append.mp noted with new | old
        · exact reached.2 _ _ (binds_of_note sound new)
        · exact reached.2 _ _ (invariant.bound key replica old)
      · -- The client that asked goes on from its answer, and to the others it was a rival.
        intro client member
        rcases List.mem_or_eq_of_mem_set member with waiting | rfl
        · obtain ⟨past, obeys⟩ := invariant.clients client waiting
          exact ⟨past, obeys.later (fun _ _ _ _ _ => trivial) reached⟩
        · exact ⟨_, further⟩

/-- What is reached from a pool without planners keeps the invariant. -/
theorem Invariant.of_reaches (own : ∀ key, (tasks key).key = key) {store : Store} {last : Pool}
    (coherent : store.Coherent) (room : store.topology.HasRoom)
    (run : Reaches tasks ⟨store, [], []⟩ last)
    (few : last.store.commits < store.commits + UInt64.size) :
    Invariant tasks store.commits last ∧ last.store.topology.HasRoom ∧
      store.Leads last.store := by
  induction run with
  | refl =>
      refine ⟨⟨coherent, ?_, ?_⟩, room, Store.Leads.refl store⟩
      · intro key replica noted
        cases noted
      · intro client member
        cases member
  | @tail middle next _ step ih =>
      have onward := step.1.leads
      have before := onward.commits_le
      obtain ⟨invariant, middleRoom, leads⟩ := ih (by omega)
      refine ⟨invariant.step own ?_ step.1, step.2, leads.trans onward⟩
      exact ⟨invariant.coherent, middleRoom, leads.commits_le, by omega⟩

/-- Every store that planners reach from a coherent one is coherent.

There are fewer commits than there are sequences, so that no sequence names two stores. -/
theorem coherent_of_reaches (own : ∀ key, (tasks key).key = key) {store : Store} {last : Pool}
    (coherent : store.Coherent) (room : store.topology.HasRoom)
    (run : Reaches tasks ⟨store, [], []⟩ last)
    (few : last.store.commits < store.commits + UInt64.size) : last.store.Coherent :=
  (Invariant.of_reaches own coherent room run few).1.coherent

/-! ## Schedules -/

def turn (reply : (call : ControlCall) → call.Answer) (pool : Pool) (index : Nat) : Pool :=
  match pool.clients[index]? with
  | some (.call call next) =>
      let answer := ((Scene.mk pool.store []).answer reply call).1
      { store := (Moment.mk pool.store call answer).left
        notes := (Moment.mk pool.store call answer).note?.toList ++ pool.notes
        clients := pool.clients.set index (next answer) }
  | _ => pool

/-- The pools after each turn of a schedule. -/
def stages (reply : (call : ControlCall) → call.Answer) (pool : Pool) : List Nat → List Pool
  | [] => []
  | index :: rest => pool.turn reply index :: stages reply (pool.turn reply index) rest

/-- A schedule is one of the orders in which clients may ask. -/
theorem reaches_turns (reply : (call : ControlCall) → call.Answer) {schedule : List Nat}
    (room : ∀ stage ∈ pool.stages reply schedule, stage.store.topology.HasRoom) :
    Reaches tasks pool (schedule.foldl (turn reply) pool) := by
  induction schedule generalizing pool with
  | nil => exact .refl
  | cons index rest ih =>
      obtain ⟨first, others⟩ := List.forall_mem_cons.mp room
      refine Relation.ReflTransGen.trans ?_ (ih others)
      cases asked : pool.clients[index]? with
      | none =>
          have same : pool.turn reply index = pool := by rw [turn, asked]
          rw [same]
      | some client =>
          cases client with
          | done value =>
              have same : pool.turn reply index = pool := by rw [turn, asked]
              rw [same]
          | call call next =>
              have turned : Step tasks pool (pool.turn reply index) := by
                simp only [turn, asked]
                exact .ask index asked
                  (Scene.allows_answer (fun _ => trivial) call ⟨pool.store, []⟩)
              exact .single ⟨turned, first⟩

theorem coherent_small : Store.small.Coherent := by
  have none : Store.small.topology.replicas = [] := by decide
  have unlisted (replica : Replica) (params : ReplicaParams) :
      ¬ Store.small.Lists replica params := by
    rintro ⟨member, _⟩
    rw [none] at member
    cases member
  refine ⟨⟨by decide, by decide, by decide⟩, ?_, ?_, ?_, ?_⟩
  · intro id
    rw [none]
    constructor
    · rintro ⟨params, stored⟩
      cases stored
    · rintro ⟨replica, member, _⟩
      cases member
  · intro replica params listed
    exact absurd listed (unlisted replica params)
  · intro first firstParams _ _ listed
    exact absurd listed (unlisted first firstParams)
  · intro replica params listed
    exact absurd listed (unlisted replica params)

/-- A commit overtakes another one, and a cleanup attempt takes its replica out again. -/
theorem coherent_of_reaches_race :
    let tasks : TaskKey → DeployTask := fun key => { DeployTask.small with key := key }
    let started : Pool :=
      ⟨.small, [], [client (tasks 2).execute, client (tasks 1).execute]⟩
    let resolved := [1, 0, 1, 0, 1, 0, 1].foldl (turn Scene.obliging) started
    let job : CleanupJob := ⟨"", 1, ⟨1⟩, .fixed 1 0⟩
    let followed : Pool :=
      { resolved with
        clients := client ((job.attempt ⟨⟨1⟩, 1⟩).interpret job.meaning) :: resolved.clients }
    let last := [0, 0, 0, 0, 0, 0, 0].foldl (turn Scene.obliging) followed
    resolved.store.commits = 1 ∧ last.store.commits = 2 ∧ last.store.Coherent := by
  intro tasks started resolved job followed last
  have starts : Reaches tasks ⟨.small, [], []⟩ started :=
    .tail (.tail .refl ⟨.execute 1, by decide⟩) ⟨.execute 2, by decide⟩
  have resolves : Reaches tasks started resolved := reaches_turns Scene.obliging (by decide)
  have follows : Reaches tasks resolved followed :=
    .single ⟨.attempt rfl (by decide), by decide⟩
  have ends : Reaches tasks followed last := reaches_turns Scene.obliging (by decide)
  have few : last.store.commits < Store.small.commits + UInt64.size := by decide
  exact ⟨by decide, by decide,
    coherent_of_reaches (fun _ => rfl) coherent_small (by decide)
      (((starts.trans resolves).trans follows).trans ends) few⟩

end Pool

end ShardControl

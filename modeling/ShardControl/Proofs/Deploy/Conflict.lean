import ShardControl.Proofs.Deploy.Past
import ShardControl.Proofs.Deploy.Preparation

/-!
# Commits that come too late

A task is refused only if the store went on to another sequence since the pass
last read the topology, so every refused pass is paid for by a commit that came
in between.  A task that gives up has committed nothing itself.
-/

namespace ShardControl

/-- The topology was read in this store, and since then neither read again nor committed. -/
def ReadLast (first : Store) (past : List Moment) : Prop :=
  ∃ newer older, past = newer ++ ⟨first, .store .topology, .ok first.topology⟩ :: older ∧
    ∀ moment ∈ newer, moment.settles? = none

theorem ReadLast.cons {first : Store} {past : List Moment} {moment : Moment}
    (read : ReadLast first past) (unsettled : moment.settles? = none) :
    ReadLast first (moment :: past) := by
  obtain ⟨newer, older, rfl, settled⟩ := read
  exact ⟨moment :: newer, older, rfl, List.forall_mem_cons.mpr ⟨unsettled, settled⟩⟩

/-- The task commits only what goes by its last reading, and is refused only if the store went on
since. -/
def Races (older : List Moment) : Moment → Prop
  | ⟨_, .store (.commit _), .ok _⟩ => Undecided older
  | ⟨found, .store (.commit update), .error _⟩ => Undecided older ∧
      ∃ first, ReadLast first older ∧ update.expected = first.sequence ∧
        first.commits < found.commits
  | _ => True

namespace DeployError

/-- The failure has nothing to do with other planners. -/
def IsOwn : DeployError → Prop
  | commitConflict _ => False
  | metadata _ => False
  | _ => True

end DeployError

namespace Draft

theorem isOwn_of_helpers {parameters : Parameters} {replicas : List Replica}
    {reason : DeployError} (failed : helpers parameters replicas = .error reason) :
    reason.IsOwn := by
  induction replicas with
  | nil => cases failed
  | cons replica rest ih =>
      rw [helpers] at failed
      split at failed
      · cases failed
        trivial
      · cases others : helpers parameters rest with
        | error other =>
            rw [others] at failed
            cases failed
            exact ih others
        | ok peers =>
            rw [others] at failed
            cases failed

/-- A draft is worked out without asking anybody. -/
theorem isOwn_of_ofNewReplica {topology : Topology} {parameters : Parameters} {shard : Shard}
    {node : StorageNodeId} {directory : Option StorageDirectory} {reason : DeployError}
    (failed : ofNewReplica topology parameters shard node directory = .error reason) :
    reason.IsOwn := by
  have renamed {α ε : Type} {rename : ε → DeployError} {answer : Except ε α}
      (failed : answer.mapError rename = .error reason) (own : ∀ other, (rename other).IsOwn) :
      reason.IsOwn := by
    cases answer with
    | error other =>
        cases failed
        exact own other
    | ok value => cases failed
  simp only [ofNewReplica, bind, Except.bind, pure, Except.pure] at failed
  split at failed
  · split at failed
    · rename_i hosted
      cases failed
      exact renamed hosted fun _ => trivial
    · split at failed
      · rename_i helped
        cases failed
        exact isOwn_of_helpers helped
      · split at failed
        · cases failed
          trivial
        · split at failed
          · rename_i grew
            cases failed
            exact renamed grew fun _ => trivial
          · split at failed
            · rename_i gave
              cases failed
              exact renamed gave fun _ => trivial
            · cases failed
  · cases failed
    trivial

end Draft

namespace DeployTask

variable {task : DeployTask} {base made : Nat} {scene : Scene}

/-- Every pass that was made is paid for by a commit of somebody else. -/
structure Behind (base made : Nat) (scene : Scene) : Prop where
  undecided : Undecided scene.past
  paid : base + made ≤ scene.store.commits

theorem Behind.later (behind : Behind base made scene) {store : Store}
    (leads : scene.store.Leads store) : Behind base made ⟨store, scene.past⟩ :=
  ⟨behind.undecided, Nat.le_trans behind.paid leads.commits_le⟩

theorem Behind.cons (behind : Behind base made scene) {moment : Moment}
    (uncommitted : moment.commits = false) (silent : moment.contacts = false) :
    Behind base made ⟨scene.store, moment :: scene.past⟩ :=
  ⟨behind.undecided.cons uncommitted silent, behind.paid⟩

/-- How a pass ends: if it was overtaken, somebody else has committed. -/
def Passed (base made : Nat) (result : Except DeployError Draft) (scene : Scene) : Prop :=
  match result with
  | .ok _ => True
  | .error (.metadata _) => Behind base (made + 1) scene
  | .error reason => reason.IsOwn

theorem passed_of_isOwn {reason : DeployError} (own : reason.IsOwn) :
    Passed base made (.error reason) scene := by
  cases reason with
  | metadata reason => exact own.elim
  | _ => exact own

theorem shard_races {first : Store}
    (reached : first.Leads scene.store) (undecided : Undecided scene.past)
    (read : ReadLast first scene.past) :
    Obeys .crowd Races (fun result last => match result with
      | .ok _ => first.Leads last.store ∧ Undecided last.past ∧ ReadLast first last.past
      | .error reason => reason.IsOwn) task.shard.run scene := by
  rw [shard]
  cases task.target with
  | existing id => exact ⟨reached, undecided, read⟩
  | slot index =>
      apply Obeys.bindExcept
      apply Obeys.ask
      intro store onward _ noted _
      refine ⟨trivial, ?_⟩
      cases noted with
      | none => trivial
      | some id => exact ⟨reached.trans onward, undecided.cons rfl rfl, read.cons rfl⟩

theorem adopt_races (topology : Topology) (replica : Replica) :
    Obeys .crowd Races (Passed base made) (task.adopt topology replica).run scene := by
  rw [adopt]
  apply Obeys.bindExcept
  apply Obeys.ask
  intro first _ _ _ _
  refine ⟨trivial, ?_⟩
  apply Obeys.bindExcept
  apply Obeys.log (fun _ _ => trivial)
  intro second _
  apply Obeys.bindExcept
  apply Obeys.askStore
  intro third _ _
  refine ⟨trivial, ?_⟩
  change Obeys _ _ _ (ExceptT.mk (pure
    (Draft.ofStored topology replica.id (third.parameters.replica? replica.id)))) _
  cases third.parameters.replica? replica.id with
  | none => exact passed_of_isOwn trivial
  | some params => trivial

theorem create_races {first : Store} (behind : base + made ≤ first.commits)
    (reached : first.Leads scene.store) (undecided : Undecided scene.past)
    (read : ReadLast first scene.past) (shard : Shard) :
    Obeys .crowd Races (Passed base made) (task.create first.topology shard).run scene := by
  rw [create]
  apply Obeys.bindExcept
  apply Obeys.askStore
  intro second toSecond _
  refine ⟨trivial, ?_⟩
  apply Obeys.bindExcept
  cases made : Draft.ofNewReplica first.topology second.parameters shard task.storageNode
      task.directory with
  | error reason => exact passed_of_isOwn (Draft.isOwn_of_ofNewReplica made)
  | ok draft =>
      apply Obeys.bindExcept
      apply Obeys.askCommit
      · intro third _ _ _
        refine ⟨undecided.cons rfl rfl, ?_⟩
        apply Obeys.bindExcept
        apply Obeys.ask
        intro fourth _ _ _ _
        refine ⟨trivial, ?_⟩
        apply Obeys.bindExcept
        apply Obeys.log (fun _ _ => trivial)
        intro fifth _
        trivial
      · intro third toThird _ differ
        -- Another sequence is another store, to which somebody has committed since.
        have leads := (reached.trans toSecond).trans toThird
        have overtaken : first.commits < third.commits := by
          apply Nat.lt_of_le_of_ne leads.commits_le
          intro same
          exact differ (congrArg Store.sequence (leads.eq_of_commits_eq same.symm)).symm
        refine ⟨⟨undecided.cons rfl rfl, first, read.cons rfl, rfl, overtaken⟩, ?_, ?_⟩
        · exact (undecided.cons rfl rfl).cons rfl rfl
        · change base + (_ + 1) ≤ third.commits
          omega

theorem prepare_races (behind : Behind base made scene) :
    Obeys .crowd Races (Passed base made) task.prepare.run scene := by
  rw [prepare]
  apply Obeys.bindExcept
  apply Obeys.askStore
  intro first reached _
  refine ⟨trivial, ?_⟩
  have paid := (behind.later reached).paid
  apply Obeys.bindExcept
  refine (shard_races (.refl first) (behind.undecided.cons rfl rfl)
    ⟨[], scene.past, rfl, fun _ member => absurd member List.not_mem_nil⟩).mono
      (fun _ _ _ => id) ?_
  rintro (reason | id) last finds
  · exact passed_of_isOwn finds
  · obtain ⟨onward, undecided, read⟩ := finds
    change Obeys _ _ _ (task.adoptOrCreate first.topology id).run last
    rw [adoptOrCreate]
    cases first.topology.shard? id with
    | none => exact passed_of_isOwn trivial
    | some shard =>
        dsimp only
        cases shard.replicaOn task.storageNode with
        | some replica => exact adopt_races first.topology replica
        | none => exact create_races paid onward undecided read shard

/-- A task that gives up has committed nothing, and somebody else has for each of its passes. -/
def Loses {α : Type} (base attempts : Nat) (result : Except DeployError α) (scene : Scene) :
    Prop :=
  ∀ tries, result = .error (.commitConflict tries) → Behind base attempts scene

theorem behind_unclocked : Obeys.Unclocked .crowd Races (Behind base made) where
  kept _ _ _ _ := trivial
  stays _ _ _ _ behind reached := (behind.later reached).cons rfl rfl

theorem preparation_races {policy : RetryPolicy} (unlimited : policy.budget = none) :
    Obeys.Repeats .crowd Races policy (Behind base) (Behind base)
      (Loses base policy.maxAttempts) task.preparation where
  before := behind_unclocked
  between _ := behind_unclocked
  pass made scene behind := by
    apply Obeys.bind
    refine (prepare_races behind).mono (fun _ _ _ => id) ?_
    intro result last passed
    split
    · exact passed
    · rename_i other
      intro tries same
      rw [same] at passed
      exact passed.elim
  rest made reason pause scene behind := by
    apply Obeys.bind
    intro first toFirst _ _ _
    refine ⟨trivial, ?_⟩
    apply Obeys.bind
    intro second toSecond _ _ _
    refine ⟨trivial, ?_⟩
    apply Obeys.bind
    intro third toThird _ _ _
    refine ⟨trivial, ?_⟩
    exact ⟨((behind.undecided.cons rfl rfl).cons rfl rfl).cons rfl rfl,
      (behind.later ((toFirst.trans toSecond).trans toThird)).paid⟩
  giveUp made reason scene limit behind := by
    intro tries _
    refine ⟨behind.undecided, ?_⟩
    have enough := limit unlimited
    have paid := behind.paid
    omega

/-- Nothing is committed once the task is prepared, and no agent reports a conflict. -/
theorem contact_races (draft : Draft) :
    Obeys .crowd Races (fun result _ => ∀ reason, result = .error reason → reason.IsOwn)
      (task.contact draft).run scene := by
  have remote (reason : RemoteError) : (DeployError.ofRemote reason).IsOwn := by
    cases reason <;> trivial
  rw [contact]
  apply Obeys.bindExcept
  apply Obeys.ask
  intro first _ _ found _
  refine ⟨trivial, ?_⟩
  apply Obeys.bindExcept
  cases found with
  | error reason =>
      rintro _ ⟨⟩
      exact remote reason
  | ok =>
      apply Obeys.bindExcept
      apply Obeys.ask
      intro second _ _ answer _
      refine ⟨trivial, ?_⟩
      apply Obeys.bindExcept
      cases answer with
      | error reason =>
          rintro _ ⟨⟩
          exact remote reason
      | ok created =>
          apply Obeys.bindExcept
          apply Obeys.log (fun _ _ => trivial)
          intro third _
          rw [announce]
          cases draft.topology.storageNode? task.storageNode with
          | none =>
              rintro _ ⟨⟩
              trivial
          | some host =>
              apply Obeys.bindExcept
              apply Obeys.ask
              intro fourth _ _ _ _
              refine ⟨trivial, ?_⟩
              rintro _ ⟨⟩

/-- A task loses a race only after all its attempts, each spoiled by somebody else. -/
theorem execute_races (behind : Behind base 0 scene) :
    Obeys .crowd Races (Loses base task.plan.settings.commitAttempts) task.execute scene := by
  rw [execute, deploy]
  apply Obeys.bindExcept
  refine (Obeys.under (preparation_races rfl) behind).mono (fun _ _ _ => id) ?_
  rintro (reason | draft) last loses
  · intro tries same
    cases same
    have behind := loses tries rfl
    refine ⟨behind.undecided, ?_⟩
    have enough : task.plan.settings.commitAttempts ≤
        task.plan.settings.commitRetries.maxAttempts := Nat.le_max_left ..
    have paid := behind.paid
    omega
  · refine (contact_races draft).mono (fun _ _ _ => id) ?_
    intro result last own tries same
    exact (own _ same).elim

end DeployTask

end ShardControl

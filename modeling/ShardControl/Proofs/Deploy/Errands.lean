import ShardControl.Proofs.Deploy.Choice
import ShardControl.Proofs.Repair.Outcome

/-!
# Errands

An errand is an execution of a task or an attempt to clean up: a check of one
replica on one storage node, followed by the remedy that it names.  Errands
that come one after the other find the store as the one before left it, and
what each of them leaves is worked out from what it finds.
-/

namespace ShardControl

inductive Errand where
  | execute (task : DeployTask) (slots : ShardSlots)
  /-- A cleanup, with what the storage node answers about the replica. -/
  | clean (node : StorageNodeId) (id : ReplicaId) (deployed : Except CheckError Bool)

inductive Errand.Makes (store : Store) : Errand → Store → Prop
  | execute {task : DeployTask} {slots : ShardSlots} {result : Except DeployError TaskState}
      {last : Scene} (runs : Runs (.alone slots) task.execute ⟨store, []⟩ result last) :
      Makes store (.execute task slots) last.store
  | clean {node : StorageNodeId} {id : ReplicaId} {deployed : Except CheckError Bool}
      {slots : ShardSlots} {result : Except CheckError Bool} {last : Scene}
      (runs : Runs (.alone slots) (checkLocation node id >>= Remedy.apply).run ⟨store, []⟩ result
        last)
      (inspected : Follows (Inspected deployed) last.past) :
      Makes store (.clean node id deployed) last.store

/-- Errands one after the other, and the stores that they found, the latest first. -/
inductive Errands (start : Store) : List (Store × Errand) → Store → Prop
  | none : Errands start [] start
  | next {past : List (Store × Errand)} {store last : Store} {errand : Errand}
      (before : Errands start past store) (makes : errand.Makes store last) :
      Errands start ((store, errand) :: past) last

namespace Errand

/-- What a cleanup leaves in surroundings that answer as told. -/
theorem makes_clean_play (slots : ShardSlots) (reply : (call : ControlCall) → call.Answer)
    {deployed : Except CheckError Bool}
    (answers : ∀ node id, reply (.isDeployed node id) = deployed)
    (noted : ∀ slot, reply (.shard slot) = slots.shard? slot) (node : StorageNodeId)
    (id : ReplicaId) (store : Store) :
    (clean node id deployed).Makes store
      ((Scene.mk store []).play reply (checkLocation node id >>= Remedy.apply).run).2.store := by
  have runs : Runs (.alone slots) (checkLocation node id >>= Remedy.apply).run ⟨store, []⟩ _ _ :=
    Scene.runs_play noted _ _ fun _ _ => trivial
  exact .clean runs (follows_inspected_play reply answers _ store)

end Errand

/-! ## Executions -/

namespace DeployTask

variable {task : DeployTask} {slots : ShardSlots} {store last : Store}

/-- Whatever agents answer, an execution leaves what the task comes to. -/
theorem execute_leaves :
    Ensures slots (fun _ _ => True) (fun _ last => last.store = task.left slots store)
      task.execute ⟨store, []⟩ := by
  rw [execute, deploy]
  apply Ensures.bindExcept
  refine (prepareWithRetry_yields ⟨rfl, rfl, rfl⟩).mono ?_
  rintro (reason | draft) last ⟨_, reaches⟩
  · exact reaches.store_eq
  · refine (Ensures.of_obeys contact_obeys).mono fun _ after ends => ?_
    have same : last.store = after.store := ends.1
    exact same.symm.trans reaches.store_eq

theorem Executes.makes {agents : Agents} {report : Report}
    (executes : task.Executes agents slots store report last) :
    (Errand.execute task slots).Makes store last := by
  cases executes with
  | run runs _ => exact .execute runs

theorem makes_execute_iff :
    (Errand.execute task slots).Makes store last ↔ last = task.left slots store := by
  constructor
  · rintro ⟨runs⟩
    exact execute_leaves.of_run runs
  · rintro rfl
    let agents : Agents := ⟨fun _ => .ok (), fun _ _ => .ok true⟩
    have executes : task.Executes agents slots store _ _ := executes_iff.mpr ⟨rfl, rfl⟩
    exact executes.makes

end DeployTask

/-! ## Cleanups -/

/-- The storage node denies a replica that the metadata put there. -/
def Store.Denied (store : Store) (node : StorageNodeId) (id : ReplicaId)
    (deployed : Except CheckError Bool) : Prop :=
  deployed = .ok false ∧ (store.topology.places id node = true ∨
    ReplicaParams.isOn (store.parameters.replica? id) node = true)

/-- Only a removal and a repair write to the store. -/
theorem Remedy.apply_rests {remedy : Remedy} {slots : ShardSlots}
    {assume : List Moment → Moment → Prop} {scene : Scene}
    (kept : remedy.kind ≠ .removeStrayMetadata) (left : remedy.kind ≠ .repairParams) :
    Ensures slots assume (fun _ last => last.store = scene.store) remedy.apply.run scene := by
  rw [apply]
  cases kind : remedy.kind with
  | noOp => exact .done rfl
  | removeStrayMetadata => exact absurd kind kept
  | repairParams => exact absurd kind left
  | markDisabled => exact disable_ensures

/-- Where parameters agree with the placement, a cleanup removes a replica that is denied, and
does nothing else. -/
theorem Errand.strips_of_makes {store last : Store} {node : StorageNodeId} {id : ReplicaId}
    {deployed : Except CheckError Bool}
    (agrees : store.topology.places id node = true →
      ReplicaParams.isOn (store.parameters.replica? id) node = true)
    (makes : (Errand.clean node id deployed).Makes store last) :
    store.Denied node id deployed ∧
        Remedy.Strips ⟨node, id, .removeStrayMetadata⟩ store last ∨
      ¬ store.Denied node id deployed ∧ last = store := by
  cases makes with
  | @clean _ _ _ slots _ scene runs inspected =>
      have ensures : Ensures slots (Inspected deployed)
          (fun _ last => store.Denied node id deployed ∧
              Remedy.Strips ⟨node, id, .removeStrayMetadata⟩ store last.store ∨
            ¬ store.Denied node id deployed ∧ last.store = store)
          (checkLocation node id >>= Remedy.apply).run ⟨store, []⟩ := by
        apply Ensures.bindExcept
        refine (checkLocation_ensures fun _ _ answered => answered).mono ?_
        rintro _ ⟨found, past⟩ ⟨same, rfl⟩
        obtain rfl : found = store := same
        cases deployed with
        | error reason => exact .inr ⟨nofun, rfl⟩
        | ok deployed =>
            change Ensures slots _ _ (Remedy.apply ⟨node, id, .choose
              (found.topology.places id node) deployed (found.parameters.replica? id)
              node⟩).run ⟨found, past⟩
            cases kind : RemedyKind.choose (found.topology.places id node) deployed
                (found.parameters.replica? id) node with
            | removeStrayMetadata =>
                obtain ⟨rfl, listed⟩ := RemedyKind.choose_eq_removal_iff.mp kind
                exact Remedy.removeStray_ensures.mono fun _ _ strips =>
                  .inl ⟨⟨rfl, listed⟩, strips.2⟩
            | repairParams =>
                obtain ⟨placed, _, _, elsewhere⟩ := RemedyKind.choose_eq_repair_iff.mp kind
                rw [agrees placed] at elsewhere
                cases elsewhere
            | noOp | markDisabled =>
                refine (Remedy.apply_rests (by nofun) (by nofun)).mono
                  fun _ _ same => .inr ⟨?_, same⟩
                rintro ⟨denied, listed⟩
                rw [RemedyKind.choose_eq_removal_iff.mpr ⟨Except.ok.inj denied, listed⟩] at kind
                cases kind
      exact ensures.of_runs runs inspected

end ShardControl

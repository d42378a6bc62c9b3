import ShardControl.Proofs.Deploy.Contact
import ShardControl.Proofs.Deploy.Preparation
import ShardControl.Proofs.Store.Coherence

/-!
# Planners that share a store

Tasks and cleanup attempts read the store in several questions, and rivals may
commit between any two of them.  A commit is accepted on an unchanged store
alone, so whatever is accepted was worked out from the very store that it
changes.
-/

namespace ShardControl

/-- Rivals keep replicas bound, and every store that is found is coherent. -/
def World.coherent (base : Nat) : World where
  may first last := first.Leads last ∧
    ∀ id node, first.topology.Binds id node → last.topology.Binds id node
  holds store := store.Coherent ∧ store.topology.HasRoom ∧
    base ≤ store.commits ∧ store.commits < base + UInt64.size
  notes _ _ := True
  refl store := ⟨Store.Leads.refl store, fun _ _ binds => binds⟩
  trans start rest :=
    ⟨start.1.trans rest.1, fun id node binds => rest.2 id node (start.2 id node binds)⟩
  leads reached := reached.1

/-- Accepted commits are justified, and a task resolves to what is bound to its storage node. -/
def Sound (home : TaskKey → StorageNodeId) (_ : List Moment) : Moment → Prop
  | ⟨found, .store (.commit update), _⟩ =>
      update.expected = found.sequence → found.Justifies update
  | ⟨found, .resolve key id, _⟩ => found.topology.Binds id (home key)
  | _ => True

variable {base : Nat} {home : TaskKey → StorageNodeId}

/-- A store with the sequence of an earlier one is the earlier one, and nothing came between. -/
theorem World.coherent_eq {first second third : Store} (holds : (World.coherent base).holds first)
    (between : (World.coherent base).may first second)
    (reached : (World.coherent base).may second third)
    (now : (World.coherent base).holds third) (same : first.sequence = third.sequence) :
    third = first ∧ second = first := by
  have few : third.commits < first.commits + UInt64.size := by
    have low : base ≤ first.commits := holds.2.2.1
    have high : third.commits < base + UInt64.size := now.2.2.2
    omega
  obtain rfl := (between.1.trans reached.1).eq_of_sequence_eq few same.symm
  exact ⟨rfl, between.1.eq_of_leads_back reached.1⟩

/-! ## Tasks -/

namespace DeployTask

variable {task : DeployTask}

/-- An accepted update of a task adds a replica to the very store that it changes. -/
theorem Founds.now {store : Store} {update : Update}
    (founds : task.Founds (.coherent base) store update)
    (now : (World.coherent base).holds store) (accepted : update.expected = store.sequence) :
    ∃ (shard : Shard) (draft : Draft), store.topology.shard? shard.id = some shard ∧
      shard.replicaOn task.storageNode = none ∧
      draft.Grows store.topology store.parameters shard task.storageNode ∧
      update = ⟨store.sequence, some draft.topology, [draft.params], []⟩ := by
  cases founds with
  | @draft first second shard draft holds between reached present absent made =>
      obtain ⟨rfl, rfl⟩ := World.coherent_eq holds between reached now accepted
      exact ⟨shard, draft, present, absent, Draft.grows_of_ofNewReplica present made, rfl⟩

theorem Founds.justifies {store : Store} {update : Update}
    (founds : task.Founds (.coherent base) store update)
    (now : (World.coherent base).holds store) (accepted : update.expected = store.sequence) :
    store.Justifies update := by
  obtain ⟨shard, draft, present, absent, grows, rfl⟩ := founds.now now accepted
  exact .found present absent grows

/-- Whatever replica a task comes to is bound to the storage node of the task. -/
theorem Comes.binds {store : Store} {id : ReplicaId}
    (comes : task.Comes (.coherent base) store id) :
    store.topology.Binds id task.storageNode := by
  cases comes with
  | listed holds reached member here =>
      have binds := Topology.Binds.of_mem holds.1.orderly member
      rw [here] at binds
      exact reached.2 _ _ binds
  | founded holds founds accepted upserts reached =>
      obtain ⟨shard, draft, present, absent, grows, rfl⟩ := founds.now holds accepted
      cases upserts
      exact reached.2 _ _ (Store.binds_found holds.1 holds.2.1 present absent grows)

theorem sound_of_prepares (own : home task.key = task.storageNode) {older : List Moment}
    {moment : Moment} (now : (World.coherent base).holds moment.found)
    (prepares : task.Prepares (.coherent base) older moment) : Sound home older moment := by
  obtain ⟨found, call, answer⟩ := moment
  cases call with
  | store call =>
      cases call with
      | commit update => exact prepares.2.justifies now
      | _ => trivial
  | resolve key id =>
      obtain ⟨rfl, comes⟩ := prepares
      change found.topology.Binds id (home task.key)
      rw [own]
      exact comes.binds
  | _ => trivial

theorem execute_sound (own : home task.key = task.storageNode) {scene : Scene}
    (undecided : Undecided scene.past) :
    Obeys (.coherent base) (Sound home) (fun _ _ => True) task.execute scene := by
  rw [execute, deploy]
  apply Obeys.bindExcept
  refine (prepareWithRetry_obeys undecided).mono (fun _ _ => sound_of_prepares own) ?_
  rintro (reason | draft) last ends
  · trivial
  · refine contact_obeys.mono (fun older moment _ contacts => ?_) (fun _ _ _ => trivial)
    cases contacts <;> trivial

end DeployTask

end ShardControl
